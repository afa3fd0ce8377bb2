/-
Module: DuckPass.Core.IpcClient
Purpose: `IpcClient` of `ipc.cpp`: the requests it sends and what it makes of
  the answers, with every way in which a call can fail.
Trusted boundary: a connection is a function from the bytes sent to the bytes
  received before it ends or times out.
Main exports: Connection, IpcClient.getEntry, IpcClient.addEntry,
  IpcClient.deleteEntry, IpcClient.getTotp, IpcClient.listEntries
-/
import DuckPass.Core.Ipc

namespace DuckPass

/-- How a connection to the agent goes: whether `connect_socket` succeeds,
whether the request can be written, and what comes back for it. -/
structure Connection where
  connected : Bool
  written : Bool
  received : SecureBytes → SecureBytes

structure EntryData where
  service : SecureString
  username : SecureString
  password : SecureString
  totpSecret : SecureString
deriving Repr, Inhabited, DecidableEq

structure TotpResult where
  code : SecureString
  remainingSeconds : UInt32
deriving Repr, Inhabited, DecidableEq

namespace IpcClient

/-- The first half of every call: connect, send the request, read the answer.
Each failure leaves its text in `out_error`. -/
def exchange (connection : Connection) (command : CommandOpcode)
    (payload : SecureBytes) (sendFailure : String) :
    Except SecureBytes (UInt8 × SecureBytes) :=
  if !connection.connected then .error (textBytes "Agent not running.")
  else if !connection.written then .error (textBytes sendFailure)
  else
    match readPacket
        (connection.received (serializePacket command.toByte payload)) with
    | none => .error (textBytes "Agent disconnected.")
    | some response => .ok response

/-- The text of an answer that is not OK.  One that does not parse leaves
`out_error` as it was. -/
def errorText (outError : SecureBytes) (payload : SecureBytes) : SecureBytes :=
  (extractString payload 0).1.getD outError

/-- The four fields of an entry.  A field that does not parse stays empty and
the next one is still tried. -/
def extractEntry (payload : SecureBytes) : EntryData :=
  let (service, offset) := extractSecureString payload 0
  let (username, offset) := extractSecureString payload offset
  let (password, offset) := extractSecureString payload offset
  let (totpSecret, _) := extractSecureString payload offset
  ⟨service.getD [], username.getD [], password.getD [], totpSecret.getD []⟩

/-- `get_entry`.  `outError` is what the caller's `out_error` held before. -/
def getEntry (connection : Connection) (service : SecureString)
    (outError : SecureBytes) : Except SecureBytes EntryData := do
  let (status, payload) ← exchange connection .getEntry
    (appendSecureString [] service) "Failed to send get request."
  if status = ResponseStatus.ok.toByte then pure (extractEntry payload)
  else throw (errorText outError payload)

/-- The answer to a request that sends nothing back. -/
def acknowledged (outError : SecureBytes) (response : UInt8 × SecureBytes) :
    Except SecureBytes Unit :=
  if response.1 = ResponseStatus.ok.toByte then .ok ()
  else .error (errorText outError response.2)

/-- The payload of an ADD_ENTRY request. -/
def addPayload (entry : EntryData) : SecureBytes :=
  let payload := appendSecureString [] entry.service
  let payload := appendSecureString payload entry.username
  let payload := appendSecureString payload entry.password
  appendSecureString payload entry.totpSecret

/-- `add_entry`. -/
def addEntry (connection : Connection) (entry : EntryData)
    (outError : SecureBytes) : Except SecureBytes Unit := do
  let response ← exchange connection .addEntry (addPayload entry)
    "Failed to send add request."
  acknowledged outError response

/-- `delete_entry`. -/
def deleteEntry (connection : Connection) (service : SecureString)
    (outError : SecureBytes) : Except SecureBytes Unit := do
  let response ← exchange connection .deleteEntry
    (appendSecureString [] service) "Failed to send delete request."
  acknowledged outError response

/-- The code and, if four bytes follow it, the seconds left. -/
def extractTotp (payload : SecureBytes) : TotpResult :=
  let (code, offset) := extractString payload 0
  ⟨code.getD [], (ntohlAt payload offset).getD 0⟩

/-- `get_totp`. -/
def getTotp (connection : Connection) (service : SecureString)
    (outError : SecureBytes) : Except SecureBytes TotpResult := do
  let (status, payload) ← exchange connection .getTotp
    (appendSecureString [] service) "Failed to send TOTP request."
  if status = ResponseStatus.ok.toByte then pure (extractTotp payload)
  else throw (errorText outError payload)

/-- The loop of `list_entries` with `remaining` rounds to go.  A pair that does
not parse ends it. -/
def extractPairs (payload : SecureBytes) :
    (remaining offset : Nat) → List (SecureString × SecureString)
  | 0, _ => []
  | remaining + 1, offset =>
      match extractString payload offset with
      | (none, _) => []
      | (some svc, offset) =>
          match extractString payload offset with
          | (none, _) => []
          | (some usr, offset) =>
              (svc, usr) :: extractPairs payload remaining offset

/-- The pairs of a LIST_ENTRIES answer. -/
def extractList (payload : SecureBytes) :
    List (SecureString × SecureString) :=
  match ntohlAt payload 0 with
  | none => []
  | some count => extractPairs payload count.toNat 4

/-- `list_entries`.  Whatever fails, the list is empty. -/
def listEntries (connection : Connection) (query : SecureString) :
    List (SecureString × SecureString) :=
  if !connection.connected then []
  else if !connection.written then []
  else
    match readPacket (connection.received
        (serializePacket CommandOpcode.listEntries.toByte
          (appendString [] query))) with
    | none => []
    | some (status, payload) =>
        if status ≠ ResponseStatus.ok.toByte then [] else extractList payload

end IpcClient

end DuckPass
