/-
Module: DuckPass.Core.DesktopClient
Purpose: The Rust client of the desktop application, `client.rs` and
  `protocol.rs`: its own copy of the wire format, and how it turns answers into
  values and errors.
Trusted boundary: as for `DuckPass.Core.IpcClient`; a Rust string is valid
  UTF-8; memory can be reserved for the number of entries that an answer
  announces (`Vec::with_capacity` ends the process where it cannot).
Main exports: validUtf8, Utf8String, IoError, DesktopClient.exchangePacket,
  DesktopClient.getStatus, DesktopClient.listEntries, DesktopClient.getEntry,
  DesktopClient.addEntry, DesktopClient.deleteEntry, DesktopClient.getTotp
-/
import DuckPass.Core.IpcClient

namespace DuckPass

/-! ## Strings -/

def isContinuation (byte : UInt8) : Bool := 0x80 ≤ byte && byte ≤ 0xBF

/-- The second byte of a three-byte sequence: no overlong form and no
surrogate. -/
def isSecondOfThree (first second : UInt8) : Bool :=
  if first = 0xE0 then 0xA0 ≤ second && second ≤ 0xBF
  else if first = 0xED then 0x80 ≤ second && second ≤ 0x9F
  else isContinuation second

/-- The second byte of a four-byte sequence: no overlong form and nothing past
the last code point. -/
def isSecondOfFour (first second : UInt8) : Bool :=
  if first = 0xF0 then 0x90 ≤ second && second ≤ 0xBF
  else if first = 0xF4 then 0x80 ≤ second && second ≤ 0x8F
  else isContinuation second

/-- What `String::from_utf8` accepts. -/
def validUtf8 : SecureBytes → Bool
  | [] => true
  | [first] => first < 0x80
  | [first, second] =>
      if first < 0x80 then validUtf8 [second]
      else 0xC2 ≤ first && first ≤ 0xDF && isContinuation second
  | [first, second, third] =>
      if first < 0x80 then validUtf8 [second, third]
      else if 0xC2 ≤ first && first ≤ 0xDF then
        isContinuation second && validUtf8 [third]
      else
        0xE0 ≤ first && first ≤ 0xEF && isSecondOfThree first second &&
          isContinuation third
  | first :: second :: third :: fourth :: rest =>
      if first < 0x80 then validUtf8 (second :: third :: fourth :: rest)
      else if 0xC2 ≤ first && first ≤ 0xDF then
        isContinuation second && validUtf8 (third :: fourth :: rest)
      else if 0xE0 ≤ first && first ≤ 0xEF then
        isSecondOfThree first second && isContinuation third &&
          validUtf8 (fourth :: rest)
      else
        0xF0 ≤ first && first ≤ 0xF4 && isSecondOfFour first second &&
          isContinuation third && isContinuation fourth && validUtf8 rest

/-- A Rust `String` or `&str`. -/
abbrev Utf8String := { bytes : SecureBytes // validUtf8 bytes = true }

theorem validUtf8_nil : validUtf8 [] = true := rfl

def emptyText : Utf8String := ⟨[], validUtf8_nil⟩

/-- An `io::Error`: its kind, with the text or the value its text is made
from. -/
inductive IoError where
  | unexpectedEof (message : String)
  | invalidUtf8 (bytes : SecureBytes)
  | unknownStatus (byte : UInt8)
  | requestTooLarge (size : Nat)
  | responseTooLarge (size : Nat)
  | permissionDenied (message : SecureBytes)
  | invalidInput (message : SecureBytes)
  | notFound (message : SecureBytes)
  | other (message : SecureBytes)
deriving Repr, Inhabited, DecidableEq

namespace DesktopClient

/-- `append_string` of `protocol.rs`. -/
def appendString (buf : SecureBytes) (str : Utf8String) : SecureBytes :=
  appendPrefixed buf str.val

/-- `extract_string` of `protocol.rs`. -/
def extractString (buf : SecureBytes) (offset : Nat) :
    Except IoError (Utf8String × Nat) :=
  match ntohlAt buf offset with
  | none => .error (.unexpectedEof "Buffer too short for string length prefix")
  | some len =>
      if offset + 4 + len.toNat > buf.length then
        .error (.unexpectedEof "Buffer too short for string content")
      else
        let bytes := (buf.drop (offset + 4)).take len.toNat
        if valid : validUtf8 bytes = true then
          .ok (⟨bytes, valid⟩, offset + 4 + len.toNat)
        else .error (.invalidUtf8 bytes)

/-- `extract_u32` of `protocol.rs`. -/
def extractU32 (buf : SecureBytes) (offset : Nat) :
    Except IoError (UInt32 × Nat) :=
  match ntohlAt buf offset with
  | none => .error (.unexpectedEof "Buffer too short for u32 integer")
  | some value => .ok (value, offset + 4)

/-! ## Exchanges -/

/-- `ResponseStatus` of `protocol.rs`, which counts the pong among the
statuses. -/
inductive Status where
  | ok
  | locked
  | error
  | notFound
  | pong
deriving Repr, Inhabited, DecidableEq

/-- `from_u8`. -/
def Status.ofByte (value : UInt8) : Except IoError Status :=
  if value = 0x00 then .ok .ok
  else if value = 0x01 then .ok .locked
  else if value = 0x02 then .ok .error
  else if value = 0x03 then .ok .notFound
  else if value = 0x81 then .ok .pong
  else .error (.unknownStatus value)

/-- `exchange_packet`.  The size of the request is checked before it is sent;
`failure` is the error of a connection that cannot be opened or written to. -/
def exchangePacket (connection : Connection) (failure : IoError)
    (command : CommandOpcode) (payload : SecureBytes) :
    Except IoError (Status × SecureBytes) :=
  if payload.length > maxPayload then .error (.requestTooLarge payload.length)
  else if !(connection.connected && connection.written) then .error failure
  else
    let received :=
      connection.received (serializePacket command.toByte payload)
    match ntohlAt received 0 with
    | none => .error (.unexpectedEof "failed to fill whole buffer")
    | some respLen =>
        if respLen.toNat > maxPayload then
          .error (.responseTooLarge respLen.toNat)
        else
          match received.drop 4 with
          | [] => .error (.unexpectedEof "failed to fill whole buffer")
          | statusByte :: rest => do
              let status ← Status.ofByte statusByte
              if rest.length < respLen.toNat then
                throw (.unexpectedEof "failed to fill whole buffer")
              pure (status, rest.take respLen.toNat)

/-- The text of an answer, or a text of the client's own if it does not
parse. -/
def textOr (payload : SecureBytes) (fallback : SecureBytes) : SecureBytes :=
  match extractString payload 0 with
  | .ok (str, _) => str.val
  | .error _ => fallback

/-- A status as `{:?}` prints it. -/
def Status.debug : Status → String
  | ok => "Ok"
  | locked => "Locked"
  | error => "Error"
  | notFound => "NotFound"
  | pong => "Pong"

/-- The fallback of a locked session. -/
def lockedText : SecureBytes := textBytes "Vault session is locked in agent"

structure AgentStatus where
  isUnlocked : Bool
  timeoutRemainingSeconds : UInt32
  totalEntries : UInt32
deriving Repr, Inhabited, DecidableEq

/-- `get_status`. -/
def getStatus (connection : Connection) (failure : IoError) :
    Except IoError AgentStatus := do
  let (status, payload) ← exchangePacket connection failure .status []
  if status ≠ .ok then
    throw (.other (textOr payload
      (textBytes ("Get status failed with status: " ++ status.debug))))
  match payload, ntohlAt payload 1, ntohlAt payload 5 with
  | unlocked :: _, some timeout, some total =>
      pure ⟨unlocked != 0, timeout, total⟩
  | _, _, _ =>
      throw (.unexpectedEof
        "Status response payload too short (expected 9 bytes)")

structure EntrySummary where
  service : Utf8String
  username : Utf8String
deriving DecidableEq

/-- The loop of `list_entries` with `remaining` rounds to go. -/
def extractSummaries (resp : SecureBytes) :
    (remaining offset : Nat) → Except IoError (List EntrySummary)
  | 0, _ => pure []
  | remaining + 1, offset => do
      let (service, offset) ← extractString resp offset
      let (username, offset) ← extractString resp offset
      let entries ← extractSummaries resp remaining offset
      pure (⟨service, username⟩ :: entries)

/-- `list_entries`. -/
def listEntries (connection : Connection) (failure : IoError)
    (query : Utf8String) : Except IoError (List EntrySummary) := do
  let (status, resp) ← exchangePacket connection failure .listEntries
    (appendString [] query)
  match status with
  | .ok => do
      let (count, offset) ← extractU32 resp 0
      extractSummaries resp count.toNat offset
  | .locked => throw (.permissionDenied (textOr resp lockedText))
  | .error => throw (.other (textOr resp (textBytes "Failed to list entries")))
  | status =>
      throw (.other (textBytes ("Unexpected list status: " ++ status.debug)))

structure EntryDetail where
  service : Utf8String
  username : Utf8String
  password : Utf8String
  totpSecret : Utf8String
deriving DecidableEq

/-- `get_entry`. -/
def getEntry (connection : Connection) (failure : IoError)
    (service : Utf8String) : Except IoError EntryDetail := do
  let (status, resp) ← exchangePacket connection failure .getEntry
    (appendString [] service)
  match status with
  | .ok => do
      let (s, offset) ← extractString resp 0
      let (u, offset) ← extractString resp offset
      let (p, offset) ← extractString resp offset
      let (t, _) ← extractString resp offset
      pure ⟨s, u, p, t⟩
  | .locked => throw (.permissionDenied (textOr resp lockedText))
  | .notFound =>
      throw (.notFound (textOr resp
        (textBytes "Entry '" ++ service.val ++ textBytes "' not found")))
  | status =>
      throw (.other (textOr resp
        (textBytes ("Get entry failed with status: " ++ status.debug))))

/-- `add_entry`. -/
def addEntry (connection : Connection) (failure : IoError)
    (entry : EntryDetail) : Except IoError Unit := do
  let payload := appendString [] entry.service
  let payload := appendString payload entry.username
  let payload := appendString payload entry.password
  let payload := appendString payload entry.totpSecret
  let (status, resp) ← exchangePacket connection failure .addEntry payload
  match status with
  | .ok => pure ()
  | .locked => throw (.permissionDenied (textOr resp lockedText))
  | .error =>
      throw (.invalidInput (textOr resp (textBytes "Failed to add entry")))
  | status =>
      throw (.other (textBytes
        ("Unexpected add entry status: " ++ status.debug)))

/-- `delete_entry`. -/
def deleteEntry (connection : Connection) (failure : IoError)
    (service : Utf8String) : Except IoError Unit := do
  let (status, resp) ← exchangePacket connection failure .deleteEntry
    (appendString [] service)
  match status with
  | .ok => pure ()
  | .locked => throw (.permissionDenied (textOr resp lockedText))
  | .error =>
      throw (.notFound (textOr resp
        (textBytes "Service '" ++ service.val ++ textBytes "' not found")))
  | status =>
      throw (.other (textBytes
        ("Unexpected delete status: " ++ status.debug)))

structure Totp where
  code : Utf8String
  remainingSeconds : UInt32
deriving DecidableEq

/-- `get_totp`. -/
def getTotp (connection : Connection) (failure : IoError)
    (service : Utf8String) : Except IoError Totp := do
  let (status, resp) ← exchangePacket connection failure .getTotp
    (appendString [] service)
  match status with
  | .ok => do
      let (code, offset) ← extractString resp 0
      let (remainingSeconds, _) ← extractU32 resp offset
      pure ⟨code, remainingSeconds⟩
  | .locked => throw (.permissionDenied (textOr resp lockedText))
  | .error =>
      throw (.notFound (textOr resp
        (textBytes "No TOTP secret configured for '" ++ service.val ++
          textBytes "'")))
  | status =>
      throw (.other (textBytes ("Unexpected TOTP status: " ++ status.debug)))

end DesktopClient

end DuckPass
