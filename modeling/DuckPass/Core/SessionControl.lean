/-
Module: DuckPass.Core.SessionControl
Purpose: The calls of both clients that are about the session of the agent and
  not about entries: PING, STATUS, UNLOCK, LOCK and STOP.
Trusted boundary: as for `DuckPass.Core.IpcClient`.
Main exports: IpcClient.ping, IpcClient.getStatus, IpcClient.unlock,
  IpcClient.lock, IpcClient.stopAgent, DesktopClient.ping,
  DesktopClient.unlock, DesktopClient.lock
-/
import DuckPass.Core.DesktopClient

namespace DuckPass

namespace IpcClient

/-- Connect, send the request, read the answer.  A call whose failures leave no
text does not say which of the three failed. -/
def transact (connection : Connection) (command : CommandOpcode)
    (payload : SecureBytes) : Option (UInt8 × SecureBytes) :=
  if !connection.connected then none
  else if !connection.written then none
  else
    readPacket
      (connection.received (serializePacket command.toByte payload))

/-- `ping`, and `is_agent_available`, which calls nothing else. -/
def ping (connection : Connection) : Bool :=
  match transact connection .ping [] with
  | none => false
  | some (respOpcode, _) => respOpcode == pongByte

structure AgentStatus where
  isUnlocked : Bool
  timeoutRemainingSeconds : UInt32
  totalEntries : UInt32
deriving Repr, Inhabited, DecidableEq

/-- `get_status`.  It does not look at the status byte; an answer of nine bytes
or more is taken for a status. -/
def getStatus (connection : Connection) : Option AgentStatus :=
  match transact connection .status [] with
  | none => none
  | some (_, payload) =>
      match payload, ntohlAt payload 1, ntohlAt payload 5 with
      | unlocked :: _, some timeout, some total =>
          some ⟨unlocked != 0, timeout, total⟩
      | _, _, _ => none

/-- The payload of an UNLOCK request. -/
def unlockPayload (masterPassword : SecureString) : SecureBytes :=
  appendSecureString [] masterPassword

/-- `unlock`. -/
def unlock (connection : Connection) (masterPassword : SecureString)
    (outError : SecureBytes) : Except SecureBytes Unit :=
  if !connection.connected then
    .error (textBytes "Could not connect to duckpass-agent.")
  else if !connection.written then
    .error (textBytes "Failed to send unlock command.")
  else
    match readPacket (connection.received
        (serializePacket CommandOpcode.unlock.toByte
          (unlockPayload masterPassword))) with
    | none => .error (textBytes "Agent closed connection.")
    | some response => acknowledged outError response

/-- `lock`. -/
def lock (connection : Connection) : Bool :=
  match transact connection .lock [] with
  | none => false
  | some (respOpcode, _) => respOpcode == ResponseStatus.ok.toByte

/-- `stop_agent`.  Once it is connected, it does not look whether the request
could be sent, and it does not wait for an answer. -/
def stopAgent (connection : Connection) : Bool := connection.connected

end IpcClient

namespace DesktopClient

/-- `ping`. -/
def ping (connection : Connection) (failure : IoError) :
    Except IoError Bool := do
  let (status, payload) ← exchangePacket connection failure .ping []
  pure (status == .pong && payload.isEmpty)

/-- `unlock`. -/
def unlock (connection : Connection) (failure : IoError)
    (masterPassword : Utf8String) : Except IoError Unit := do
  let (status, resp) ← exchangePacket connection failure .unlock
    (appendString [] masterPassword)
  match status with
  | .ok => pure ()
  | .error =>
      throw (.permissionDenied
        (textOr resp (textBytes "Failed to unlock vault")))
  | status =>
      throw (.other
        (textBytes ("Unexpected unlock status: " ++ status.debug)))

/-- `lock`. -/
def lock (connection : Connection) (failure : IoError) :
    Except IoError Unit := do
  let (status, _) ← exchangePacket connection failure .lock []
  if status = .ok then pure ()
  else throw (.other (textBytes "Lock vault failed"))

end DesktopClient

end DuckPass
