/-
Module: DuckPass.Proofs.SessionControl
Purpose: What the two clients learn of the agent's session and do to it is what
  the agent itself makes of it, whatever state it is in.
Trusted boundary: a connection on which both sides deliver; the primitives and
  library calls are arbitrary.
Main exports: AgentPeer.handle_eq_perform, AgentPeer.received_eq,
  AgentPeer.Controlled, session_control_through_agent
-/
import DuckPass.Core.SessionControl
import DuckPass.Proofs.AgentRefinement

namespace DuckPass

namespace AgentPeer

variable {peer : AgentPeer} {command : CommandOpcode} {payload : SecureBytes}
  {response : Response} {masterPassword : SecureString}

instance : Decidable (peer.Fits command payload) :=
  decidable_of_iff
    (payload.length ≤ maxPayload ∧
      ∀ response ∈ (peer.handle command payload).response,
        response.payload.length ≤ maxPayload)
    ⟨fun ⟨request, response⟩ => ⟨request, response⟩,
      fun ⟨request, response⟩ => ⟨request, response⟩⟩

/-! ## One exchange -/

/-- Carry a request out at this agent. -/
def perform (peer : AgentPeer) (request : AgentRequest) :
    AgentServer.Handled :=
  AgentServer.perform peer.primitives peer.library peer.env peer.agent
    peer.storage request

/-- A packet within the limit is carried out as the request it was made
for. -/
theorem handle_eq_perform (small : payload.length ≤ maxPayload) :
    peer.handle command payload =
      peer.perform (parseCommand (some command) payload) := by
  rw [handle, AgentServer.handleClient_eq, parseRequest_serializePacket small]
  rfl

/-- What is written back is what the client receives. -/
theorem received_eq
    (written : (peer.handle command payload).response = some response) :
    peer.connection.received (serializePacket command.toByte payload) =
      response.bytes := by
  change (((peer.handle command payload).response).map _).getD _ = _
  rw [written]
  rfl

/-- A packet that fits is answered by what the agent has written. -/
theorem transact_eq (fits : peer.Fits command payload)
    (written : (peer.handle command payload).response = some response) :
    IpcClient.transact peer.connection command payload =
      some (response.status, response.payload) := by
  have small := fits.response response written
  simp only [IpcClient.transact, received_eq written, Response.bytes,
    readPacket_of_fits small]
  rfl

/-- In the desktop's client as well. -/
theorem exchangePacket_eq {status : DesktopClient.Status}
    (fits : peer.Fits command payload)
    (written : (peer.handle command payload).response = some response)
    (known : DesktopClient.Status.ofByte response.status = .ok status)
    (failure : IoError) :
    DesktopClient.exchangePacket peer.connection failure command payload =
      .ok (status, response.payload) :=
  DesktopClient.exchangePacket_eq fits.request rfl rfl (received_eq written)
    (fits.response response written) known

/-- Requests without a payload and with a short answer always fit. -/
theorem fits_of_perform {request : AgentRequest}
    (parsed : parseCommand (some command) [] = request)
    (written : (peer.perform request).response = some response)
    (short : response.payload.length ≤ maxPayload) :
    peer.Fits command [] where
  request := Nat.zero_le _
  response other answered := by
    rw [handle_eq_perform (Nat.zero_le _), parsed, written] at answered
    cases answered
    exact short

/-- A ping fits. -/
theorem fits_ping : peer.Fits .ping [] :=
  fits_of_perform rfl rfl (Nat.zero_le _)

/-- So does a question for the status. -/
theorem fits_status : peer.Fits .status [] :=
  fits_of_perform rfl rfl (by
    change ((if peer.agent.vaultService.isSome then (1 : UInt8) else 0) ::
      (htonl _ ++ htonl _)).length ≤ maxPayload
    rw [List.length_cons, List.length_append, length_htonl, length_htonl]
    decide)

/-- So does a lock. -/
theorem fits_lock : peer.Fits .lock [] :=
  fits_of_perform rfl rfl (Nat.zero_le _)

/-! ## The state of the agent -/

/-- What STATUS tells the client of `ipc.cpp`. -/
def status (peer : AgentPeer) : IpcClient.AgentStatus :=
  ⟨peer.agent.vaultService.isSome, peer.agent.timeoutRemaining peer.env.now,
    peer.agent.totalEntries⟩

/-- The session that an UNLOCK leads to, or why there is none. -/
def unlocked (peer : AgentPeer) (masterPassword : SecureString) :
    Except SecureBytes AgentServer :=
  AgentServer.unlock peer.primitives peer.env masterPassword peer.agent
    peer.storage.files

/-- The three parts of a status, read from nine bytes. -/
theorem ntohlAt_status (flag : UInt8) (timeout total : UInt32) :
    ntohlAt (flag :: (htonl timeout ++ htonl total)) 1 = some timeout ∧
      ntohlAt (flag :: (htonl timeout ++ htonl total)) 5 = some total := by
  constructor
  · exact ntohlAt_htonl [flag] (htonl total) timeout
  · have read := ntohlAt_htonl (flag :: htonl timeout) [] total
    rw [List.append_nil, List.length_cons, length_htonl] at read
    exact read

/-- The flag of a status is read back. -/
theorem status_flag (present : Bool) :
    ((if present then (1 : UInt8) else 0) != 0) = present := by
  cases present <;> rfl

/-- The status comes through the socket. -/
theorem getStatus_through_agent :
    IpcClient.getStatus peer.connection = some peer.status := by
  have written : (peer.handle .status []).response =
      some (peer.agent.statusResponse peer.env.now) := by
    rw [handle_eq_perform (Nat.zero_le _)]
    rfl
  have words := ntohlAt_status
    (if peer.agent.vaultService.isSome then 1 else 0)
    (peer.agent.timeoutRemaining peer.env.now) peer.agent.totalEntries
  unfold IpcClient.getStatus
  rw [transact_eq fits_status written]
  simp only [AgentServer.statusResponse, words.1, words.2, status_flag]
  rfl

/-- To the desktop as well. -/
theorem desktopGetStatus_through_agent (failure : IoError) :
    DesktopClient.getStatus peer.connection failure =
      .ok ⟨peer.status.isUnlocked, peer.status.timeoutRemainingSeconds,
        peer.status.totalEntries⟩ := by
  have written : (peer.handle .status []).response =
      some (peer.agent.statusResponse peer.env.now) := by
    rw [handle_eq_perform (Nat.zero_le _)]
    rfl
  have words := ntohlAt_status
    (if peer.agent.vaultService.isSome then 1 else 0)
    (peer.agent.timeoutRemaining peer.env.now) peer.agent.totalEntries
  unfold DesktopClient.getStatus
  rw [exchangePacket_eq fits_status written DesktopClient.Status.ofByte_ok]
  simp only [bind, Except.bind, AgentServer.statusResponse, words.1, words.2,
    status_flag]
  rfl

/-! ## Unlocking -/

/-- The password of an unlock comes through. -/
theorem parseCommand_unlock
    (small : (IpcClient.unlockPayload masterPassword).length ≤ maxPayload) :
    parseCommand (some .unlock) (IpcClient.unlockPayload masterPassword) =
      .unlock masterPassword :=
  parseString_appendPrefixed (short_of_appendPrefixed small) _ _

/-- The answer to UNLOCK and what stays in the agent. -/
theorem handle_unlock
    (small : (IpcClient.unlockPayload masterPassword).length ≤ maxPayload) :
    peer.handle .unlock (IpcClient.unlockPayload masterPassword) =
      match peer.unlocked masterPassword with
      | .ok agent => ⟨some AgentServer.acknowledgement, agent, peer.storage⟩
      | .error err =>
          ⟨some (AgentServer.refusal .error err), peer.agent,
            peer.storage⟩ := by
  rw [handle_eq_perform small, parseCommand_unlock small]
  rfl

/-- An unlock is the agent's. -/
theorem unlock_through_agent
    (fits : peer.Fits .unlock (IpcClient.unlockPayload masterPassword))
    (outError : SecureBytes) :
    IpcClient.unlock peer.connection masterPassword outError =
      (peer.unlocked masterPassword).map fun _ => () := by
  have handled := @handle_unlock peer _ fits.request
  unfold IpcClient.unlock
  cases ended : peer.unlocked masterPassword with
  | ok agent =>
      rw [ended] at handled
      have written := congrArg AgentServer.Handled.response handled
      simp only [received_eq written, Response.bytes,
        readPacket_of_fits (fits.response _ written)]
      rfl
  | error err =>
      rw [ended] at handled
      have written := congrArg AgentServer.Handled.response handled
      have small := fits.response _ written
      simp only [received_eq written, Response.bytes,
        readPacket_of_fits small, IpcClient.acknowledged]
      rw [if_neg (AgentServer.refusal_status_ne_ok (by simp) _)]
      exact congrArg Except.error (IpcClient.errorText_refusal small outError)

/-- The Rust client says that the session is refused, and why if the text is
valid UTF-8. -/
theorem desktopUnlock_through_agent {password : Utf8String}
    (fits : peer.Fits .unlock (IpcClient.unlockPayload password.val))
    (failure : IoError) :
    DesktopClient.unlock peer.connection failure password =
      match peer.unlocked password.val with
      | .ok _ => .ok ()
      | .error err =>
          .error (.permissionDenied (DesktopClient.textOr
            (AgentServer.appendStr [] err)
            (textBytes "Failed to unlock vault"))) := by
  have handled := @handle_unlock peer _ fits.request
  have same : DesktopClient.appendString [] password =
      IpcClient.unlockPayload password.val := rfl
  unfold DesktopClient.unlock
  rw [same]
  cases ended : peer.unlocked password.val with
  | ok agent =>
      rw [ended] at handled
      have written := congrArg AgentServer.Handled.response handled
      rw [exchangePacket_eq fits written DesktopClient.Status.ofByte_ok]
      rfl
  | error err =>
      rw [ended] at handled
      have written := congrArg AgentServer.Handled.response handled
      have known : DesktopClient.Status.ofByte
        ResponseStatus.error.toByte = .ok .error := rfl
      rw [exchangePacket_eq fits written known]
      rfl

/-! ## Both clients -/

/-- What the session calls of both clients return, and what they leave in the
agent: PING and STATUS change nothing and tell the truth, UNLOCK succeeds
exactly when the agent's own `unlock` does, and after LOCK no session is
left. -/
structure Controlled (peer : AgentPeer) (password : Utf8String)
    (failure : IoError) (outError : SecureBytes) : Prop where
  ping : IpcClient.ping peer.connection = true ∧
    DesktopClient.ping peer.connection failure = .ok true
  pinged : (peer.handle .ping []).agent = peer.agent
  status : IpcClient.getStatus peer.connection = some peer.status ∧
    DesktopClient.getStatus peer.connection failure =
      .ok ⟨peer.status.isUnlocked, peer.status.timeoutRemainingSeconds,
        peer.status.totalEntries⟩
  asked : (peer.handle .status []).agent = peer.agent
  unlock : IpcClient.unlock peer.connection password.val outError =
      ((peer.unlocked password.val).map fun _ => ()) ∧
    (DesktopClient.unlock peer.connection failure password).toOption =
      (peer.unlocked password.val).toOption.map fun _ => ()
  unlocks : (peer.handle .unlock (IpcClient.unlockPayload password.val)).agent =
    (peer.unlocked password.val).toOption.getD peer.agent
  lock : IpcClient.lock peer.connection = true ∧
    DesktopClient.lock peer.connection failure = .ok ()
  locked : (peer.handle .lock []).agent = peer.agent.lock
  untouched : ∀ command, command = .ping ∨ command = .status ∨ command = .lock →
    (peer.handle command []).storage = peer.storage
  unlockReads :
    (peer.handle .unlock (IpcClient.unlockPayload password.val)).storage =
      peer.storage

end AgentPeer

/-- The session of an agent in any state, as both clients see and change it. -/
theorem session_control_through_agent {peer : AgentPeer}
    {password : Utf8String}
    (fits : peer.Fits .unlock (IpcClient.unlockPayload password.val))
    (failure : IoError) (outError : SecureBytes) :
    peer.Controlled password failure outError := by
  have handledPing := @AgentPeer.handle_eq_perform peer .ping [] (Nat.zero_le _)
  have handledStatus :=
    @AgentPeer.handle_eq_perform peer .status [] (Nat.zero_le _)
  have handledLock := @AgentPeer.handle_eq_perform peer .lock [] (Nat.zero_le _)
  have handledUnlock := @AgentPeer.handle_unlock peer _ fits.request
  have writtenPing := congrArg AgentServer.Handled.response handledPing
  have writtenLock := congrArg AgentServer.Handled.response handledLock
  constructor
  · constructor
    · rw [IpcClient.ping, AgentPeer.transact_eq AgentPeer.fits_ping writtenPing]
      rfl
    · have known : DesktopClient.Status.ofByte pongByte = .ok .pong := rfl
      rw [DesktopClient.ping, AgentPeer.exchangePacket_eq AgentPeer.fits_ping
        writtenPing known]
      rfl
  · rw [handledPing]
    rfl
  · exact ⟨AgentPeer.getStatus_through_agent,
      AgentPeer.desktopGetStatus_through_agent failure⟩
  · rw [handledStatus]
    rfl
  · constructor
    · exact AgentPeer.unlock_through_agent fits outError
    · rw [AgentPeer.desktopUnlock_through_agent fits]
      cases peer.unlocked password.val <;> rfl
  · rw [handledUnlock]
    cases peer.unlocked password.val <;> rfl
  · constructor
    · rw [IpcClient.lock, AgentPeer.transact_eq AgentPeer.fits_lock writtenLock]
      rfl
    · rw [DesktopClient.lock, AgentPeer.exchangePacket_eq AgentPeer.fits_lock
        writtenLock DesktopClient.Status.ofByte_ok]
      rfl
  · rw [handledLock]
    rfl
  · rintro command (rfl | rfl | rfl)
    · rw [handledPing]
      rfl
    · rw [handledStatus]
      rfl
    · rw [handledLock]
      rfl
  · rw [handledUnlock]
    cases peer.unlocked password.val <;> rfl

/-- An agent over the vault file of one account, before it is unlocked. -/
def Symbolic.lockedPeer : AgentPeer :=
  { Symbolic.peer with agent := Symbolic.lockedAgent 900 }

/-- Both clients unlock it. -/
theorem session_control_through_agent_lockedPeer :
    IpcClient.unlock Symbolic.lockedPeer.connection Symbolic.masterPassword
        [] = .ok () ∧
      DesktopClient.ping Symbolic.lockedPeer.connection (.notFound []) =
        .ok true := by
  have fits : Symbolic.lockedPeer.Fits .unlock
      (IpcClient.unlockPayload Symbolic.masterPassword) := by
    decide +kernel
  have opens : ((Symbolic.lockedPeer.unlocked Symbolic.masterPassword).map
      fun _ => ()) = .ok () := by
    decide +kernel
  have controlled := @session_control_through_agent Symbolic.lockedPeer
    ⟨Symbolic.masterPassword, by decide⟩ fits (.notFound []) []
  exact ⟨controlled.unlock.1.trans opens, controlled.ping.2⟩

end DuckPass
