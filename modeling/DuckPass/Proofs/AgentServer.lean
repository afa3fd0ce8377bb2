/-
Module: DuckPass.Proofs.AgentServer
Purpose: The handler in two stages: a packet parses to a request whatever the
  agent's state, and a request is then carried out.  Everything later proofs
  need to know about the handler is said here, once for each kind of request.
Trusted boundary: none
Main exports: EntryCall, AgentRequest, parseRequest, AgentServer.perform,
  AgentServer.handleClient_eq, AgentServer.unlock_eq_ok
-/
import DuckPass.Core.AgentServer
import DuckPass.Proofs.Ipc

namespace DuckPass

/-- A request that reads or writes entries, with its payload parsed. -/
inductive EntryCall where
  | getEntry (service : SecureString)
  | addEntry (service username password totpSecret : SecureString)
  | deleteEntry (service : SecureString)
  | listEntries (query : SecureString)
  | getTotp (service : SecureString)
deriving Repr, Inhabited, DecidableEq

/-- What a packet asks for.  A packet with an unknown opcode or a payload that
does not parse asks for nothing and is answered with a text. -/
inductive AgentRequest where
  | ping
  | status
  | unlock (masterPassword : SecureString)
  | lock
  | stop
  | entry (call : EntryCall)
  | malformed (text : String)
deriving Repr, Inhabited, DecidableEq

open AgentServer (extractSecStr extractStr extractAddPayload)

/-- The request of a payload that is a single string. -/
def parseString (payload : SecureBytes) (text : String)
    (request : SecureString → AgentRequest) : AgentRequest :=
  match (extractSecStr payload 0).1 with
  | none => .malformed text
  | some str => request str

def parseCommand (command : Option CommandOpcode) (payload : SecureBytes) :
    AgentRequest :=
  match command with
  | some .ping => .ping
  | some .status => .status
  | some .unlock => parseString payload "Invalid unlock payload." .unlock
  | some .lock => .lock
  | some .stop => .stop
  | some .getEntry =>
      parseString payload "Malformed get payload." (.entry ∘ .getEntry)
  | some .addEntry =>
      match extractAddPayload payload with
      | none => .malformed "Malformed add payload."
      | some (s, u, p, t) => .entry (.addEntry s u p t)
  | some .deleteEntry =>
      parseString payload "Malformed delete payload." (.entry ∘ .deleteEntry)
  | some .listEntries =>
      .entry (.listEntries ((extractStr payload 0).1.getD []))
  | some .getTotp =>
      parseString payload "Malformed TOTP payload." (.entry ∘ .getTotp)
  | none => .malformed "Unknown command opcode."

/-- The request in the bytes a client sent, if they are a packet at all. -/
def parseRequest (received : SecureBytes) : Option AgentRequest :=
  (readPacket received).map fun packet =>
    parseCommand (CommandOpcode.ofByte packet.1) packet.2

/-- A packet within the limit is the request it was made for. -/
theorem parseRequest_serializePacket {command : CommandOpcode}
    {payload : SecureBytes} (fits : payload.length ≤ maxPayload) :
    parseRequest (serializePacket command.toByte payload) =
      some (parseCommand (some command) payload) := by
  rw [parseRequest, readPacket_of_fits fits, Option.map_some,
    CommandOpcode.ofByte_toByte]

/-- A payload that is a single string parses to it. -/
theorem parseString_appendPrefixed {str : SecureString}
    (short : str.length < 4294967296) (text : String)
    (request : SecureString → AgentRequest) :
    parseString (appendPrefixed [] str) text request = request str := by
  have read := extractPrefixed_appendPrefixed short [] []
  rw [List.nil_append, List.append_nil, List.length_nil] at read
  simp only [parseString, extractSecStr, read]

/-- What the session does with a request. -/
def EntryCall.serve (primitives : Primitives) (library : Library)
    (env : ServeEnv) (storage : Storage) (call : EntryCall)
    (self : VaultService) : AgentServer.Served :=
  match call with
  | getEntry service =>
      ⟨AgentServer.getEntryResponse self service, self, storage⟩
  | addEntry service username password totpSecret =>
      AgentServer.outcomeServed (self.addEntry primitives env.commit env.clock
        service username password totpSecret storage)
  | deleteEntry service =>
      AgentServer.outcomeServed (self.deleteEntry primitives env.commit
        env.clock service storage)
  | listEntries query =>
      ⟨⟨ResponseStatus.ok.toByte,
        AgentServer.listPayload (self.listEntries library query)⟩, self,
        storage⟩
  | getTotp service =>
      ⟨AgentServer.getTotpResponse library env.clock self service, self,
        storage⟩

namespace AgentServer

variable (primitives : Primitives) (library : Library) (env : ServeEnv)
  (agent : AgentServer) (storage : Storage)

/-- Carry a request out. -/
def perform (request : AgentRequest) : Handled :=
  match request with
  | .ping => answer agent storage ⟨pongByte, []⟩
  | .status => answer agent storage (agent.statusResponse env.now)
  | .unlock masterPassword =>
      match unlock primitives env masterPassword agent storage.files with
      | .ok unlocked => ⟨some acknowledgement, unlocked, storage⟩
      | .error err => answer agent storage (refusal .error err)
  | .lock => answer agent.lock storage acknowledgement
  | .stop => answer { agent with running := false } storage acknowledgement
  | .entry call =>
      serve agent env.now storage (call.serve primitives library env storage)
  | .malformed text => malformed agent storage text

/-- Bytes that are no packet are dropped. -/
def performIfAny (request : Option AgentRequest) : Handled :=
  match request with
  | none => ⟨none, agent, storage⟩
  | some request => perform primitives library env agent storage request

theorem handleCommand_eq (command : Option CommandOpcode)
    (payload : SecureBytes) :
    handleCommand primitives library env agent storage command payload =
      perform primitives library env agent storage
        (parseCommand command payload) := by
  cases command with
  | none => rfl
  | some command =>
      cases command with
      | unlock =>
          simp only [handleCommand, handleUnlock, parseCommand, parseString]
          cases (extractSecStr payload 0).1 <;> rfl
      | getEntry =>
          simp only [handleCommand, handleGetEntry, parseCommand, parseString]
          cases (extractSecStr payload 0).1 <;> rfl
      | addEntry =>
          simp only [handleCommand, handleAddEntry, parseCommand]
          cases extractAddPayload payload <;> rfl
      | deleteEntry =>
          simp only [handleCommand, handleDeleteEntry, parseCommand,
            parseString]
          cases (extractSecStr payload 0).1 <;> rfl
      | getTotp =>
          simp only [handleCommand, handleGetTotp, parseCommand, parseString]
          cases (extractSecStr payload 0).1 <;> rfl
      | ping => rfl
      | status => rfl
      | lock => rfl
      | stop => rfl
      | listEntries => rfl

/-- The handler parses the packet and carries the request out. -/
theorem handleClient_eq (received : SecureBytes) :
    handleClient primitives library env agent storage received =
      performIfAny primitives library env agent storage
        (parseRequest received) := by
  unfold handleClient parseRequest
  cases readPacket received with
  | none => rfl
  | some packet => exact handleCommand_eq _ _ _ _ _ _ _

/-! ## What carrying a request out changes -/

variable {primitives library env agent storage}

/-- An unlock that succeeds puts a fresh session in place and starts the idle
timer. -/
theorem unlock_eq_ok {masterPassword : SecureString} {files : Files}
    {unlocked : AgentServer}
    (finished : unlock primitives env masterPassword agent files =
      .ok unlocked) :
    ∃ vaultPath service, env.vaultPath = .ok vaultPath ∧
      VaultService.construct primitives env.load vaultPath masterPassword files
        env.clock = .ok service ∧
      unlocked = { agent with
        vaultService := some service
        lastActivity := env.now } := by
  unfold unlock at finished
  split at finished
  · cases finished
  · next vaultPath found =>
      split at finished
      · cases finished
      · split at finished
        · cases finished
        · next service constructed =>
            cases finished
            exact ⟨vaultPath, service, found, constructed, rfl⟩

/-- The text of a failed unlock does not depend on the agent. -/
theorem unlock_error_congr {masterPassword : SecureString} {files : Files}
    {text : SecureBytes} (other : AgentServer)
    (failed : unlock primitives env masterPassword agent files =
      .error text) :
    unlock primitives env masterPassword other files = .error text := by
  unfold unlock at failed ⊢
  split at failed
  · exact failed
  · split at failed
    · next missing => rw [if_pos missing, failed]
    · next present =>
        rw [if_neg present]
        split at failed
        · exact failed
        · cases failed

theorem serve_of_none {now : Nat} {call : VaultService → Served}
    (locked : agent.vaultService = none) :
    serve agent now storage call =
      ⟨some (refusal .locked (textBytes "Vault is locked in agent.")), agent,
        storage⟩ := by
  simp only [serve, locked]

theorem serve_of_some {now : Nat} {call : VaultService → Served}
    {service : VaultService} (unlocked : agent.vaultService = some service) :
    serve agent now storage call =
      ⟨some (call service).response,
        { agent with
          vaultService := some (call service).service
          lastActivity := now },
        (call service).storage⟩ := by
  simp only [serve, unlocked]

/-- Whether it returns or throws, a writing call leaves its instance behind. -/
@[simp] theorem outcomeServed_service (outcome : Outcome) :
    (outcomeServed outcome).service = outcome.self := by
  unfold outcomeServed
  split
  · rfl
  · rfl

@[simp] theorem outcomeServed_storage (outcome : Outcome) :
    (outcomeServed outcome).storage = outcome.storage := by
  unfold outcomeServed
  split
  · rfl
  · rfl

/-- Without a session the idle check has nothing to do. -/
theorem checkIdleTimeout_of_none {now : Nat}
    (locked : agent.vaultService = none) :
    agent.checkIdleTimeout now = agent := by
  simp [checkIdleTimeout, locked]

theorem checkIdleTimeout_of_some {now : Nat} {service : VaultService}
    (unlocked : agent.vaultService = some service)
    (timed : agent.idleTimeoutSeconds ≠ 0) :
    agent.checkIdleTimeout now =
      if agent.Expired now then agent.lock else agent := by
  simp [checkIdleTimeout, unlocked, timed, lock]

/-- A check that is due leaves no session. -/
theorem checkIdleTimeout_of_expired {now : Nat}
    (timed : agent.idleTimeoutSeconds ≠ 0) (expired : agent.Expired now) :
    (agent.checkIdleTimeout now).vaultService = none := by
  cases session : agent.vaultService with
  | none => rw [checkIdleTimeout_of_none session, session]
  | some service =>
      rw [checkIdleTimeout_of_some session timed, if_pos expired]
      rfl

end AgentServer

end DuckPass
