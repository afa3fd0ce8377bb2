/-
Module: DuckPass.Core.AgentServer
Purpose: The agent of `agent_server.cpp`: its session, the idle timer, the
  handler with every opcode and error exit, and one round of the event loop.
Trusted boundary: the primitives of `DuckPass.Core.Crypto` and the library
  calls of `DuckPass.Core.VaultQueries`; a steady clock does not go back.
Main exports: AgentServer, AgentServer.unlock, AgentServer.checkIdleTimeout,
  AgentServer.handleClient, AgentServer.Waits, AgentServer.Client.Timely,
  AgentServer.iterate
-/
import DuckPass.Core.Ipc
import DuckPass.Core.VaultQueries

namespace DuckPass

/-- The private state of an `AgentServer`.  `lastActivity` is a reading of the
steady clock, in nanoseconds. -/
structure AgentServer where
  idleTimeoutSeconds : UInt32
  running : Bool
  vaultService : Option VaultService
  lastActivity : Nat

/-- What one call of the handler finds around it: the two clocks, the vault
path of the configuration (or what was thrown while it was looked up), and how
the system calls go. -/
structure ServeEnv where
  now : Nat
  clock : Clock
  vaultPath : Except DuckpassError Path
  load : LoadFaults
  commit : CommitEnv

def nanosecondsPerSecond : Nat := 1000000000

/-- `duration_cast<seconds>(now - last_activity_).count()`. -/
def elapsedSeconds (lastActivity now : Nat) : Nat :=
  (now - lastActivity) / nanosecondsPerSecond

namespace AgentServer

/-- `lock`. -/
def lock (agent : AgentServer) : AgentServer :=
  { agent with vaultService := none }

/-- `stop`. -/
def stop (agent : AgentServer) : AgentServer :=
  lock { agent with running := false }

/-- `unlock`: the new session, or the error text.  The session in place is only
replaced once the new one is there. -/
def unlock (primitives : Primitives) (env : ServeEnv)
    (masterPassword : SecureString) (agent : AgentServer) (files : Files) :
    Except SecureBytes AgentServer :=
  match env.vaultPath with
  | .error error => .error error.what
  | .ok vaultPath =>
      if (files vaultPath).isNone then
        .error (textBytes
          "Vault has not been initialized. Run 'duckpass init'.")
      else
        match VaultService.construct primitives env.load vaultPath
            masterPassword files env.clock with
        | .error error => .error error.what
        | .ok service =>
            .ok { agent with
              vaultService := some service
              lastActivity := env.now }

/-- The idle time is up. -/
def Expired (agent : AgentServer) (now : Nat) : Prop :=
  agent.idleTimeoutSeconds.toNat ≤ elapsedSeconds agent.lastActivity now

instance (agent : AgentServer) (now : Nat) : Decidable (agent.Expired now) :=
  inferInstanceAs (Decidable (_ ≤ _))

/-- `check_idle_timeout`. -/
def checkIdleTimeout (agent : AgentServer) (now : Nat) : AgentServer :=
  if agent.vaultService.isNone ∨ agent.idleTimeoutSeconds = 0 then agent
  else if agent.Expired now then { agent with vaultService := none }
  else agent

/-! ## Responses -/

/-- A status with a text. -/
def refusal (status : ResponseStatus) (text : SecureBytes) : Response :=
  ⟨status.toByte, appendStr [] text⟩

/-- A status and nothing else. -/
def acknowledgement : Response := ⟨ResponseStatus.ok.toByte, []⟩

/-- The seconds until the session is dropped, as STATUS reports them. -/
def timeoutRemaining (agent : AgentServer) (now : Nat) : UInt32 :=
  if agent.vaultService.isSome ∧ agent.idleTimeoutSeconds > 0 then
    let elapsed := elapsedSeconds agent.lastActivity now
    if elapsed < agent.idleTimeoutSeconds.toNat then
      UInt32.ofNat (agent.idleTimeoutSeconds.toNat - elapsed)
    else 0
  else 0

/-- The entries STATUS counts: those of the session, if there is one. -/
def totalEntries (agent : AgentServer) : UInt32 :=
  match agent.vaultService with
  | none => 0
  | some service => UInt32.ofNat service.vault.entries.length

def statusResponse (agent : AgentServer) (now : Nat) : Response :=
  ⟨ResponseStatus.ok.toByte,
    (if agent.vaultService.isSome then 1 else 0) ::
      (htonl (agent.timeoutRemaining now) ++ htonl agent.totalEntries)⟩

/-- What a call leaves behind: the packet written back, if any, the agent and
the directory. -/
structure Handled where
  response : Option Response
  agent : AgentServer
  storage : Storage

/-- A request that a session answers: the packet, the session and the
directory. -/
structure Served where
  response : Response
  service : VaultService
  storage : Storage

/-- The block under the mutex that five of the opcodes share: without a session
the request is refused; with one, the idle timer starts anew before the call
is made. -/
def serve (agent : AgentServer) (now : Nat) (storage : Storage)
    (call : VaultService → Served) : Handled :=
  match agent.vaultService with
  | none =>
      ⟨some (refusal .locked (textBytes "Vault is locked in agent.")), agent,
        storage⟩
  | some service =>
      let served := call service
      ⟨some served.response,
        { agent with
          vaultService := some served.service
          lastActivity := now },
        served.storage⟩

/-- The four fields of an entry, as GET_ENTRY sends them. -/
def entryPayload (entry : VaultEntry) : SecureBytes :=
  let resp := appendSecStr [] entry.service
  let resp := appendSecStr resp entry.username
  let resp := appendSecStr resp entry.password
  appendSecStr resp entry.totpSecret

def getEntryResponse (self : VaultService) (service : SecureString) :
    Response :=
  match self.getEntry service with
  | some entry => ⟨ResponseStatus.ok.toByte, entryPayload entry⟩
  | none => refusal .notFound (textBytes "Entry not found.")

/-- The answer to a writing call, which sends nothing back but an error. -/
def outcomeServed (outcome : Outcome) : Served :=
  match outcome.result with
  | .ok () => ⟨acknowledgement, outcome.self, outcome.storage⟩
  | .error error =>
      ⟨refusal .error error.what, outcome.self, outcome.storage⟩

/-- A count cast to 32 bits and then service and user name of each entry. -/
def listPayload (entries : List VaultEntry) : SecureBytes :=
  entries.foldl
    (fun resp entry => appendStr (appendStr resp entry.service) entry.username)
    (htonl (UInt32.ofNat entries.length))

def getTotpResponse (library : Library) (clock : Clock) (self : VaultService)
    (service : SecureString) : Response :=
  match self.getTotpCode library service clock with
  | .ok (code, remaining) =>
      ⟨ResponseStatus.ok.toByte, appendStr [] code ++ htonl remaining⟩
  | .error error => refusal .error error.what

/-! ## The handler -/

section Handler

variable (primitives : Primitives) (library : Library) (env : ServeEnv)
  (agent : AgentServer) (storage : Storage)

/-- A request that is answered without the session. -/
def answer (response : Response) : Handled :=
  ⟨some response, agent, storage⟩

def malformed (text : String) : Handled :=
  answer agent storage (refusal .error (textBytes text))

def handleUnlock (payload : SecureBytes) : Handled :=
  match (extractSecStr payload 0).1 with
  | none => malformed agent storage "Invalid unlock payload."
  | some pwd =>
      match unlock primitives env pwd agent storage.files with
      | .ok unlocked => ⟨some acknowledgement, unlocked, storage⟩
      | .error err => answer agent storage (refusal .error err)

def handleGetEntry (payload : SecureBytes) : Handled :=
  match (extractSecStr payload 0).1 with
  | none => malformed agent storage "Malformed get payload."
  | some service =>
      serve agent env.now storage fun self =>
        ⟨getEntryResponse self service, self, storage⟩

/-- The four strings of an ADD_ENTRY payload. -/
def extractAddPayload (payload : SecureBytes) :
    Option (SecureString × SecureString × SecureString × SecureString) :=
  let (s, offset) := extractSecStr payload 0
  let (u, offset) := extractSecStr payload offset
  let (p, offset) := extractSecStr payload offset
  let (t, _) := extractSecStr payload offset
  match s, u, p, t with
  | some s, some u, some p, some t => some (s, u, p, t)
  | _, _, _, _ => none

def handleAddEntry (payload : SecureBytes) : Handled :=
  match extractAddPayload payload with
  | none => malformed agent storage "Malformed add payload."
  | some (s, u, p, t) =>
      serve agent env.now storage fun self =>
        outcomeServed (self.addEntry primitives env.commit env.clock s u p t
          storage)

def handleDeleteEntry (payload : SecureBytes) : Handled :=
  match (extractSecStr payload 0).1 with
  | none => malformed agent storage "Malformed delete payload."
  | some s =>
      serve agent env.now storage fun self =>
        outcomeServed (self.deleteEntry primitives env.commit env.clock s
          storage)

/-- A query that does not parse is the empty one. -/
def handleListEntries (payload : SecureBytes) : Handled :=
  let query := (extractStr payload 0).1.getD []
  serve agent env.now storage fun self =>
    ⟨⟨ResponseStatus.ok.toByte, listPayload (self.listEntries library query)⟩,
      self, storage⟩

def handleGetTotp (payload : SecureBytes) : Handled :=
  match (extractSecStr payload 0).1 with
  | none => malformed agent storage "Malformed TOTP payload."
  | some service =>
      serve agent env.now storage fun self =>
        ⟨getTotpResponse library env.clock self service, self, storage⟩

/-- The `switch` of `handle_client`. -/
def handleCommand (command : Option CommandOpcode) (payload : SecureBytes) :
    Handled :=
  match command with
  | some .ping => answer agent storage ⟨pongByte, []⟩
  | some .status => answer agent storage (agent.statusResponse env.now)
  | some .unlock => handleUnlock primitives env agent storage payload
  | some .lock => answer agent.lock storage acknowledgement
  | some .stop => answer { agent with running := false } storage acknowledgement
  | some .getEntry => handleGetEntry env agent storage payload
  | some .addEntry => handleAddEntry primitives env agent storage payload
  | some .deleteEntry => handleDeleteEntry primitives env agent storage payload
  | some .listEntries => handleListEntries library env agent storage payload
  | some .getTotp => handleGetTotp library env agent storage payload
  | none => malformed agent storage "Unknown command opcode."

/-- `handle_client` on the bytes the client sent.  Bytes that are no packet get
no answer. -/
def handleClient (received : SecureBytes) : Handled :=
  match readPacket received with
  | none => ⟨none, agent, storage⟩
  | some (opcode, payload) =>
      handleCommand primitives library env agent storage
        (CommandOpcode.ofByte opcode) payload

end Handler

/-! ## The event loop -/

/-- The time-out of `poll`. -/
def pollTimeout : Nat := nanosecondsPerSecond

/-- The time-out of a `read` from a client, `SO_RCVTIMEO`. -/
def receiveTimeout : Nat := 250000000

/-- Where the time goes between the idle check of a round and the moment at
which the handler reads the clock: the wait of `poll`, the wait of each `read`,
of which `interrupted` end with `EINTR`, and what the agent itself takes. -/
structure Waits where
  poll : Nat
  reads : List Nat
  interrupted : Nat
  busy : Nat

def Waits.total (waits : Waits) : Nat :=
  waits.poll + waits.reads.sum + waits.busy

/-- An accepted connection of the right user: what it sends, how its handling
goes, and how long all of it takes. -/
structure Client where
  received : SecureBytes
  env : ServeEnv
  waits : Waits

/-- The times of a round that begins with a check at `checkedAt`.  Neither
`poll` nor a `read` outlasts its time-out, and every `read` but the last brings
a byte or is interrupted. -/
structure Client.Timely (checkedAt : Nat) (client : Client) : Prop where
  polled : client.waits.poll ≤ pollTimeout
  read : ∀ wait ∈ client.waits.reads, wait ≤ receiveTimeout
  reads : client.waits.reads.length ≤
    client.received.length + client.waits.interrupted + 1
  now : client.env.now = checkedAt + client.waits.total

instance (checkedAt : Nat) (client : Client) :
    Decidable (client.Timely checkedAt) :=
  decidable_of_iff
    (client.waits.poll ≤ pollTimeout ∧
      (∀ wait ∈ client.waits.reads, wait ≤ receiveTimeout) ∧
      client.waits.reads.length ≤
        client.received.length + client.waits.interrupted + 1 ∧
      client.env.now = checkedAt + client.waits.total)
    ⟨fun ⟨polled, read, reads, now⟩ => ⟨polled, read, reads, now⟩,
      fun ⟨polled, read, reads, now⟩ => ⟨polled, read, reads, now⟩⟩

/-- One round of the loop in `run`: the idle check, then the connection that
`poll` reported, if it reported one. -/
def iterate (primitives : Primitives) (library : Library) (checkedAt : Nat)
    (client : Option Client) (agent : AgentServer) (storage : Storage) :
    Handled :=
  let agent := agent.checkIdleTimeout checkedAt
  match client with
  | none => ⟨none, agent, storage⟩
  | some client =>
      handleClient primitives library client.env agent storage client.received

end AgentServer

end DuckPass
