/-
Module: DuckPass.System.AgentSystem
Purpose: The agent among the other processes on one vault file.  Its session is
  one of the live instances, and a request that opens or writes the file runs in
  two steps, with other processes between them.
Trusted boundary: as for `DuckPass.System.SharedVault`; one configuration names
  the vault file for every process.
Main exports: AgentPhase, AgentSystem, AgentEvent, AgentSystem.step,
  AgentSystem.run, AgentTransition, AgentSystem.step_cases
-/
import DuckPass.Proofs.AgentServer
import DuckPass.System.SharedVault

namespace DuckPass

/-- What the handler is inside of. -/
inductive AgentPhase where
  | waiting
  | unlocking (fresh : Nat)
  | saving
deriving Repr, Inhabited, DecidableEq

/-- The live instances on a vault file, and the state of the agent: the
instance that `vault_service_` points to is one of them. -/
structure AgentSystem (path : Path) where
  system : System path
  idleTimeoutSeconds : UInt32
  running : Bool
  lastActivity : Nat
  current : Option Nat
  phase : AgentPhase

/-- What can happen next: a step of another process, the idle check, the
arrival of a packet, the rest of a request that had to wait, or the end of the
event loop.  `fresh` names the instance that an unlock constructs. -/
inductive AgentEvent where
  | other (event : Event)
  | check (now : Nat)
  | request (received : SecureBytes) (env : ServeEnv) (fresh : Nat)
  | resume (env : CommitEnv) (clock : Clock) (now : Nat)
  | shutdown

/-- What is seen of the step. -/
inductive AgentReply where
  | other (reply : Reply)
  | silent
  | waiting
  | response (response : Response)
deriving Repr, Inhabited, DecidableEq

/-- The instance that an event is about. -/
def Event.id : Event → Nat
  | .construct id _ _ _ => id
  | .call id _ _ => id
  | .commit id _ _ => id
  | .destroy id => id

/-- The writing method that a request calls, if it calls one. -/
def EntryCall.request : EntryCall → Option Request
  | addEntry service username password totpSecret =>
      some (.addEntry service username password totpSecret)
  | deleteEntry service => some (.deleteEntry service)
  | getEntry _ => none
  | listEntries _ => none
  | getTotp _ => none

namespace AgentSystem

open AgentServer (acknowledgement refusal)

variable {path : Path}

/-- The agent has just started. -/
def initial (path : Path) (files : Files) (idleTimeoutSeconds : UInt32) :
    AgentSystem path :=
  ⟨.initial path files, idleTimeoutSeconds, true, 0, none, .waiting⟩

/-- The session of the agent. -/
def session (state : AgentSystem path) : Option (Session path) :=
  state.current.bind state.system.sessions

/-- The agent as its own code sees it. -/
def agent (state : AgentSystem path) : AgentServer :=
  ⟨state.idleTimeoutSeconds, state.running,
    state.session.map Session.service, state.lastActivity⟩

/-- The agent holds the instance: as its session, or to put it in place. -/
def Holds (state : AgentSystem path) (id : Nat) : Prop :=
  state.current = some id ∨ state.phase = .unlocking id

instance (state : AgentSystem path) (id : Nat) : Decidable (state.Holds id) :=
  inferInstanceAs (Decidable (_ ∨ _))

/-- The instances after `vault_service_` was reset. -/
def released (state : AgentSystem path) : System path :=
  match state.current with
  | none => state.system
  | some id => state.system.put state.system.files id none

/-- `vault_service_.reset()`. -/
def drop (state : AgentSystem path) : AgentSystem path :=
  { state with system := state.released, current := none }

/-- A step of one of the instances.  An exception ends the request. -/
def carry (primitives : Primitives) (state : AgentSystem path) (event : Event)
    (finish : AgentSystem path → AgentSystem path × AgentReply) :
    Option (AgentSystem path × AgentReply) :=
  match state.system.step primitives event with
  | none => none
  | some (system, .threw error) =>
      some ({ state with system := system, phase := .waiting },
        .response (refusal .error error.what))
  | some (system, _) => some (finish { state with system := system })

/-- An unlock up to the point where the new session exists. -/
def beginUnlock (primitives : Primitives) (state : AgentSystem path)
    (env : ServeEnv) (fresh : Nat) (masterPassword : SecureString) :
    Option (AgentSystem path × AgentReply) :=
  match env.vaultPath with
  | .error error => some (state, .response (refusal .error error.what))
  | .ok vaultPath =>
      if vaultPath ≠ path then none
      else if (state.system.files path).isNone then
        some (state, .response (refusal .error (textBytes
          "Vault has not been initialized. Run 'duckpass init'.")))
      else
        state.carry primitives
          (.construct fresh masterPassword env.load env.clock)
          fun state => ({ state with phase := .unlocking fresh }, .waiting)

/-- A request that the session answers, up to the lock if it writes. -/
def beginEntry (primitives : Primitives) (library : Library)
    (state : AgentSystem path) (env : ServeEnv) (call : EntryCall) :
    Option (AgentSystem path × AgentReply) :=
  match state.current with
  | none =>
      some (state, .response
        (refusal .locked (textBytes "Vault is locked in agent.")))
  | some id =>
      let state := { state with lastActivity := env.now }
      match call.request with
      | some request =>
          state.carry primitives (.call id request env.clock)
            fun state => ({ state with phase := .saving }, .waiting)
      | none =>
          match state.system.sessions id with
          | none => none
          | some session =>
              some (state, .response (call.serve primitives library env
                (.start state.system.files) session.service).response)

/-- What the handler does with a request until it is answered or waits. -/
def begin (primitives : Primitives) (library : Library)
    (state : AgentSystem path) (env : ServeEnv) (fresh : Nat)
    (request : AgentRequest) : Option (AgentSystem path × AgentReply) :=
  match request with
  | .ping => some (state, .response ⟨pongByte, []⟩)
  | .status => some (state, .response (state.agent.statusResponse env.now))
  | .unlock masterPassword =>
      state.beginUnlock primitives env fresh masterPassword
  | .lock => some (state.drop, .response acknowledgement)
  | .stop => some ({ state with running := false }, .response acknowledgement)
  | .entry call => state.beginEntry primitives library env call
  | .malformed text =>
      some (state, .response (refusal .error (textBytes text)))

/-- The rest of a request that waited: the new session is put in place, or the
writing call gets the lock. -/
def finish (primitives : Primitives) (state : AgentSystem path)
    (env : CommitEnv) (clock : Clock) (now : Nat) :
    Option (AgentSystem path × AgentReply) :=
  match state.phase, state.current with
  | .waiting, _ => none
  | .unlocking fresh, _ =>
      some ({ state.drop with
        current := some fresh
        lastActivity := now
        phase := .waiting }, .response acknowledgement)
  | .saving, none => none
  | .saving, some id =>
      state.carry primitives (.commit id env clock)
        fun state => ({ state with phase := .waiting },
          .response acknowledgement)

/-- One step, if it is possible in this state.  The handler takes one request
at a time, and no other process reaches the agent's instances. -/
def step (primitives : Primitives) (library : Library)
    (state : AgentSystem path) :
    AgentEvent → Option (AgentSystem path × AgentReply)
  | .other event =>
      if state.Holds event.id then none
      else
        match state.system.step primitives event with
        | none => none
        | some (system, reply) =>
            some ({ state with system := system }, .other reply)
  | .check now =>
      if ¬ (state.running = true ∧ state.phase = .waiting) then none
      else if (state.agent.checkIdleTimeout now).vaultService.isSome then
        some (state, .silent)
      else some (state.drop, .silent)
  | .request received env fresh =>
      if ¬ (state.running = true ∧ state.phase = .waiting) then none
      else
        match parseRequest received with
        | none => some (state, .silent)
        | some request => state.begin primitives library env fresh request
  | .resume env clock now => state.finish primitives env clock now
  | .shutdown =>
      if state.phase ≠ .waiting then none
      else some ({ state.drop with running := false }, .silent)

/-- A sequence of steps with what was seen of them. -/
def run (primitives : Primitives) (library : Library)
    (state : AgentSystem path) (events : List AgentEvent) :
    Option (AgentSystem path × List AgentReply) :=
  Run.run (step primitives library) state events

end AgentSystem

/-! ## Inversion of steps -/

/-- How a step of an instance on behalf of the agent can go. -/
inductive Carried {path : Path} (primitives : Primitives)
    (state : AgentSystem path) (event : Event)
    (finish : AgentSystem path → AgentSystem path × AgentReply) :
    AgentSystem path × AgentReply → Prop where
  | threw {system : System path} {error : DuckpassError}
      (stepped : state.system.step primitives event =
        some (system, .threw error)) :
      Carried primitives state event finish
        ({ state with system := system, phase := .waiting },
          .response (AgentServer.refusal .error error.what))
  | ended {system : System path} {reply : Reply}
      (stepped : state.system.step primitives event = some (system, reply))
      (fine : ∀ error, reply ≠ .threw error) :
      Carried primitives state event finish
        (finish { state with system := system })

/-- The transition that a step of the shared vault carries. -/
theorem AgentSystem.carry_cases {path : Path} {primitives : Primitives}
    {state : AgentSystem path} {event : Event}
    {finish : AgentSystem path → AgentSystem path × AgentReply}
    {result : AgentSystem path × AgentReply}
    (carried : state.carry primitives event finish = some result) :
    Carried primitives state event finish result := by
  unfold AgentSystem.carry at carried
  split at carried
  · cases carried
  · next stepped =>
      cases carried
      exact .threw stepped
  · next reply fine stepped =>
      cases carried
      exact .ended stepped fun error threw => fine error threw

/-- What a step can do, with everything it has checked. -/
inductive AgentTransition {path : Path} (primitives : Primitives)
    (library : Library) (state : AgentSystem path) :
    AgentEvent → AgentSystem path → AgentReply → Prop where
  | other {event : Event} {system : System path} {reply : Reply}
      (foreign : ¬ state.Holds event.id)
      (stepped : state.system.step primitives event = some (system, reply)) :
      AgentTransition primitives library state (.other event)
        { state with system := system } (.other reply)
  | checked {now : Nat} (idle : state.phase = .waiting) :
      AgentTransition primitives library state (.check now) state .silent
  | expired {now : Nat} (idle : state.phase = .waiting) :
      AgentTransition primitives library state (.check now) state.drop .silent
  | dropped {received : SecureBytes} {env : ServeEnv} {fresh : Nat}
      (idle : state.phase = .waiting) (none : parseRequest received = none) :
      AgentTransition primitives library state (.request received env fresh)
        state .silent
  | answered {received : SecureBytes} {env : ServeEnv} {fresh : Nat}
      {request : AgentRequest} {next : AgentSystem path} {response : Response}
      (idle : state.phase = .waiting)
      (parsed : parseRequest received = some request)
      (system_eq : next.system = state.system)
      (current_eq : next.current = state.current)
      (stays : next.phase = .waiting) (unlocks : request ≠ .lock)
      (performed : (AgentServer.perform primitives library env state.agent
        (.start state.system.files) request).response = some response) :
      AgentTransition primitives library state (.request received env fresh)
        next (.response response)
  | locked {received : SecureBytes} {env : ServeEnv} {fresh : Nat}
      (idle : state.phase = .waiting)
      (parsed : parseRequest received = some .lock) :
      AgentTransition primitives library state (.request received env fresh)
        state.drop (.response AgentServer.acknowledgement)
  | unlocking {received : SecureBytes} {env : ServeEnv} {fresh : Nat}
      {masterPassword : SecureString} {result : AgentSystem path × AgentReply}
      (idle : state.phase = .waiting)
      (parsed : parseRequest received = some (.unlock masterPassword))
      (carried : Carried primitives state
        (.construct fresh masterPassword env.load env.clock)
        (fun state => ({ state with phase := .unlocking fresh }, .waiting))
        result) :
      AgentTransition primitives library state (.request received env fresh)
        result.1 result.2
  | calling {received : SecureBytes} {env : ServeEnv} {fresh id : Nat}
      {call : EntryCall} {request : Request}
      {result : AgentSystem path × AgentReply}
      (idle : state.phase = .waiting)
      (parsed : parseRequest received = some (.entry call))
      (writes : call.request = some request)
      (unlocked : state.current = some id)
      (carried : Carried primitives { state with lastActivity := env.now }
        (.call id request env.clock)
        (fun state => ({ state with phase := .saving }, .waiting)) result) :
      AgentTransition primitives library state (.request received env fresh)
        result.1 result.2
  | swapped {env : CommitEnv} {clock : Clock} {now fresh : Nat}
      (phase : state.phase = .unlocking fresh) :
      AgentTransition primitives library state (.resume env clock now)
        { state.drop with
          current := some fresh
          lastActivity := now
          phase := .waiting } (.response AgentServer.acknowledgement)
  | saved {env : CommitEnv} {clock : Clock} {now id : Nat}
      {result : AgentSystem path × AgentReply}
      (phase : state.phase = .saving) (unlocked : state.current = some id)
      (carried : Carried primitives state (.commit id env clock)
        (fun state => ({ state with phase := .waiting },
          .response AgentServer.acknowledgement)) result) :
      AgentTransition primitives library state (.resume env clock now)
        result.1 result.2
  | ended (idle : state.phase = .waiting) :
      AgentTransition primitives library state .shutdown
        { state.drop with running := false } .silent

namespace AgentSystem

variable {path : Path} {primitives : Primitives} {library : Library}
  {state next : AgentSystem path} {reply : AgentReply}

/-- Without a current session the agent is locked. -/
theorem agent_vaultService_of_none (locked : state.current = none) :
    state.agent.vaultService = none := by
  simp only [agent, session, locked, Option.bind_none, Option.map_none]

/-- The agent of a state with a current session works on that session's service.
-/
theorem agent_vaultService_of_some {id : Nat} {found : Session path}
    (unlocked : state.current = some id)
    (present : state.system.sessions id = some found) :
    state.agent.vaultService = some found.service := by
  simp only [agent, session, unlocked, Option.bind_some, present,
    Option.map_some]

/-- The handler of UNLOCK up to its first step in the shared vault. -/
theorem beginUnlock_cases {received : SecureBytes} {env : ServeEnv}
    {fresh : Nat} {masterPassword : SecureString}
    (idle : state.phase = .waiting)
    (parsed : parseRequest received = some (.unlock masterPassword))
    (begun : state.beginUnlock primitives env fresh masterPassword =
      some (next, reply)) :
    AgentTransition primitives library state (.request received env fresh)
      next reply := by
  unfold beginUnlock at begun
  split at begun
  · next error notFound =>
      cases begun
      refine .answered idle parsed rfl rfl idle nofun ?_
      simp only [AgentServer.perform, AgentServer.unlock, notFound,
        AgentServer.answer]
  · next vaultPath found =>
      split at begun
      · cases begun
      · next same =>
          have vaultPath_eq := Decidable.not_not.mp same
          split at begun
          · next missing =>
              cases begun
              refine .answered idle parsed rfl rfl idle nofun ?_
              simp only [AgentServer.perform, AgentServer.unlock, found,
                vaultPath_eq, Storage.start, missing, if_true,
                AgentServer.answer]
          · exact .unlocking idle parsed (carry_cases begun)

/-- The handlers that need a session. -/
theorem beginEntry_cases {received : SecureBytes} {env : ServeEnv}
    {fresh : Nat} {call : EntryCall} (idle : state.phase = .waiting)
    (parsed : parseRequest received = some (.entry call))
    (begun : state.beginEntry primitives library env call =
      some (next, reply)) :
    AgentTransition primitives library state (.request received env fresh)
      next reply := by
  unfold beginEntry at begun
  split at begun
  · next locked =>
      cases begun
      refine .answered idle parsed rfl rfl idle nofun ?_
      rw [AgentServer.perform,
        AgentServer.serve_of_none (agent_vaultService_of_none locked)]
  · next id unlocked =>
      split at begun
      · next request writes =>
          exact .calling idle parsed writes unlocked (carry_cases begun)
      · dsimp only at begun
        split at begun
        · cases begun
        · next found present =>
            cases begun
            refine .answered idle parsed rfl rfl idle nofun ?_
            rw [AgentServer.perform, AgentServer.serve_of_some
              (agent_vaultService_of_some unlocked present)]

/-- The handler of any request. -/
theorem begin_cases {received : SecureBytes} {env : ServeEnv} {fresh : Nat}
    {request : AgentRequest} (idle : state.phase = .waiting)
    (parsed : parseRequest received = some request)
    (begun : state.begin primitives library env fresh request =
      some (next, reply)) :
    AgentTransition primitives library state (.request received env fresh)
      next reply := by
  cases request with
  | ping =>
      cases begun
      exact .answered idle parsed rfl rfl idle nofun rfl
  | status =>
      cases begun
      exact .answered idle parsed rfl rfl idle nofun rfl
  | unlock masterPassword => exact beginUnlock_cases idle parsed begun
  | lock =>
      cases begun
      exact .locked idle parsed
  | stop =>
      cases begun
      exact .answered idle parsed rfl rfl idle nofun rfl
  | entry call => exact beginEntry_cases idle parsed begun
  | malformed text =>
      cases begun
      exact .answered idle parsed rfl rfl idle nofun rfl

/-- Every step of the agent and its surroundings is one of the transitions. -/
theorem step_cases {event : AgentEvent}
    (stepped : state.step primitives library event = some (next, reply)) :
    AgentTransition primitives library state event next reply := by
  cases event with
  | other event =>
      simp only [step] at stepped
      split at stepped
      · cases stepped
      · next foreign =>
          split at stepped
          · cases stepped
          · next systemStepped =>
              cases stepped
              exact .other foreign systemStepped
  | check now =>
      simp only [step] at stepped
      split at stepped
      · cases stepped
      · next ready =>
          have idle := (Decidable.not_not.mp ready).2
          split at stepped
          · cases stepped
            exact .checked idle
          · cases stepped
            exact .expired idle
  | request received env fresh =>
      simp only [step] at stepped
      split at stepped
      · cases stepped
      · next ready =>
          have idle := (Decidable.not_not.mp ready).2
          split at stepped
          · next none =>
              cases stepped
              exact .dropped idle none
          · next parsed => exact begin_cases idle parsed stepped
  | resume env clock now =>
      simp only [step, finish] at stepped
      split at stepped
      · cases stepped
      · next fresh phase =>
          cases stepped
          exact .swapped phase
      · cases stepped
      · next id phase unlocked =>
          exact .saved phase unlocked (carry_cases stepped)
  | shutdown =>
      simp only [step] at stepped
      split at stepped
      · cases stepped
      · next busy =>
          cases stepped
          exact .ended (Decidable.not_not.mp busy)

end AgentSystem

/-! ## The instances below -/

/-- The steps of the instances that a step of the agent can consist of. -/
inductive AgentEvent.Inner : AgentEvent → Event → Prop where
  | other (event : Event) : Inner (.other event) event
  | destroy (event : AgentEvent) (id : Nat) : Inner event (.destroy id)
  | construct (received : SecureBytes) (env : ServeEnv) (fresh : Nat)
      (masterPassword : SecureString) :
      Inner (.request received env fresh)
        (.construct fresh masterPassword env.load env.clock)
  | call (received : SecureBytes) (env : ServeEnv) (fresh id : Nat)
      (request : Request) :
      Inner (.request received env fresh) (.call id request env.clock)
  | commit (env : CommitEnv) (clock : Clock) (now id : Nat) :
      Inner (.resume env clock now) (.commit id env clock)

namespace AgentSystem

variable {path : Path} {primitives : Primitives} {library : Library}
  {state next : AgentSystem path} {reply : AgentReply}

theorem put_none_of_absent {system : System path} {id : Nat}
    (absent : system.sessions id = none) :
    system.put system.files id none = system := by
  unfold System.put
  rw [← absent, Function.update_eq_self]

/-- To reset `vault_service_` is to destroy the instance, if there is one. -/
theorem released_cases (primitives : Primitives) (state : AgentSystem path) :
    state.released = state.system ∨
      ∃ id, state.system.step primitives (.destroy id) =
        some (state.released, .destroyed) := by
  unfold released
  split
  · exact .inl rfl
  · next id _ =>
      cases found : state.system.sessions id with
      | none => exact .inl (put_none_of_absent found)
      | some session =>
          refine .inr ⟨id, ?_⟩
          simp only [System.step, System.destroy, found]

/-- The instances do not see the agent: its step is none or one of theirs. -/
theorem step_system {event : AgentEvent}
    (stepped : state.step primitives library event = some (next, reply)) :
    next.system = state.system ∨
      ∃ inner answer, event.Inner inner ∧
        state.system.step primitives inner = some (next.system, answer) := by
  have reset : ∀ event : AgentEvent, state.released = state.system ∨
      ∃ inner answer, event.Inner inner ∧
        state.system.step primitives inner = some (state.released, answer) := by
    intro event
    rcases released_cases primitives state with same | ⟨id, destroyed⟩
    · exact .inl same
    · exact .inr ⟨_, _, .destroy event id, destroyed⟩
  cases step_cases stepped with
  | other _ systemStepped => exact .inr ⟨_, _, .other _, systemStepped⟩
  | checked => exact .inl rfl
  | expired => exact reset _
  | dropped => exact .inl rfl
  | answered _ _ system_eq => exact .inl system_eq
  | locked => exact reset _
  | unlocking _ _ carried =>
      cases carried with
      | threw constructed =>
          exact .inr ⟨_, _, .construct _ _ _ _, constructed⟩
      | ended constructed =>
          exact .inr ⟨_, _, .construct _ _ _ _, constructed⟩
  | calling _ _ _ _ carried =>
      cases carried with
      | threw called => exact .inr ⟨_, _, .call _ _ _ _ _, called⟩
      | ended called => exact .inr ⟨_, _, .call _ _ _ _ _, called⟩
  | swapped => exact reset _
  | saved _ _ carried =>
      cases carried with
      | threw committed => exact .inr ⟨_, _, .commit _ _ _ _, committed⟩
      | ended committed => exact .inr ⟨_, _, .commit _ _ _ _, committed⟩
  | ended => exact reset _

end AgentSystem

end DuckPass
