/-
Module: DuckPass.Proofs.AgentHandling
Purpose: The two-step handler among other processes is the handler: in every
  reachable state, a request that is not interrupted is answered by it as by
  `handle_client`, with the same agent and the same files after it.
Trusted boundary: as for `DuckPass.System.AgentSystem`.
Main exports: AgentSystem.Sound, AgentSystem.run_sound, AgentSystem.Handling,
  AgentSystem.reachable_handling_eq_handleClient
-/
import DuckPass.System.AgentSystem

namespace DuckPass

/-! ## Steps of one instance -/

namespace System

variable {path : Path} {primitives : Primitives} {system next : System path}

/-- A step leaves the other instances alone. -/
theorem step_sessions_of_ne {event : Event} {reply : Reply} {id : Nat}
    (stepped : system.step primitives event = some (next, reply))
    (other : id ≠ event.id) : next.sessions id = system.sessions id := by
  cases step_cases stepped with
  | notConstructed => rfl
  | rejected => rfl
  | constructed => exact put_sessions_of_ne _ _ _ other
  | called => exact put_sessions_of_ne _ _ _ other
  | committed => exact put_sessions_of_ne _ _ _ other
  | destroyed => exact put_sessions_of_ne _ _ _ other

theorem step_construct_ok {id : Nat} {masterPassword : SecureString}
    {faults : LoadFaults} {clock : Clock} {service : VaultService}
    (free : system.sessions id = none)
    (finished : VaultService.construct primitives faults path masterPassword
      system.files clock = .ok service) :
    ∃ after : Session path, after.service = service ∧ after.pending = none ∧
      system.step primitives (.construct id masterPassword faults clock) =
        some (system.put system.files id (some after), .constructed) := by
  simp only [step, construct, free]
  split
  · next failed =>
      rw [failed] at finished
      cases finished
  · next constructed =>
      rw [constructed] at finished
      cases finished
      exact ⟨_, rfl, rfl, rfl⟩

theorem step_construct_error {id : Nat} {masterPassword : SecureString}
    {faults : LoadFaults} {clock : Clock} {error : DuckpassError}
    (free : system.sessions id = none)
    (failed : VaultService.construct primitives faults path masterPassword
      system.files clock = .error error) :
    system.step primitives (.construct id masterPassword faults clock) =
      some (system, .threw error) := by
  simp only [step, construct, free]
  split
  · next thrown =>
      rw [thrown] at failed
      cases failed
      rfl
  · next constructed =>
      rw [constructed] at failed
      cases failed

theorem step_call_ok {id : Nat} {request : Request} {clock : Clock}
    {session : Session path} {staged : VaultService}
    (present : system.sessions id = some session)
    (idle : session.pending = none)
    (finished : request.stage clock session.service = .ok staged) :
    ∃ after : Session path, after.service = staged ∧
      after.pending = some request ∧
      system.step primitives (.call id request clock) =
        some (system.put system.files id (some after), .waiting) := by
  simp only [step, call, present, idle]
  split
  · next failed =>
      rw [failed] at finished
      cases finished
  · next ended =>
      rw [ended] at finished
      cases finished
      exact ⟨_, rfl, rfl, rfl⟩

theorem step_call_error {id : Nat} {request : Request} {clock : Clock}
    {session : Session path} {error : DuckpassError}
    (present : system.sessions id = some session)
    (idle : session.pending = none)
    (failed : request.stage clock session.service = .error error) :
    system.step primitives (.call id request clock) =
      some (system, .threw error) := by
  simp only [step, call, present, idle]
  split
  · next thrown =>
      rw [thrown] at failed
      cases failed
      rfl
  · next ended =>
      rw [ended] at failed
      cases failed

theorem step_commit {id : Nat} {env : CommitEnv} {clock : Clock}
    {request : Request} {session : Session path} {outcome : Outcome}
    (present : system.sessions id = some session)
    (pending : session.pending = some request)
    (ended : request.locked primitives env clock session.service
      (.start system.files) = outcome) :
    ∃ after : Session path, after.service = outcome.self ∧
      after.pending = none ∧
      system.step primitives (.commit id env clock) =
        some (system.put outcome.storage.files id (some after),
          .ofResult outcome.result) := by
  subst ended
  simp only [step, commit, present, pending]
  exact ⟨_, rfl, rfl, rfl⟩

end System

/-! ## The agent's instances -/

/-- What is seen of a packet that is written back, or not. -/
def AgentReply.ofResponse : Option Response → AgentReply
  | none => .silent
  | some packet => .response packet

namespace AgentSystem

variable {path : Path} {primitives : Primitives} {library : Library}
  {state next : AgentSystem path} {reply : AgentReply}

/-- The agent's instances are there, and its session waits for the lock exactly
while the handler is inside of a writing call. -/
structure Sound (state : AgentSystem path) : Prop where
  current : ∀ id, state.current = some id →
    ∃ found, state.system.sessions id = some found ∧
      (found.pending = none ↔ state.phase ≠ .saving)
  saving : state.phase = .saving → ∃ id, state.current = some id
  fresh : ∀ id, state.phase = .unlocking id →
    state.current ≠ some id ∧
      ∃ found, state.system.sessions id = some found ∧ found.pending = none

/-- An agent without a session that waits for a client. -/
theorem Sound.of_locked (locked : state.current = none)
    (idle : state.phase = .waiting) : state.Sound where
  current id present := by
    rw [locked] at present
    cases present
  saving busy := by
    rw [idle] at busy
    cases busy
  fresh id busy := by
    rw [idle] at busy
    cases busy

/-- An agent with a session that waits for a client. -/
theorem Sound.of_unlocked {id : Nat} {found : Session path}
    (unlocked : state.current = some id) (idle : state.phase = .waiting)
    (present : state.system.sessions id = some found)
    (quiet : found.pending = none) : state.Sound where
  current other present' := by
    rw [unlocked] at present'
    cases present'
    refine ⟨found, present, ?_⟩
    simp [quiet, idle]
  saving busy := by
    rw [idle] at busy
    cases busy
  fresh other busy := by
    rw [idle] at busy
    cases busy

theorem Sound.session (sound : state.Sound) (idle : state.phase = .waiting)
    {id : Nat} (unlocked : state.current = some id) :
    ∃ found, state.system.sessions id = some found ∧ found.pending = none := by
  obtain ⟨found, present, quiet⟩ := sound.current id unlocked
  refine ⟨found, present, quiet.mpr ?_⟩
  rw [idle]
  nofun

/-- A state in which the agent waits for a client is sound if its session is
there. -/
theorem Sound.of_waiting (idle : state.phase = .waiting)
    (present : ∀ id, state.current = some id →
      ∃ found, state.system.sessions id = some found ∧ found.pending = none) :
    state.Sound := by
  cases unlocked : state.current with
  | none => exact .of_locked unlocked idle
  | some id =>
      obtain ⟨found, here, quiet⟩ := present id unlocked
      exact .of_unlocked unlocked idle here quiet

theorem Sound.other (sound : state.Sound) {system : System path}
    (same : ∀ id, state.Holds id →
      system.sessions id = state.system.sessions id) :
    ({ state with system := system } : AgentSystem path).Sound where
  current id unlocked := by
    rw [same id (.inl unlocked)]
    exact sound.current id unlocked
  saving := sound.saving
  fresh id busy := by
    rw [same id (.inr busy)]
    exact sound.fresh id busy

theorem Sound.unlocking (sound : state.Sound) (idle : state.phase = .waiting)
    {fresh : Nat} {masterPassword : SecureString} {faults : LoadFaults}
    {clock : Clock} {result : AgentSystem path × AgentReply}
    (carried : Carried primitives state
      (.construct fresh masterPassword faults clock)
      (fun state => ({ state with phase := .unlocking fresh }, .waiting))
      result) : result.1.Sound := by
  cases carried with
  | threw stepped =>
      cases DuckPass.step_cases stepped with
      | notConstructed =>
          exact .of_waiting rfl fun id unlocked => sound.session idle unlocked
  | ended stepped fine =>
      cases DuckPass.step_cases stepped with
      | notConstructed => exact absurd rfl (fine _)
      | constructed free _ quiet =>
          have apart : ∀ id, state.current = some id → id ≠ fresh := by
            rintro id unlocked rfl
            obtain ⟨found, present, _⟩ := sound.session idle unlocked
            rw [free] at present
            cases present
          constructor
          · intro id unlocked
            obtain ⟨found, present, idleFound⟩ := sound.session idle unlocked
            refine ⟨found, ?_, by simp [idleFound]⟩
            exact (System.put_sessions_of_ne _ _ _ (apart id unlocked)).trans
              present
          · nofun
          · rintro id ⟨⟩
            exact ⟨fun unlocked => apart fresh unlocked rfl, _,
              System.put_sessions_self _ _ _ _, quiet⟩

theorem Sound.calling (sound : state.Sound) (idle : state.phase = .waiting)
    {id now : Nat} {request : Request} {clock : Clock}
    {result : AgentSystem path × AgentReply}
    (unlocked : state.current = some id)
    (carried : Carried primitives { state with lastActivity := now }
      (.call id request clock)
      (fun state => ({ state with phase := .saving }, .waiting)) result) :
    result.1.Sound := by
  cases carried with
  | threw stepped =>
      cases DuckPass.step_cases stepped with
      | rejected =>
          exact .of_waiting rfl fun id unlocked => sound.session idle unlocked
  | ended stepped fine =>
      cases DuckPass.step_cases stepped with
      | rejected => exact absurd rfl (fine _)
      | called _ _ _ waits =>
          constructor
          · intro other present
            cases unlocked.symm.trans present
            exact ⟨_, System.put_sessions_self _ _ _ _, by simp [waits]⟩
          · exact fun _ => ⟨id, unlocked⟩
          · nofun

theorem Sound.saved {id : Nat} {env : CommitEnv} {clock : Clock}
    {result : AgentSystem path × AgentReply}
    (unlocked : state.current = some id)
    (carried : Carried primitives state (.commit id env clock)
      (fun state => ({ state with phase := .waiting },
        .response AgentServer.acknowledgement)) result) : result.1.Sound := by
  cases carried with
  | threw stepped =>
      cases DuckPass.step_cases stepped with
      | committed _ _ _ _ quiet =>
          exact .of_unlocked unlocked rfl (System.put_sessions_self _ _ _ _)
            quiet
  | ended stepped =>
      cases DuckPass.step_cases stepped with
      | committed _ _ _ _ quiet =>
          exact .of_unlocked unlocked rfl (System.put_sessions_self _ _ _ _)
            quiet

/-- The instances other than the session are as before once it is dropped. -/
theorem released_sessions_of_ne {id : Nat} (other : state.current ≠ some id) :
    state.released.sessions id = state.system.sessions id := by
  unfold released
  split
  · rfl
  · next unlocked =>
      apply System.put_sessions_of_ne
      rintro rfl
      exact other unlocked

theorem Sound.step {event : AgentEvent} (sound : state.Sound)
    (stepped : state.step primitives library event = some (next, reply)) :
    next.Sound := by
  cases step_cases stepped with
  | other foreign systemStepped =>
      apply sound.other
      intro id held
      apply System.step_sessions_of_ne systemStepped
      rintro rfl
      exact foreign held
  | checked => exact sound
  | expired idle => exact .of_locked rfl idle
  | dropped => exact sound
  | answered idle _ system_eq current_eq stays =>
      apply Sound.of_waiting stays
      rw [system_eq, current_eq]
      exact fun id unlocked => sound.session idle unlocked
  | locked idle => exact .of_locked rfl idle
  | unlocking idle _ carried => exact sound.unlocking idle carried
  | calling idle _ _ unlocked carried =>
      exact sound.calling idle unlocked carried
  | swapped busy =>
      obtain ⟨apart, found, present, quiet⟩ := sound.fresh _ busy
      exact .of_unlocked rfl rfl
        ((released_sessions_of_ne apart).trans present) quiet
  | saved _ unlocked carried => exact Sound.saved unlocked carried
  | ended idle => exact .of_locked rfl idle

/-- Every state that the system reaches is sound. -/
theorem run_sound {events : List AgentEvent} {replies : List AgentReply}
    (sound : state.Sound)
    (finished : state.run primitives library events = some (next, replies)) :
    next.Sound :=
  Run.invariant_of_step (fun sound stepped => Sound.step sound stepped) sound
    finished

theorem initial_sound (files : Files) (idleTimeoutSeconds : UInt32) :
    (initial path files idleTimeoutSeconds).Sound :=
  .of_locked rfl rfl

/-! ## A request that is not interrupted -/

/-- A request and, where it had to wait, the rest of it with nothing in
between. -/
inductive Handling (primitives : Primitives) (library : Library)
    (state : AgentSystem path) (received : SecureBytes) (env : ServeEnv)
    (fresh : Nat) : AgentSystem path → AgentReply → Prop where
  | atOnce {next : AgentSystem path} {reply : AgentReply}
      (stepped : state.step primitives library (.request received env fresh) =
        some (next, reply)) :
      Handling primitives library state received env fresh next reply
  | waited {middle next : AgentSystem path} {clock : Clock}
      {reply : AgentReply}
      (started : state.step primitives library (.request received env fresh) =
        some (middle, .waiting))
      (finished : middle.step primitives library
        (.resume env.commit clock env.now) = some (next, reply)) :
      Handling primitives library state received env fresh next reply

/-- A request is handled as the handler does it. -/
def Agrees (primitives : Primitives) (library : Library)
    (state : AgentSystem path) (received : SecureBytes) (env : ServeEnv)
    (fresh : Nat) (handled : AgentServer.Handled) : Prop :=
  ∃ next, Handling primitives library state received env fresh next
      (.ofResponse handled.response) ∧
    next.phase = .waiting ∧ next.agent = handled.agent ∧
    next.system.files = handled.storage.files

variable {received : SecureBytes} {env : ServeEnv} {fresh : Nat}

/-- A packet that arrives is handled if the agent is ready. -/
theorem step_request {request : AgentRequest}
    (ready : state.running = true ∧ state.phase = .waiting)
    (parsed : parseRequest received = some request) :
    state.step primitives library (.request received env fresh) =
      state.begin primitives library env fresh request := by
  simp only [step, ready, parsed, and_self, not_true_eq_false, if_false]

/-- The agent after its session was replaced. -/
theorem agent_of_put {id : Nat} {after : Session path} {files : Files}
    (unlocked : state.current = some id) :
    ({ state with system := state.system.put files id (some after) } :
      AgentSystem path).agent =
      { state.agent with vaultService := some after.service } := by
  unfold agent session
  simp only [unlocked, Option.bind_some, System.put_sessions_self,
    Option.map_some]

theorem released_files : state.released.files = state.system.files := by
  unfold released
  split
  · rfl
  · rfl

/-- The second half of an unlock puts the new session in place. -/
theorem finish_unlocking {commit : CommitEnv} {clock : Clock} {now : Nat}
    {after : Session path} (busy : state.phase = .unlocking fresh)
    (apart : state.current ≠ some fresh)
    (present : state.system.sessions fresh = some after) :
    ∃ next, state.step primitives library (.resume commit clock now) =
        some (next, .response AgentServer.acknowledgement) ∧
      next.phase = .waiting ∧
      next.agent = { state.agent with
        vaultService := some after.service
        lastActivity := now } ∧
      next.system.files = state.system.files := by
  refine ⟨{ state.drop with
    current := some fresh
    lastActivity := now
    phase := .waiting }, ?_, rfl, ?_, released_files⟩
  · simp only [step, finish, busy]
  · have kept := (released_sessions_of_ne apart).trans present
    simp only [agent, session, drop, Option.bind_some, kept, Option.map_some]

/-- An unlock opens the file and then puts the session in place. -/
theorem unlock_agrees {masterPassword : SecureString} (sound : state.Sound)
    (ready : state.running = true ∧ state.phase = .waiting)
    (free : state.system.sessions fresh = none)
    (configured : ∀ vaultPath, env.vaultPath = .ok vaultPath →
      vaultPath = path)
    (parsed : parseRequest received = some (.unlock masterPassword)) :
    state.Agrees primitives library received env fresh
      (AgentServer.perform primitives library env state.agent
        (.start state.system.files) (.unlock masterPassword)) := by
  have started := @step_request path primitives library state received env fresh
    _ ready parsed
  simp only [begin, beginUnlock] at started
  simp only [AgentServer.perform, AgentServer.unlock, Storage.start]
  cases found : env.vaultPath with
  | error error =>
      rw [found] at started
      exact ⟨state, .atOnce started, ready.2, rfl, rfl⟩
  | ok vaultPath =>
      obtain rfl := configured vaultPath found
      simp only [found, ne_eq, not_true_eq_false, if_false] at started
      by_cases missing : (state.system.files vaultPath).isNone = true
      · rw [if_pos missing] at started
        simp only [missing, if_true]
        exact ⟨state, .atOnce started, ready.2, rfl, rfl⟩
      · rw [if_neg missing] at started
        simp only [missing]
        cases opened : VaultService.construct primitives env.load vaultPath
            masterPassword state.system.files env.clock with
        | error error =>
            rw [carry, System.step_construct_error free opened] at started
            exact ⟨_, .atOnce started, rfl, rfl, rfl⟩
        | ok service =>
            obtain ⟨after, same, quiet, constructed⟩ :=
              System.step_construct_ok free opened
            rw [carry, constructed] at started
            have apart : state.current ≠ some fresh := by
              intro unlocked
              obtain ⟨_, present, _⟩ := sound.session ready.2 unlocked
              rw [free] at present
              cases present
            let middle : AgentSystem vaultPath := { state with
              system := state.system.put state.system.files fresh (some after)
              phase := .unlocking fresh }
            have here : middle.system.sessions fresh = some after :=
              System.put_sessions_self _ _ _ _
            obtain ⟨next, finished, idle, agent_eq, files_eq⟩ :=
              @finish_unlocking vaultPath primitives library middle fresh
                env.commit env.clock env.now after rfl apart here
            refine ⟨next, .waited started finished, idle, ?_, files_eq⟩
            rw [agent_eq, same]
            rfl

/-- A request that writes is the method call that it asks for. -/
theorem serve_of_request {call : EntryCall} {request : Request}
    (writes : call.request = some request) (storage : Storage)
    (self : VaultService) :
    call.serve primitives library env storage self =
      AgentServer.outcomeServed
        (request.execute primitives env.commit env.clock self storage) := by
  cases call with
  | addEntry => cases writes; rfl
  | deleteEntry => cases writes; rfl
  | getEntry => cases writes
  | listEntries => cases writes
  | getTotp => cases writes

/-- A request that does not write leaves the session and the files alone. -/
theorem serve_of_no_request {call : EntryCall}
    (reads : call.request = none) (storage : Storage) (self : VaultService) :
    (call.serve primitives library env storage self).service = self ∧
      (call.serve primitives library env storage self).storage = storage := by
  cases call with
  | addEntry => cases reads
  | deleteEntry => cases reads
  | getEntry => exact ⟨rfl, rfl⟩
  | listEntries => exact ⟨rfl, rfl⟩
  | getTotp => exact ⟨rfl, rfl⟩

/-- The second half of a writing request is the half of its call under the
lock. -/
theorem finish_saving {id now : Nat} {commit : CommitEnv} {clock : Clock}
    {request : Request} {found : Session path} {outcome : Outcome}
    (busy : state.phase = .saving) (unlocked : state.current = some id)
    (present : state.system.sessions id = some found)
    (pending : found.pending = some request)
    (ended : request.locked primitives commit clock found.service
      (.start state.system.files) = outcome) :
    ∃ next, state.step primitives library (.resume commit clock now) =
        some (next,
          .response (AgentServer.outcomeServed outcome).response) ∧
      next.phase = .waiting ∧
      next.agent = { state.agent with vaultService := some outcome.self } ∧
      next.system.files = outcome.storage.files := by
  obtain ⟨after, same, _, committed⟩ :=
    System.step_commit present pending ended
  have agent_eq := @agent_of_put path state id after outcome.storage.files
    unlocked
  rw [same] at agent_eq
  refine ⟨{ state with
    system := state.system.put outcome.storage.files id (some after)
    phase := .waiting }, ?_, rfl, agent_eq, rfl⟩
  simp only [step, finish, busy, unlocked, carry, committed,
    AgentServer.outcomeServed]
  cases outcome.result with
  | ok done => rfl
  | error error => rfl

/-- A writing request stages its call and then runs it under the lock. -/
theorem entry_agrees {call : EntryCall} (sound : state.Sound)
    (ready : state.running = true ∧ state.phase = .waiting)
    (parsed : parseRequest received = some (.entry call)) :
    state.Agrees primitives library received env fresh
      (AgentServer.perform primitives library env state.agent
        (.start state.system.files) (.entry call)) := by
  have started := @step_request path primitives library state received env fresh
    _ ready parsed
  simp only [begin, beginEntry] at started
  rw [AgentServer.perform]
  cases unlocked : state.current with
  | none =>
      rw [unlocked] at started
      rw [AgentServer.serve_of_none (agent_vaultService_of_none unlocked)]
      exact ⟨state, .atOnce started, ready.2, rfl, rfl⟩
  | some id =>
      obtain ⟨found, present, quiet⟩ := sound.session ready.2 unlocked
      have inside := agent_vaultService_of_some unlocked present
      rw [AgentServer.serve_of_some inside]
      simp only [unlocked] at started
      cases writes : call.request with
      | none =>
          obtain ⟨kept, untouched⟩ :=
            @serve_of_no_request primitives library env call writes
              (.start state.system.files) found.service
          simp only [writes, present] at started
          refine ⟨_, .atOnce started, ready.2, ?_, ?_⟩
          · simp only [agent, session, unlocked, Option.bind_some, present,
              Option.map_some, kept]
          · rw [untouched]
            rfl
      | some request =>
          rw [serve_of_request writes, execute_eq]
          simp only [writes, carry] at started
          cases staged : request.stage env.clock found.service with
          | error error =>
              rw [System.step_call_error present quiet staged] at started
              refine ⟨_, .atOnce started, rfl, ?_, rfl⟩
              simp only [agent, session, unlocked, Option.bind_some, present,
                Option.map_some, AgentServer.outcomeServed]
          | ok service =>
              obtain ⟨after, same, pending, called⟩ :=
                System.step_call_ok present quiet staged
              rw [called] at started
              let middle : AgentSystem path := { state with
                system := state.system.put state.system.files id (some after)
                lastActivity := env.now
                phase := .saving }
              have here : middle.system.sessions id = some after :=
                System.put_sessions_self _ _ _ _
              obtain ⟨next, finished, idle, agent_eq, files_eq⟩ :=
                @finish_saving path primitives library middle id env.now
                  env.commit (request.clockAfter env.clock) request after _ rfl
                  unlocked here pending rfl
              rw [← same]
              refine ⟨next, .waited ?_ finished, idle, ?_, ?_⟩
              · rw [started]
                simp only [middle, unlocked]
              · rw [agent_eq, AgentServer.outcomeServed_service]
                rfl
              · rw [files_eq, AgentServer.outcomeServed_storage]
                rfl

/-- In a state where the agent waits for a client, a packet is handled as
`handle_client` does it, if nothing comes in between. -/
theorem handling_eq_handleClient (sound : state.Sound)
    (ready : state.running = true ∧ state.phase = .waiting)
    (free : state.system.sessions fresh = none)
    (configured : ∀ vaultPath, env.vaultPath = .ok vaultPath →
      vaultPath = path) (received : SecureBytes) :
    state.Agrees primitives library received env fresh
      (AgentServer.handleClient primitives library env state.agent
        (.start state.system.files) received) := by
  rw [AgentServer.handleClient_eq]
  cases parsed : parseRequest received with
  | none =>
      refine ⟨state, .atOnce ?_, ready.2, rfl, rfl⟩
      simp only [step, ready, parsed, and_self, not_true_eq_false, if_false]
      rfl
  | some request =>
      have started := @step_request path primitives library state received env
        fresh _ ready parsed
      cases request with
      | ping => exact ⟨state, .atOnce started, ready.2, rfl, rfl⟩
      | status => exact ⟨state, .atOnce started, ready.2, rfl, rfl⟩
      | unlock masterPassword =>
          exact unlock_agrees sound ready free configured parsed
      | lock => exact ⟨_, .atOnce started, ready.2, rfl, released_files⟩
      | stop => exact ⟨_, .atOnce started, ready.2, rfl, rfl⟩
      | entry call => exact entry_agrees sound ready parsed
      | malformed text => exact ⟨state, .atOnce started, ready.2, rfl, rfl⟩

/-- The same from every state that the system reaches. -/
theorem reachable_handling_eq_handleClient {files : Files}
    {idleTimeoutSeconds : UInt32} {events : List AgentEvent}
    {replies : List AgentReply}
    (finished : (initial path files idleTimeoutSeconds).run primitives library
      events = some (state, replies))
    (ready : state.running = true ∧ state.phase = .waiting)
    (free : state.system.sessions fresh = none)
    (configured : ∀ vaultPath, env.vaultPath = .ok vaultPath →
      vaultPath = path) (received : SecureBytes) :
    state.Agrees primitives library received env fresh
      (AgentServer.handleClient primitives library env state.agent
        (.start state.system.files) received) :=
  handling_eq_handleClient
    (run_sound (initial_sound files idleTimeoutSeconds) finished) ready free
    configured received

end AgentSystem

end DuckPass
