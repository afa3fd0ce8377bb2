/-
Module: DuckPass.Proofs.AgentSync
Purpose: After a committed change and an acknowledged LOCK the agent answers
  only from sessions that it opened later, however unlocks, commits and the
  LOCK interleave.
Trusted boundary: as for `DuckPass.System.AgentSystem`.
Main exports: Loads, LoadedSince, AgentSystem.held_or_loaded, SyncedAgent,
  synced_agent_serves_fresh_session
-/
import DuckPass.Proofs.AgentHandling
import DuckPass.System.SymbolicAgent

namespace DuckPass

variable {path : Path}

/-- The step is an unlock that opens the vault file as it is in this state, and
the instance is what it opened to. -/
inductive Loads (primitives : Primitives) (state : AgentSystem path) :
    AgentEvent → Nat → AgentSystem path → Prop where
  | opened {received : SecureBytes} {env : ServeEnv} {fresh : Nat}
      {masterPassword : SecureString} {next : AgentSystem path}
      {after : Session path}
      (parsed : parseRequest received = some (.unlock masterPassword))
      (present : next.system.sessions fresh = some after)
      (constructed : Constructed primitives path masterPassword
        state.system.files env.clock after.service) :
      Loads primitives state (.request received env fresh) fresh next

/-- Somewhere in a run the agent has opened the vault file, and the instance it
got there is the one that it has held ever since. -/
structure LoadedSince (primitives : Primitives) (library : Library)
    (start : AgentSystem path) (events : List AgentEvent)
    (last : AgentSystem path) (id : Nat) : Prop where
  loaded : ∃ before event after found next reply earlier replies,
    events = before ++ event :: after ∧
    start.run primitives library before = some (found, earlier) ∧
    found.step primitives library event = some (next, reply) ∧
    Loads primitives found event id next ∧
    next.run primitives library after = some (last, replies) ∧
    Run.Along (AgentSystem.step primitives library)
      (fun state _ => state.Holds id) next after
  held : last.Holds id

/-- What comes later in a run is later than what comes before it. -/
theorem LoadedSince.earlier {primitives : Primitives} {library : Library}
    {start middle last : AgentSystem path} {events : List AgentEvent}
    {id : Nat}
    {before : List AgentEvent} {seen : List AgentReply}
    (ran : start.run primitives library before = some (middle, seen))
    (loaded : LoadedSince primitives library middle events last id) :
    LoadedSince primitives library start (before ++ events) last id where
  held := loaded.held
  loaded := by
    obtain ⟨⟨first, event, after, found, next, reply, seenFirst, seenAfter,
      split, ranFirst, stepped, loads, ranAfter, along⟩, _⟩ := loaded
    refine ⟨before ++ first, event, after, found, next, reply,
      seen ++ seenFirst, seenAfter, ?_, Run.run_trans ran ranFirst, stepped,
      loads, ranAfter, along⟩
    rw [split, List.append_assoc]

namespace AgentSystem

variable {primitives : Primitives} {library : Library}
  {state next start last : AgentSystem path} {reply : AgentReply}
  {event : AgentEvent} {events : List AgentEvent}
  {replies : List AgentReply} {id : Nat}

/-- An agent that waits for a client holds its session and nothing else. -/
theorem current_of_holds (held : state.Holds id)
    (idle : state.phase = .waiting) : state.current = some id := by
  rcases held with unlocked | busy
  · exact unlocked
  · rw [idle] at busy
    cases busy

/-- An agent that has dropped its session and waits for a client holds
nothing. -/
theorem not_holds_drop (idle : state.phase = .waiting) :
    ¬ state.drop.Holds id := by
  intro held
  cases current_of_holds held idle

/-- An agent that goes back to waiting with the session it had holds nothing
new. -/
theorem holds_of_same (held : next.Holds id) (idle : next.phase = .waiting)
    (same : next.current = state.current) : state.Holds id :=
  .inl (same ▸ current_of_holds held idle)

/-- The agent comes to hold an instance only by opening the file. -/
theorem holds_cases
    (stepped : state.step primitives library event = some (next, reply))
    (held : next.Holds id) :
    state.Holds id ∨ Loads primitives state event id next := by
  cases step_cases stepped with
  | other => exact .inl held
  | checked => exact .inl held
  | expired idle => exact absurd held (not_holds_drop idle)
  | dropped => exact .inl held
  | answered _ _ _ current_eq stays =>
      exact .inl (holds_of_same held stays current_eq)
  | locked idle => exact absurd held (not_holds_drop idle)
  | unlocking _ parsed carried =>
      cases carried with
      | threw => exact .inl (holds_of_same held rfl rfl)
      | ended constructed fine =>
          rcases held with unlocked | busy
          · exact .inl (.inl unlocked)
          · cases busy
            cases DuckPass.step_cases constructed with
            | notConstructed => exact absurd rfl (fine _)
            | constructed _ fresh =>
                exact .inr (.opened parsed (System.put_sessions_self _ _ _ _)
                  fresh)
  | calling _ _ _ _ carried =>
      cases carried with
      | threw => exact .inl (holds_of_same held rfl rfl)
      | ended =>
          rcases held with unlocked | busy
          · exact .inl (.inl unlocked)
          · cases busy
  | swapped busy =>
      cases current_of_holds held rfl
      exact .inl (.inr busy)
  | saved _ _ carried =>
      cases carried with
      | threw => exact .inl (holds_of_same held rfl rfl)
      | ended => exact .inl (holds_of_same held rfl rfl)
  | ended idle => exact absurd held (not_holds_drop idle)

/-- An instance that the agent holds at the end of a run it has held all the
time, or opened on the way. -/
theorem held_or_loaded
    (finished : start.run primitives library events = some (last, replies))
    (held : last.Holds id) :
    (start.Holds id ∧ Run.Along (step primitives library)
        (fun state _ => state.Holds id) start events) ∨
      LoadedSince primitives library start events last id := by
  induction events generalizing start replies with
  | nil =>
      cases finished
      exact .inl ⟨held, trivial⟩
  | cons event events inductionHypothesis =>
      obtain ⟨next, reply, later, stepped, rest, _⟩ := Run.run_cons finished
      rcases inductionHypothesis rest with ⟨here, along⟩ | loaded
      · rcases holds_cases stepped here with before | loads
        · exact .inl ⟨before, Run.along_cons before stepped along⟩
        · exact .inr ⟨⟨[], event, events, start, next, reply, [], later, rfl,
            rfl, stepped, loads, rest, along⟩, held⟩
      · have first : start.run primitives library [event] =
            some (next, [reply]) := by
          simp only [run, Run.run, stepped]
        exact .inr (loaded.earlier first)

/-- A request that is answered at once was answered by the handler. -/
theorem response_of_answered {received : SecureBytes} {env : ServeEnv}
    {fresh : Nat} {request : AgentRequest} {response : Response}
    (parsed : parseRequest received = some request)
    (reads : request = .status ∨
      ∃ call, request = .entry call ∧ call.request = none)
    (stepped : state.step primitives library (.request received env fresh) =
      some (next, .response response)) :
    (AgentServer.perform primitives library env state.agent
      (.start state.system.files) request).response = some response := by
  generalize replied : AgentReply.response response = reply at stepped
  cases step_cases stepped with
  | dropped => cases replied
  | answered _ asked _ _ _ _ performed =>
      cases replied
      cases parsed.symm.trans asked
      exact performed
  | locked _ asked =>
      cases parsed.symm.trans asked
      rcases reads with impossible | ⟨_, impossible, _⟩
      · cases impossible
      · cases impossible
  | unlocking _ asked =>
      cases parsed.symm.trans asked
      rcases reads with impossible | ⟨_, impossible, _⟩
      · cases impossible
      · cases impossible
  | calling _ asked writes =>
      cases parsed.symm.trans asked
      rcases reads with impossible | ⟨_, same, silent⟩
      · cases impossible
      · cases same
        rw [silent] at writes
        cases writes

/-- Only a session answers a request for entries with OK. -/
theorem current_of_ok {env : ServeEnv} {call : EntryCall} {response : Response}
    (performed : (AgentServer.perform primitives library env state.agent
      (.start state.system.files) (.entry call)).response = some response)
    (ok : response.status = ResponseStatus.ok.toByte) :
    ∃ id, state.current = some id := by
  cases locked : state.current with
  | some id => exact ⟨id, rfl⟩
  | none =>
      rw [AgentServer.perform, AgentServer.serve_of_none
        (agent_vaultService_of_none locked)] at performed
      cases performed
      cases ok

end AgentSystem

/-- A process other than the agent has committed a change of the vault file,
and later the agent has acknowledged a LOCK, as `sync_agent` waits for.
`events` is what happened after the commit, the LOCK included. -/
structure SyncedAgent (primitives : Primitives) (library : Library)
    (committed : AgentSystem path) (events : List AgentEvent)
    (locked : AgentSystem path) : Prop where
  commit : ∃ (before : AgentSystem path) (shell : Nat) (env : CommitEnv)
      (clock : Clock) (session : Session path) (request : Request),
    before.system.sessions shell = some session ∧
    session.pending = some request ∧ request ≠ .save ∧
    before.step primitives library (.other (.commit shell env clock)) =
      some (committed, .other .returned)
  acknowledged : ∃ (between : List AgentEvent) (received : SecureBytes)
      (env : ServeEnv) (fresh : Nat) (asked : AgentSystem path)
      (replies : List AgentReply),
    events = between ++ [.request received env fresh] ∧
    parseRequest received = some .lock ∧
    committed.run primitives library between = some (asked, replies) ∧
    asked.step primitives library (.request received env fresh) =
      some (locked, .response AgentServer.acknowledgement)

/-- After a LOCK the agent holds nothing that it held before. -/
theorem SyncedAgent.loadedSince {primitives : Primitives} {library : Library}
    {committed locked last : AgentSystem path}
    {events later : List AgentEvent} {replies : List AgentReply} {id : Nat}
    (synced : SyncedAgent primitives library committed events locked)
    (ran : locked.run primitives library later = some (last, replies))
    (held : last.Holds id) :
    LoadedSince primitives library committed (events ++ later) last id := by
  obtain ⟨between, received, env, fresh, asked, seen, rfl, parsed, ranBetween,
    stepped⟩ := synced.acknowledged
  have whole : committed.run primitives library
      (between ++ [.request received env fresh]) =
        some (locked, seen ++ [.response AgentServer.acknowledgement]) := by
    apply Run.run_trans ranBetween
    simp only [Run.run, stepped]
  have empty : ¬ locked.Holds id := by
    generalize AgentReply.response AgentServer.acknowledgement = reply
      at stepped
    cases AgentSystem.step_cases stepped with
    | dropped _ nothing => cases parsed.symm.trans nothing
    | locked idle => exact AgentSystem.not_holds_drop idle
    | answered _ asked _ _ _ unlocks =>
        exact absurd (Option.some.inj (asked.symm.trans parsed)) unlocks
    | unlocking _ asked => cases parsed.symm.trans asked
    | calling _ asked => cases parsed.symm.trans asked
  rcases AgentSystem.held_or_loaded ran held with ⟨here, _⟩ | loaded
  · exact absurd here empty
  · exact loaded.earlier whole

/-- Once a process has committed a change and has received the acknowledgement
of its LOCK, the agent answers GET_ENTRY, LIST_ENTRIES, GET_TOTP and STATUS with
OK only from a session that it opened from the vault file after that commit. -/
theorem synced_agent_serves_fresh_session {primitives : Primitives}
    {library : Library} {committed locked serving served : AgentSystem path}
    {events later : List AgentEvent} {replies : List AgentReply}
    {received : SecureBytes} {env : ServeEnv} {fresh : Nat}
    {request : AgentRequest} {response : Response}
    (synced : SyncedAgent primitives library committed events locked)
    (ran : locked.run primitives library later = some (serving, replies))
    (parsed : parseRequest received = some request)
    (reads : request = .status ∨
      ∃ call, request = .entry call ∧ call.request = none)
    (answered : serving.step primitives library
      (.request received env fresh) = some (served, .response response))
    (ok : response.status = ResponseStatus.ok.toByte) :
    (AgentServer.perform primitives library env serving.agent
        (.start serving.system.files) request).response = some response ∧
      (request ≠ .status → ∃ id, serving.current = some id) ∧
      ∀ id, serving.current = some id →
        LoadedSince primitives library committed (events ++ later) serving
          id := by
  have performed :=
    AgentSystem.response_of_answered parsed reads answered
  refine ⟨performed, ?_, ?_⟩
  · intro entry
    rcases reads with status | ⟨call, rfl, _⟩
    · exact absurd status entry
    · exact AgentSystem.current_of_ok performed ok
  · intro id unlocked
    exact synced.loadedSince ran (.inl unlocked)

namespace AgentSync

open Symbolic (primitives library masterPassword calm serveEnv)

/-- The state after some events. -/
def reached (state : AgentSystem Symbolic.path) (events : List AgentEvent) :
    AgentSystem Symbolic.path :=
  Run.reached (AgentSystem.step primitives library) state events

/-- A packet with a string in it. -/
def packet (command : CommandOpcode) (text : SecureString) : SecureBytes :=
  serializePacket command.toByte (appendPrefixed [] text)

/-- The shell has called `add_entry`, and the agent is inside of an unlock that
has opened the file before the shell writes it. -/
def waiting : AgentSystem Symbolic.path :=
  reached
    (.initial Symbolic.path (Symbolic.files Symbolic.oneEntry masterPassword)
      900)
    [.other (.construct 0 masterPassword .none (.constant 5)),
      .other (.call 0 (.addEntry [0x74] [1] [2] []) (.constant 6)),
      .request (packet .unlock masterPassword) (serveEnv 1 6) 1]

/-- The shell commits. -/
def commit : AgentEvent := .other (.commit 0 calm (.constant 7))

def committed : AgentSystem Symbolic.path := reached waiting [commit]

/-- The unlock ends, with a session that is too old. -/
def between : List AgentEvent := [.resume calm (.constant 7) 2]

def stale : AgentSystem Symbolic.path := reached committed between

/-- The LOCK of `sync_agent`. -/
def lock : AgentEvent :=
  .request (serializePacket CommandOpcode.lock.toByte []) (serveEnv 3 8) 2

def locked : AgentSystem Symbolic.path := reached stale [lock]

/-- Another client unlocks the agent again. -/
def later : List AgentEvent :=
  [.request (packet .unlock masterPassword) (serveEnv 4 8) 2,
    .resume calm (.constant 8) 4]

def serving : AgentSystem Symbolic.path := reached locked later

/-- The entry that the shell added is asked for. -/
def ask : AgentEvent :=
  .request (packet .getEntry [0x74]) (serveEnv 5 9) 3

theorem synced :
    SyncedAgent primitives library committed (between ++ [lock]) locked where
  commit := by
    have observed : (waiting.system.sessions 0).map Session.pending =
        some (some (.addEntry [0x74] [1] [2] [])) := by
      decide +kernel
    obtain ⟨session, present, pending⟩ := Option.map_eq_some_iff.mp observed
    exact ⟨waiting, 0, calm, .constant 7, session, _, present, pending, nofun,
      Run.step_reached (by decide +kernel)⟩
  acknowledged :=
    ⟨between, _, serveEnv 3 8, 2, stale,
      [.response AgentServer.acknowledgement], rfl, by decide +kernel,
      Run.run_reached (by decide +kernel),
      Run.step_reached (by decide +kernel)⟩

end AgentSync

/-- The unlock that read the file too early leaves a stale session behind, and
the new entry is only shown from the session that was opened after the LOCK. -/
theorem synced_agent_serves_fresh_session_stale :
    AgentSync.stale.current = some 1 ∧ AgentSync.serving.current = some 2 ∧
      LoadedSince Symbolic.primitives Symbolic.library AgentSync.committed
        (AgentSync.between ++ [AgentSync.lock] ++ AgentSync.later)
        AgentSync.serving 2 := by
  have parsed : parseRequest (AgentSync.packet .getEntry [0x74]) =
      some (.entry (.getEntry [0x74])) := by
    decide +kernel
  have answered : AgentSync.serving.step Symbolic.primitives Symbolic.library
      AgentSync.ask = some (AgentSync.reached AgentSync.serving [AgentSync.ask],
        .response ⟨ResponseStatus.ok.toByte,
          AgentServer.entryPayload ⟨[0x74], [1], [2], [], 6⟩⟩) :=
    Run.step_reached (by decide +kernel)
  have ran : AgentSync.locked.run Symbolic.primitives Symbolic.library
      AgentSync.later = some (AgentSync.serving,
        [.waiting, .response AgentServer.acknowledgement]) :=
    Run.run_reached (by decide +kernel)
  have fresh := synced_agent_serves_fresh_session AgentSync.synced ran parsed
    (.inr ⟨_, rfl, rfl⟩) answered rfl
  have current : AgentSync.serving.current = some 2 := by decide +kernel
  exact ⟨by decide +kernel, current, fresh.2.2 2 current⟩

end DuckPass
