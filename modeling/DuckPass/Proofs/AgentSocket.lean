/-
Module: DuckPass.Proofs.AgentSocket
Purpose: Agent processes that race for one socket: to the subcommands every
  order of their steps is a run with one agent at a time; without overlapping
  starts at most one serves, and everybody reaches it; an agent that lost its
  socket is never reached again.
Trusted boundary: as for `DuckPass.System.AgentProcesses`.
Main exports: Unseen, agents_refine_host, AgentProcesses.Alone,
  starts_apart_alone, AgentProcesses.OutOfReach, reached_or_orphaned
-/
import DuckPass.System.AgentProcesses
import DuckPass.System.SymbolicAgent

namespace DuckPass

variable {primitives : Primitives} {library : Library} {path socketPath : Path}

/-! ## Subcommands without an agent -/

namespace Host

variable {host : Host}

/-- A client that finds no agent is not connected. -/
theorem call_of_none (none : host.agent = none) {α : Type} (visit : Visit)
    (command : CommandOpcode) (payload : SecureBytes)
    (client : Connection → α) :
    host.call primitives library path visit command payload client =
      (client ⟨false, false, fun _ => []⟩, host) := by
  rw [call, connection_of_none none, after_of_none none]

/-- So its ping is not answered. -/
theorem ping_of_none (none : host.agent = none) (visit : Visit) :
    host.call primitives library path visit .ping [] IpcClient.ping =
      (false, host) :=
  call_of_none none visit .ping [] IpcClient.ping

/-- So `open_session` reports that there is no agent. -/
theorem openSession_of_none (none : host.agent = none) (env : CommandEnv)
    (masterPassword : SecureString) :
    host.openSession primitives library path env masterPassword =
      (.noAgent, host) := by
  rw [openSession, ping_of_none none]
  rfl

/-- And nothing is locked. -/
theorem lockIfAvailable_of_none (none : host.agent = none)
    (env : CommandEnv) :
    host.lockIfAvailable primitives library path env = host := by
  rw [lockIfAvailable, ping_of_none none]
  rfl

/-- A service that works on the files leaves the agent alone. -/
theorem write_agent (env : CommandEnv) (host : Host)
    (vaultService : VaultService) (request : Request) (done : Transcript) :
    (host.write primitives env vaultService request done).2.agent =
      host.agent := by
  unfold write
  dsimp only
  split <;> rfl

/-- So does one that is constructed for that. -/
theorem construct_agent (env : CommandEnv) (masterPassword : SecureString)
    {use : VaultService → Transcript × Host}
    (kept : ∀ vaultService, (use vaultService).2.agent = host.agent) :
    (host.construct primitives path env masterPassword use).2.agent =
      host.agent := by
  unfold construct
  split
  · rfl
  · exact kept _

/-- No subcommand starts an agent. -/
theorem run_of_none (absent : host.agent = none) (env : CommandEnv)
    (line : CommandLine) :
    (host.run primitives library path env line).2.agent = none := by
  cases line with
  | init pwd1 pwd2 =>
      simp only [run, initCommand]
      split
      · exact absent
      split
      · exact absent
      split
      · exact absent
      split
      · exact absent
      · exact absent
  | add name username entered masterPassword =>
      simp only [run, addCommand, openSession_of_none absent]
      split
      · exact absent
      split
      · exact absent
      · rw [construct_agent _ _ fun _ => write_agent _ _ _ _ _, absent]
  | get name showPassword masterPassword =>
      simp only [run, getCommand, openSession_of_none absent]
      split
      · exact absent
      · rw [construct_agent, absent]
        intro vaultService
        split
        · rfl
        · rfl
  | list query masterPassword =>
      simp only [run, listCommand, openSession_of_none absent]
      split
      · exact absent
      · rw [construct_agent, absent]
        intro vaultService
        rfl
  | delete name masterPassword =>
      simp only [run, deleteCommand, openSession_of_none absent]
      split
      · exact absent
      · rw [construct_agent _ _ fun _ => write_agent _ _ _ _ _, absent]
  | otp serviceName copyToClipboard masterPassword =>
      simp only [run, otpCommand, openSession_of_none absent]
      split
      · exact absent
      · rw [construct_agent, absent]
        intro vaultService
        split
        · rfl
        · rfl
  | rekey oldPwd newPwd1 newPwd2 =>
      simp only [run, rekeyCommand]
      split
      · exact absent
      · rw [construct_agent, absent]
        intro vaultService
        split
        · rfl
        · split
          · rfl
          · rw [lockIfAvailable_of_none]
            exact absent
  | agentStatus =>
      simp only [run, agentStatusCommand, ping_of_none absent]
      exact absent
  | agentUnlock masterPassword =>
      simp only [run, agentUnlockCommand, ping_of_none absent]
      exact absent
  | agentLock =>
      simp only [run, agentLockCommand, ping_of_none absent]
      exact absent
  | agentStop =>
      simp only [run, agentStopCommand, ping_of_none absent]
      exact absent

end Host

/-! ## What the subcommands see -/

/-- What the agents do among themselves, as the subcommands find it. -/
inductive Unseen : Host → Host → Prop where
  | same (host : Host) : Unseen host host
  | ended (host : Host) : Unseen host { host with agent := none }
  | started (files : Files) (idleTimeoutSeconds : UInt32) :
      Unseen ⟨files, none⟩ ⟨files, some ⟨idleTimeoutSeconds, true, none, 0⟩⟩
  | checked (host : Host) (now : Nat) :
      Unseen host { host with agent := host.agent.map (·.checkIdleTimeout now) }

def HostEvent.command? : HostEvent → Option (CommandLine × CommandEnv)
  | command line env => some (line, env)
  | _ => none

def ProcessEvent.command? : ProcessEvent → Option (CommandLine × CommandEnv)
  | command line env => some (line, env)
  | _ => none

/-- What is not seen is a run of one agent without subcommands. -/
theorem Unseen.run {host next : Host} (unseen : Unseen host next) :
    ∃ events transcripts, Run.run (Host.step primitives library path) host
        events = some (next, transcripts) ∧
      transcripts.flatten = [] ∧ events.filterMap HostEvent.command? = [] := by
  cases unseen with
  | same => exact ⟨[], [], rfl, rfl, rfl⟩
  | ended => exact ⟨[.agentKilled], [[]], rfl, rfl, rfl⟩
  | started files idleTimeoutSeconds =>
      exact ⟨[.agentStarted idleTimeoutSeconds 0], [[]], rfl, rfl, rfl⟩
  | checked _ now => exact ⟨[.agentChecked now], [[]], rfl, rfl, rfl⟩

namespace AgentProcesses

variable {state next last : AgentProcesses} {id : Nat} {agent : AgentServer}
  {process changed : AgentProcess}

/-- The agent that answers is the one that the socket leads to. -/
theorem answering_eq_some :
    state.answering = some (id, agent) ↔
      state.socket = some id ∧
        state.processes[id]? = some (.serving agent) := by
  constructor
  · intro answers
    obtain ⟨other, leads, found⟩ := Option.bind_eq_some_iff.mp answers
    obtain ⟨found, runs, same⟩ := Option.map_eq_some_iff.mp found
    cases same
    obtain ⟨process, runs, serves⟩ := Option.bind_eq_some_iff.mp runs
    cases process with
    | serving =>
        cases serves
        exact ⟨leads, runs⟩
    | greeting => cases serves
    | starting => cases serves
    | leaving => cases serves
    | gone => cases serves
  · rintro ⟨leads, runs⟩
    rw [answering, leads, Option.bind_some, runs]
    rfl

/-- A client sees that agent. -/
theorem host_of_answering (answers : state.answering = some (id, agent)) :
    state.host = ⟨state.files, some agent⟩ := by
  rw [host, answers]
  rfl

/-- Or none. -/
theorem host_of_silent (silent : state.answering = none) :
    state.host = ⟨state.files, none⟩ := by
  rw [host, silent]
  rfl

/-- The path leads where it led, and a change there is what a connection
meets. -/
theorem put_answering (runs : state.processes[id]? = some process) :
    (state.put id changed).answering =
      if state.socket = some id then changed.agent?.map (id, ·)
      else state.answering := by
  have within := (List.getElem?_eq_some_iff.mp runs).1
  unfold answering put
  cases leads : state.socket with
  | none => rfl
  | some other =>
      by_cases same : other = id
      · subst same
        simp [within]
      · simp [same, Ne.symm same]

/-- A process that does not serve before or after is not noticed. -/
theorem put_answering_of_idle (runs : state.processes[id]? = some process)
    (before : process.agent? = none) (after : changed.agent? = none) :
    (state.put id changed).answering = state.answering := by
  rw [put_answering runs]
  split
  · next leads =>
      rw [answering, leads, Option.bind_some, runs, Option.bind_some, before,
        after]
  · rfl

/-- What a client sees of a process that has changed. -/
theorem put_host (runs : state.processes[id]? = some process) :
    (state.put id changed).host =
      if state.socket = some id then ⟨state.files, changed.agent?⟩
      else state.host := by
  rw [host, put_answering runs]
  split
  · rw [Option.map_map]
    exact congrArg (Host.mk state.files) Option.map_id'
  · rfl

/-- Nothing, if it is no agent before or after. -/
theorem put_host_of_idle (runs : state.processes[id]? = some process)
    (before : process.agent? = none) (after : changed.agent? = none) :
    (state.put id changed).host = state.host := by
  rw [host, put_answering_of_idle runs before after]
  rfl

/-- Unlinking the socket ends no process. -/
theorem unlink_processes (removed : Bool) :
    (state.unlink removed).processes = state.processes := by
  cases removed <;> rfl

/-- A process that is launched is not noticed. -/
theorem launched_answering (idleTimeoutSeconds : UInt32) :
    { state with processes := state.processes ++
      [AgentProcess.greeting idleTimeoutSeconds] }.answering =
        state.answering := by
  unfold answering
  cases state.socket with
  | none => rfl
  | some other =>
      simp only [Option.bind_some]
      rw [List.getElem?_append]
      split
      · rfl
      · next beyond =>
          rw [List.getElem?_eq_none (Nat.le_of_not_lt beyond)]
          cases other - state.processes.length <;> rfl

/-- It takes the socket away or leaves everything. -/
theorem unlink_eq (removed : Bool) :
    state.unlink removed =
      { state with socket := if removed then none else state.socket } := by
  cases removed <;> rfl

/-- A client may lose its agent by that, and nothing else. -/
theorem unlink_unseen (removed : Bool) :
    Unseen state.host (state.unlink removed).host := by
  cases removed with
  | false => exact .same _
  | true => exact .ended _

/-- What connections leave behind is what the subcommands find. -/
theorem settle_host {after : Host}
    (kept : state.host.agent = none → after.agent = none) :
    (state.settle after).host = after := by
  cases answers : state.answering with
  | none =>
      have silent : { state with files := after.files }.answering = none :=
        answers
      have absent := kept (by rw [host_of_silent answers])
      simp only [settle, silent]
      rw [host_of_silent silent]
      exact congrArg (Host.mk after.files) absent.symm
  | some reached =>
      obtain ⟨id, agent⟩ := reached
      obtain ⟨leads, runs⟩ := answering_eq_some.mp answers
      have here : { state with files := after.files }.answering =
        some (id, agent) := answers
      simp only [settle, here]
      have runsHere : { state with files := after.files }.processes[id]? =
        some (.serving agent) := runs
      rw [host, put_answering runsHere, if_pos leads]
      cases found : after.agent with
      | none => exact congrArg (Host.mk after.files) found.symm
      | some server => exact congrArg (Host.mk after.files) found.symm

/-- Connections do not change the process that makes them. -/
theorem settle_processes (runs : state.processes[id]? = some process)
    (idle : process.agent? = none) (after : Host) :
    (state.settle after).processes[id]? = some process := by
  unfold settle
  dsimp only
  split
  · exact runs
  · next other agent answers =>
      have serves := (answering_eq_some.mp answers).2
      have apart : other ≠ id := by
        rintro rfl
        cases runs.symm.trans serves
        cases idle
      exact (List.getElem?_set_ne apart).trans runs

/-- A probe of the socket changes no process that is no agent. -/
theorem available_processes (runs : state.processes[id]? = some process)
    (idle : process.agent? = none) (visit : Option Visit) :
    (state.available primitives library path visit).2.processes[id]? =
      some process := by
  cases visit with
  | none => exact runs
  | some visit => exact settle_processes runs idle _

/-- A ping makes an agent look at the time. -/
theorem ping_unseen (host : Host) (visit : Visit) :
    Unseen host
      (host.call primitives library path visit .ping [] IpcClient.ping).2 := by
  obtain ⟨files, agent⟩ := host
  cases agent with
  | none =>
      rw [Host.ping_of_none rfl]
      exact .same _
  | some agent =>
      rw [Host.call, Host.after_of_agent rfl (Nat.zero_le _) rfl]
      show Unseen ⟨files, some agent⟩ ⟨files,
        if (agent.checkIdleTimeout visit.checkedAt).running then
          some (agent.checkIdleTimeout visit.checkedAt) else none⟩
      split
      · exact .checked ⟨files, some agent⟩ visit.checkedAt
      · exact .ended ⟨files, some agent⟩

/-- Whatever it finds, a client sees no other agent after it. -/
theorem available_unseen (visit : Option Visit) :
    Unseen state.host
      (state.available primitives library path visit).2.host := by
  cases visit with
  | none => exact .same _
  | some visit =>
      have unseen := @ping_unseen primitives library path state.host visit
      have kept : state.host.agent = none →
          (state.host.call primitives library path visit .ping []
            IpcClient.ping).2.agent = none := by
        intro absent
        rw [Host.ping_of_none absent, absent]
      rw [← settle_host kept] at unseen
      exact unseen

/-- Not even if the process that probed goes on. -/
theorem available_put_unseen (runs : state.processes[id]? = some process)
    (before : process.agent? = none) (after : changed.agent? = none)
    (visit : Option Visit) :
    Unseen state.host ((state.available primitives library path visit).2.put id
      changed).host := by
  rw [put_host_of_idle (available_processes runs before visit) before after]
  exact available_unseen visit

/-- What a process does by itself is not seen. -/
theorem process_unseen {action : ProcessAction} {reply : ProcessReply}
    (transition : ProcessTransition primitives library path socketPath state
      (.process id action) next reply) :
    Unseen state.host next.host ∧ reply.transcript = [] := by
  cases transition with
  | killed runs =>
      refine ⟨?_, rfl⟩
      rw [put_host runs]
      split
      · exact .ended _
      · exact .same _
  | declined runs =>
      exact ⟨available_put_unseen runs rfl rfl _, rfl⟩
  | greeted runs =>
      exact ⟨available_put_unseen runs rfl rfl _, rfl⟩
  | looked runs =>
      rw [put_host_of_idle runs rfl rfl]
      exact ⟨.same _, rfl⟩
  | refused runs =>
      exact ⟨available_put_unseen runs rfl rfl _, rfl⟩
  | knocked runs =>
      exact ⟨available_put_unseen runs rfl rfl _, rfl⟩
  | cleared removed runs =>
      have runsHere := (unlink_processes removed).symm ▸ runs
      rw [put_host_of_idle runsHere rfl rfl]
      exact ⟨unlink_unseen removed, rfl⟩
  | notBound runs =>
      rw [put_host_of_idle runs rfl rfl]
      exact ⟨.same _, rfl⟩
  | bound runs free =>
      refine ⟨?_, rfl⟩
      have silent : state.answering = none := by
        rw [answering, free]
        rfl
      have runsHere : { state with socket := some id }.processes[id]? =
        some (.starting _ .binding) := runs
      rw [host_of_silent silent, put_host runsHere, if_pos rfl]
      exact .same _
  | notListening runs =>
      rw [put_host_of_idle runs rfl rfl]
      exact ⟨.same _, rfl⟩
  | listened runs =>
      refine ⟨?_, rfl⟩
      rw [put_host runs]
      split
      · next leads =>
          have silent : state.answering = none := by
            rw [answering, leads, Option.bind_some, runs]
            rfl
          rw [host_of_silent silent]
          exact .started state.files _
      · exact .same _
  | checked now runs =>
      refine ⟨?_, rfl⟩
      rw [put_host runs]
      split
      · next leads =>
          rw [host_of_answering (answering_eq_some.mpr ⟨leads, runs⟩)]
          exact .checked _ now
      · exact .same _
  | interrupted runs =>
      refine ⟨?_, rfl⟩
      rw [put_host runs]
      split
      · exact .ended _
      · exact .same _
  | cleanedUp removed runs =>
      have runsHere := (unlink_processes removed).symm ▸ runs
      refine ⟨?_, rfl⟩
      rw [put_host_of_idle runsHere rfl (by split <;> rfl)]
      exact unlink_unseen removed

/-- One step of many agents is, to the subcommands, a run of one. -/
theorem step_refines {event : ProcessEvent} {reply : ProcessReply}
    (stepped : state.step primitives library path socketPath event =
      some (next, reply)) :
    ∃ events transcripts, Run.run (Host.step primitives library path)
        state.host events = some (next.host, transcripts) ∧
      transcripts.flatten = reply.transcript ∧
      events.filterMap HostEvent.command? = event.command?.toList := by
  have transition := step_cases stepped
  cases event with
  | command line env =>
      cases transition
      refine ⟨[.command line env], [_], ?_, List.append_nil _, rfl⟩
      rw [settle_host (Host.run_of_none · env line)]
      rfl
  | launched idleTimeoutSeconds =>
      cases transition
      have same : { state with processes := state.processes ++
          [AgentProcess.greeting idleTimeoutSeconds] }.host = state.host := by
        rw [host, host, launched_answering]
      rw [same]
      exact ⟨[], [], rfl, rfl, rfl⟩
  | process id action =>
      obtain ⟨unseen, silent⟩ := process_unseen transition
      obtain ⟨events, transcripts, ran, quiet, alone⟩ :=
        @Unseen.run primitives library path _ _ unseen
      exact ⟨events, transcripts, ran, quiet.trans silent.symm, alone⟩

end AgentProcesses

/-- In whatever order agents come up, find each other, take each other's socket
away, stop or are killed, the subcommands see a run in which there is one agent
at a time: the same subcommands, what they print and copy, and the files. -/
theorem agents_refine_host {state last : AgentProcesses}
    {events : List ProcessEvent} {replies : List ProcessReply}
    (finished : Run.run
      (AgentProcesses.step primitives library path socketPath) state events =
        some (last, replies)) :
    ∃ hostEvents transcripts, Run.run (Host.step primitives library path)
        state.host hostEvents = some (last.host, transcripts) ∧
      transcripts.flatten = (replies.map ProcessReply.transcript).flatten ∧
      hostEvents.filterMap HostEvent.command? =
        events.filterMap ProcessEvent.command? := by
  induction events generalizing state replies with
  | nil =>
      cases finished
      exact ⟨[], [], rfl, rfl, rfl⟩
  | cons event events inductionHypothesis =>
      obtain ⟨next, reply, later, stepped, rest, rfl⟩ := Run.run_cons finished
      obtain ⟨first, texts, now, printed, ran⟩ :=
        AgentProcesses.step_refines stepped
      obtain ⟨others, moreTexts, afterwards, printedLater, ranLater⟩ :=
        inductionHypothesis rest
      refine ⟨first ++ others, texts ++ moreTexts,
        Run.run_trans now afterwards, ?_, ?_⟩
      · rw [List.flatten_append, printed, printedLater, List.map_cons,
          List.flatten_cons]
      · rw [List.filterMap_append, ran, ranLater]
        cases event <;> rfl

namespace AgentSocket

/-- A connection that finds nothing failing. -/
def visit : Visit := ⟨1, 1, .constant 7, .none, Symbolic.calm⟩

def env : CommandEnv where
  ping := visit
  status := visit
  unlock := visit
  request := visit
  clock := .constant 7
  load := .none
  commit := Symbolic.calm
  copies := true

/-- No file and no process. -/
def untouched : AgentProcesses := ⟨fun _ => none, [], none⟩

def agentSock : Path := ⟨['.'], ['a', '.', 's', 'o', 'c', 'k']⟩

def step : AgentProcesses → ProcessEvent →
    Option (AgentProcesses × ProcessReply) :=
  AgentProcesses.step Symbolic.primitives Symbolic.library Symbolic.path
    agentSock

/-- Two agents are launched at once; the second looks when the first has bound
the socket and does not listen yet. -/
def bothStart : List ProcessEvent :=
  [.launched 900, .launched 900, .process 0 (.greet (some visit)),
    .process 1 (.greet (some visit)), .process 0 .look,
    .process 0 (.bind .bound), .process 1 .look, .process 0 (.listen false)]

/-- The second gives up, and takes the socket of the first away. -/
def secondLeaves : List ProcessEvent :=
  [.process 1 (.knock (some visit)), .process 1 (.cleanup true),
    .command .agentStatus env]

def secondLeavesSeen : List ProcessReply :=
  [AgentProcesses.alreadyListening agentSock, .quiet,
    .shown [.out (textBytes ("[Agent]: NOT RUNNING\n" ++
      "Hint: Run 'duckpass agent start' to launch the background agent.\n"))]]

end AgentSocket

/-- The first agent is in its loop, and `agent status` does not find it. -/
theorem agents_refine_host_secondLeaves :
    ∃ hostEvents transcripts, Run.run
        (Host.step Symbolic.primitives Symbolic.library Symbolic.path)
        (Run.reached AgentSocket.step AgentSocket.untouched
          AgentSocket.bothStart).host hostEvents =
        some ((Run.reached AgentSocket.step
          (Run.reached AgentSocket.step AgentSocket.untouched
            AgentSocket.bothStart) AgentSocket.secondLeaves).host,
          transcripts) ∧
      transcripts.flatten = (AgentSocket.secondLeavesSeen.map
        ProcessReply.transcript).flatten ∧
      hostEvents.filterMap HostEvent.command? =
        AgentSocket.secondLeaves.filterMap ProcessEvent.command? := by
  have finished := @Run.run_reached _ _ _ AgentSocket.step
    (Run.reached AgentSocket.step AgentSocket.untouched AgentSocket.bothStart)
    AgentSocket.secondLeaves AgentSocket.secondLeavesSeen (by decide +kernel)
  exact agents_refine_host finished

/-! ## Starts and ends that do not overlap -/

/-- Every answer comes in time. -/
def ProcessEvent.Timely : ProcessEvent → Prop
  | process _ (.greet none) | process _ (.knock none) => False
  | _ => True

instance (event : ProcessEvent) : Decidable event.Timely := by
  unfold ProcessEvent.Timely
  split <;> infer_instance

/-- In `run`, but not in the loop. -/
def AgentProcess.BesideLoop : AgentProcess → Prop
  | starting _ _ | leaving _ => True
  | greeting _ | serving _ | gone => False

namespace AgentProcesses

variable {state next last : AgentProcesses} {id other : Nat}
  {agent : AgentServer} {process changed found : AgentProcess}

/-- At most one process is on its way up or down. -/
def OnePassing (state : AgentProcesses) : Prop :=
  ∀ one other : Fin state.processes.length, state.processes[one].Passing →
    state.processes[other].Passing → one = other

/-- No process comes up or goes down beside another, and no ping is lost. -/
def Orderly (state : AgentProcesses) (event : ProcessEvent) : Prop :=
  state.OnePassing ∧ event.Timely

instance (state : AgentProcesses) (event : ProcessEvent) :
    Decidable (state.Orderly event) :=
  inferInstanceAs (Decidable ((∀ one other : Fin state.processes.length,
    state.processes[one].Passing → state.processes[other].Passing →
      one = other) ∧ event.Timely))

/-- There is one process between the probe and its socket at most. -/
theorem OnePassing.eq (single : state.OnePassing)
    (runs : state.processes[id]? = some process) (passing : process.Passing)
    (runsOther : state.processes[other]? = some found)
    (passingOther : found.Passing) : other = id := by
  obtain ⟨within, rfl⟩ := List.getElem?_eq_some_iff.mp runs
  obtain ⟨withinOther, rfl⟩ := List.getElem?_eq_some_iff.mp runsOther
  exact congrArg Fin.val
    (single ⟨other, withinOther⟩ ⟨id, within⟩ passingOther passing)

/-- An agent in its loop is what the path leads to, and then no process does
anything to the path. -/
structure Alone (state : AgentProcesses) : Prop where
  leads : ∀ {id : Nat} {agent : AgentServer},
    state.processes[id]? = some (.serving agent) → state.socket = some id
  bound : ∀ {id : Nat} {idleTimeoutSeconds : UInt32},
    state.processes[id]? = some (.starting idleTimeoutSeconds .listening) →
      state.socket = some id
  apart : ∀ {id other : Nat} {process : AgentProcess} {agent : AgentServer},
    state.processes[id]? = some process → process.BesideLoop →
      state.processes[other]? ≠ some (.serving agent)

/-- No process but this one is in its loop. -/
def NoOther (state : AgentProcesses) (id : Nat) : Prop :=
  ∀ (other : Nat) (agent : AgentServer),
    state.processes[other]? = some (.serving agent) → other = id

/-- A process after a change is the changed one or one that was there. -/
theorem put_cases (present : (state.put id changed).processes[other]? =
      some found) :
    (other = id ∧ found = changed) ∨
      (other ≠ id ∧ state.processes[other]? = some found) := by
  by_cases same : other = id
  · subst same
    obtain ⟨_, at_id⟩ := List.getElem?_eq_some_iff.mp present
    exact .inl ⟨rfl, at_id ▸ List.getElem_set_self _⟩
  · exact .inr ⟨same, (List.getElem?_set_ne (Ne.symm same)).symm.trans present⟩

namespace Alone

/-- The only agent is the one that answers. -/
theorem answers (alone : state.Alone)
    (runs : state.processes[id]? = some (.serving agent)) :
    state.answering = some (id, agent) :=
  answering_eq_some.mpr ⟨alone.leads runs, runs⟩

/-- No agent answers while another process is on its way to the socket. -/
theorem silent (alone : state.Alone)
    (runs : state.processes[id]? = some process) (beside : process.BesideLoop) :
    state.answering = none := by
  cases answers : state.answering with
  | none => rfl
  | some reached =>
      exact absurd (answering_eq_some.mp answers).2 (alone.apart runs beside)

/-- Beside an agent that serves there is no other. -/
theorem noOther_of_serving (alone : state.Alone)
    (runs : state.processes[id]? = some (.serving agent)) :
    state.NoOther id := fun _ _ serves =>
  Option.some.inj ((alone.leads serves).symm.trans (alone.leads runs))

/-- If no agent answers, there is none. -/
theorem noOther_of_silent (alone : state.Alone)
    (silent : state.answering = none) : state.NoOther id := by
  intro other agent serves
  cases silent.symm.trans (alone.answers serves)

/-- So there is none beside a process on its way. -/
theorem noOther (alone : state.Alone)
    (runs : state.processes[id]? = some process) (beside : process.BesideLoop) :
    state.NoOther id :=
  alone.noOther_of_silent (alone.silent runs beside)

/-- A step of the only process on its way. -/
theorem put_passing {socket : Option Nat} (single : state.OnePassing)
    (runs : state.processes[id]? = some process) (passing : process.Passing)
    (noOther : state.NoOther id)
    (holds : (∃ agent, changed = .serving agent) ∨
      (∃ idleTimeoutSeconds,
        changed = .starting idleTimeoutSeconds .listening) →
          socket = some id) :
    ({ state with socket := socket }.put id changed).Alone where
  leads := by
    intro other agent serves
    rcases put_cases serves with ⟨rfl, same⟩ | ⟨apart, served⟩
    · exact holds (.inl ⟨agent, same.symm⟩)
    · exact absurd (noOther _ _ served) apart
  bound := by
    intro other idleTimeoutSeconds listens
    rcases put_cases listens with ⟨rfl, same⟩ | ⟨apart, listened⟩
    · exact holds (.inr ⟨_, same.symm⟩)
    · exact absurd (single.eq runs passing listened trivial) apart
  apart := by
    intro one other beside agent found besideLoop serves
    rcases put_cases serves with ⟨rfl, same⟩ | ⟨apart, served⟩
    · rcases put_cases found with ⟨_, rfl⟩ | ⟨apart, found⟩
      · subst same
        exact besideLoop
      · refine absurd (single.eq runs passing found ?_) apart
        cases beside with
        | starting => trivial
        | leaving => trivial
        | greeting => cases besideLoop
        | serving => cases besideLoop
        | gone => cases besideLoop
    · exact absurd (noOther _ _ served) apart

/-- A process that ends. -/
theorem put_gone (alone : state.Alone) : (state.put id .gone).Alone where
  leads := by
    intro other agent serves
    rcases put_cases serves with ⟨_, same⟩ | ⟨_, served⟩
    · cases same
    · exact alone.leads served
  bound := by
    intro other idleTimeoutSeconds listens
    rcases put_cases listens with ⟨_, same⟩ | ⟨_, listened⟩
    · cases same
    · exact alone.bound listened
  apart := by
    intro one other process agent found besideLoop serves
    rcases put_cases serves with ⟨_, same⟩ | ⟨_, served⟩
    · cases same
    · rcases put_cases found with ⟨_, rfl⟩ | ⟨_, found⟩
      · exact besideLoop
      · exact alone.apart found besideLoop served

/-- A process that stays in its loop or leaves it. -/
theorem put_serving {files : Files} (alone : state.Alone)
    (runs : state.processes[id]? = some (.serving agent))
    (after : (∃ agent, changed = .serving agent) ∨ changed = .leaving 2) :
    ({ state with files := files }.put id changed).Alone where
  leads := by
    intro other agent serves
    rcases put_cases serves with ⟨rfl, _⟩ | ⟨_, served⟩
    · exact alone.leads runs
    · exact alone.leads served
  bound := by
    intro other idleTimeoutSeconds listens
    rcases put_cases listens with ⟨rfl, _⟩ | ⟨_, listened⟩
    · exact alone.leads runs
    · exact alone.bound listened
  apart := by
    intro one other process agent found besideLoop serves
    rcases put_cases found with ⟨rfl, rfl⟩ | ⟨_, found⟩
    · rcases after with ⟨_, rfl⟩ | rfl
      · exact besideLoop
      · rcases put_cases serves with ⟨_, same⟩ | ⟨apart, served⟩
        · cases same
        · exact absurd (alone.noOther_of_serving runs _ _ served) apart
    · exact alone.apart found besideLoop runs

/-- What the subcommands do keeps that. -/
theorem settle (alone : state.Alone) (host : Host) :
    (state.settle host).Alone := by
  unfold AgentProcesses.settle
  dsimp only
  split
  · exact ⟨alone.leads, alone.bound, alone.apart⟩
  · next id agent answers =>
      refine alone.put_serving (answering_eq_some.mp answers).2 ?_
      split
      · exact .inl ⟨_, rfl⟩
      · exact .inr rfl

/-- So does a process that was launched. -/
theorem launched (alone : state.Alone) (idleTimeoutSeconds : UInt32) :
    { state with processes := state.processes ++
      [AgentProcess.greeting idleTimeoutSeconds] }.Alone := by
  have earlier {id : Nat} {process : AgentProcess}
      (found : (state.processes ++
        [AgentProcess.greeting idleTimeoutSeconds])[id]? = some process)
      (notNew : process ≠ .greeting idleTimeoutSeconds) :
      state.processes[id]? = some process := by
    rw [List.getElem?_append] at found
    split at found
    · exact found
    · rw [List.getElem?_singleton] at found
      split at found
      · exact absurd (Option.some.inj found).symm notNew
      · cases found
  constructor
  · exact fun serves => alone.leads (earlier serves (by simp))
  · exact fun listens => alone.bound (earlier listens (by simp))
  · intro id other process agent found besideLoop serves
    refine alone.apart (earlier found ?_) besideLoop (earlier serves (by simp))
    rintro rfl
    exact besideLoop

end Alone

/-- A ping that nobody answers. -/
theorem available_of_silent (silent : state.answering = none)
    (visit : Option Visit) :
    state.available primitives library path visit = (false, state) := by
  cases visit with
  | none => rfl
  | some visit =>
      have absent : state.host.agent = none := by
        rw [host_of_silent silent]
      have silentHere :
          { state with files := state.host.files }.answering = none := silent
      rw [available, Host.ping_of_none absent]
      simp only [settle, silentHere]
      rfl

/-- A ping that the agent in its loop answers. -/
theorem available_of_answering (answers : state.answering = some (id, agent))
    (visit : Visit) :
    (state.available primitives library path (some visit)).1 = true := by
  rw [available, host_of_answering answers]
  have written := congrArg AgentServer.Handled.response
    (@AgentPeer.handle_eq_perform
      (Host.peer primitives library path ⟨state.files, some agent⟩ visit agent)
      .ping [] (Nat.zero_le _))
  rw [Host.call, Host.connection_of_agent rfl, IpcClient.ping,
    AgentPeer.transact_eq AgentPeer.fits_ping written]
  rfl

/-- A probe that was answered by none has met no agent. -/
theorem silent_of_unanswered {visit : Visit}
    (unanswered :
      (state.available primitives library path (some visit)).1 = false) :
    state.answering = none := by
  cases answers : state.answering with
  | none => rfl
  | some reached =>
      cases (available_of_answering answers visit).symm.trans unanswered

/-- Every orderly step keeps it. -/
theorem Alone.step {event : ProcessEvent} {reply : ProcessReply}
    (alone : state.Alone) (orderly : state.Orderly event)
    (stepped : state.step primitives library path socketPath event =
      some (next, reply)) : next.Alone := by
  obtain ⟨single, timely⟩ := orderly
  cases step_cases stepped with
  | command => exact alone.settle _
  | launched => exact alone.launched _
  | killed => exact alone.put_gone
  | @declined _ _ visit =>
      cases visit with
      | none => exact alone.put_gone
      | some visit => exact (alone.settle _).put_gone
  | @greeted _ _ visit runs unanswered =>
      cases visit with
      | none => exact timely.elim
      | some visit =>
          have silent := silent_of_unanswered unanswered
          rw [available_of_silent silent]
          exact .put_passing single runs trivial
            (alone.noOther_of_silent silent) (by simp)
  | looked runs =>
      refine .put_passing single runs trivial (alone.noOther runs trivial) ?_
      split <;> simp
  | refused runs answered =>
      rw [available_of_silent (alone.silent runs trivial)] at answered
      cases answered
  | knocked runs =>
      rw [available_of_silent (alone.silent runs trivial)]
      exact .put_passing single runs trivial (alone.noOther runs trivial)
        (by simp)
  | cleared removed runs =>
      rw [unlink_eq]
      exact .put_passing single runs trivial (alone.noOther runs trivial)
        (by simp)
  | notBound runs =>
      exact .put_passing single runs trivial (alone.noOther runs trivial)
        (by simp)
  | bound runs =>
      exact .put_passing single runs trivial (alone.noOther runs trivial)
        fun _ => rfl
  | notListening runs =>
      exact .put_passing single runs trivial (alone.noOther runs trivial)
        (by simp)
  | listened runs =>
      exact .put_passing single runs trivial (alone.noOther runs trivial)
        fun _ => alone.bound runs
  | checked now runs =>
      exact alone.put_serving runs (.inl ⟨_, rfl⟩)
  | interrupted runs => exact alone.put_serving runs (.inr rfl)
  | cleanedUp removed runs =>
      rw [unlink_eq]
      refine .put_passing single runs trivial (alone.noOther runs trivial) ?_
      split <;> simp

end AgentProcesses

/-- As long as no process comes up or goes down beside another and every ping
is answered in time, whatever is left at the path at the beginning, and
wherever system calls fail and processes are killed: an agent in its loop is
the only one, and every subcommand reaches it. -/
theorem starts_apart_alone {state last : AgentProcesses}
    {events : List ProcessEvent} {replies : List ProcessReply}
    (quiet : ∀ process ∈ state.processes, process = .gone)
    (orderly : Run.Along
      (AgentProcesses.step primitives library path socketPath)
      AgentProcesses.Orderly state events)
    (finished : Run.run
      (AgentProcesses.step primitives library path socketPath) state events =
        some (last, replies))
    {id : Nat} {agent : AgentServer}
    (serves : last.processes[id]? = some (.serving agent)) :
    last.host.agent = some agent ∧
      ∀ other server, last.processes[other]? = some (.serving server) →
        other = id := by
  have gone {process : AgentProcess} {id : Nat}
      (found : state.processes[id]? = some process) : process = .gone :=
    quiet process (List.mem_of_getElem? found)
  have start : state.Alone := by
    constructor
    · intro id agent serves
      cases gone serves
    · intro id idleTimeoutSeconds listens
      cases gone listens
    · intro id other process agent found besideLoop
      cases gone found
      exact besideLoop.elim
  have alone : last.Alone :=
    Run.invariant AgentProcesses.Alone.step start orderly finished
  refine ⟨?_, alone.noOther_of_serving serves⟩
  rw [AgentProcesses.host_of_answering (alone.answers serves)]

namespace AgentSocket

/-- An agent is started, another one finds it, it is stopped, and a third one
takes its place. -/
def oneAfterAnother : List ProcessEvent :=
  [.launched 900, .process 0 (.greet (some visit)), .process 0 .look,
    .process 0 (.bind .bound), .process 0 (.listen false), .launched 60,
    .process 1 (.greet (some visit)), .command .agentStop env,
    .process 0 (.cleanup true), .process 0 (.cleanup true), .launched 30,
    .process 2 (.greet (some visit)), .process 2 .look,
    .process 2 (.bind .bound), .process 2 (.listen false)]

def oneAfterAnotherSeen : List ProcessReply :=
  [.quiet, .quiet, .quiet, .quiet, .quiet, .quiet,
    AgentProcesses.anotherRunning agentSock,
    .shown [.out (textBytes "Success: duckpass-agent stopped.\n")],
    .quiet, .quiet, .quiet, .quiet, .quiet, .quiet, .quiet]

end AgentSocket

theorem starts_apart_alone_oneAfterAnother :
    (Run.reached AgentSocket.step AgentSocket.untouched
      AgentSocket.oneAfterAnother).host.agent = some ⟨30, true, none, 0⟩ := by
  have finished := @Run.run_reached _ _ _ AgentSocket.step
    AgentSocket.untouched AgentSocket.oneAfterAnother
    AgentSocket.oneAfterAnotherSeen (by decide +kernel)
  have orderly : Run.Along AgentSocket.step AgentProcesses.Orderly
      AgentSocket.untouched AgentSocket.oneAfterAnother := by decide +kernel
  have serves : (Run.reached AgentSocket.step AgentSocket.untouched
      AgentSocket.oneAfterAnother).processes[2]? =
        some (.serving ⟨30, true, none, 0⟩) := by rfl
  exact (starts_apart_alone (fun _ member => absurd member List.not_mem_nil)
    orderly finished serves).1

/-! ## Agents that lose their socket -/

namespace AgentProcesses

variable {state next last : AgentProcesses} {id other : Nat}
  {agent now : AgentServer} {process changed found : AgentProcess}
  {event : ProcessEvent} {reply : ProcessReply}

/-- The process removes the file at the path, whoever's it is: at the end of
`run`, in the destructor, or after a ping without an answer. -/
def Removes (state : AgentProcesses) (id : Nat) : ProcessAction → Prop
  | .cleanup removed => removed = true ∧
      ∃ cleanups, state.processes[id]? = some (.leaving (cleanups + 1))
  | .clear removed => removed = true ∧
      ∃ idleTimeoutSeconds, state.processes[id]? =
        some (.starting idleTimeoutSeconds .clearing)
  | _ => False

/-- The process is past its loop, or it is in it with a session that may be
held, and the path does not lead to it. -/
def OutOfReach (state : AgentProcesses) (id : Nat)
    (held : Option VaultService → Prop) : Prop :=
  (∃ agent, state.processes[id]? = some (.serving agent) ∧
      state.socket ≠ some id ∧ held agent.vaultService) ∨
    (∃ cleanups, state.processes[id]? = some (.leaving cleanups)) ∨
    state.processes[id]? = some .gone

/-- Another process is as it was. -/
theorem put_processes_of_ne (apart : other ≠ id) :
    (state.put other changed).processes[id]? = state.processes[id]? :=
  List.getElem?_set_ne apart

/-- And this one is as it was put. -/
theorem put_processes_self (runs : state.processes[id]? = some process) :
    (state.put id changed).processes[id]? = some changed :=
  List.getElem?_set_self (List.getElem?_eq_some_iff.mp runs).1

/-- The check drops the session or keeps it. -/
theorem checkIdleTimeout_session (agent : AgentServer) (now : Nat) :
    (agent.checkIdleTimeout now).vaultService = none ∨
      (agent.checkIdleTimeout now).vaultService = agent.vaultService := by
  unfold AgentServer.checkIdleTimeout
  split
  · exact .inr rfl
  · split
    · exact .inl rfl
    · exact .inr rfl

namespace OutOfReach

variable {held : Option VaultService → Prop}

/-- A process that cannot be reached is not the one that answers. -/
theorem not_answering (away : state.OutOfReach id held) :
    state.answering ≠ some (id, agent) := by
  intro answers
  obtain ⟨leads, runs⟩ := answering_eq_some.mp answers
  rcases away with ⟨_, _, lost, _⟩ | ⟨_, leaves⟩ | ends
  · exact lost leads
  · cases leaves.symm.trans runs
  · cases ends.symm.trans runs

/-- What another process does changes nothing, unless the path leads to this
one then. -/
theorem congr (away : state.OutOfReach id held)
    (same : next.processes[id]? = state.processes[id]?)
    (lost : state.socket ≠ some id → next.socket ≠ some id) :
    next.OutOfReach id held := by
  unfold OutOfReach
  rw [same]
  rcases away with ⟨agent, serves, elsewhere, session⟩ | after
  · exact .inl ⟨agent, serves, lost elsewhere, session⟩
  · exact .inr after

/-- Nor is it one that starts. -/
theorem not_starting (away : state.OutOfReach id held)
    {idleTimeoutSeconds : UInt32} {point : Startup}
    (runs : state.processes[other]? =
      some (.starting idleTimeoutSeconds point)) : other ≠ id := by
  rintro rfl
  rcases away with ⟨_, serves, _⟩ | ⟨_, leaves⟩ | ends
  · cases serves.symm.trans runs
  · cases leaves.symm.trans runs
  · cases ends.symm.trans runs

/-- Nor one that has not greeted yet. -/
theorem not_greeting (away : state.OutOfReach id held)
    {idleTimeoutSeconds : UInt32}
    (runs : state.processes[other]? = some (.greeting idleTimeoutSeconds)) :
    other ≠ id := by
  rintro rfl
  rcases away with ⟨_, serves, _⟩ | ⟨_, leaves⟩ | ends
  · cases serves.symm.trans runs
  · cases leaves.symm.trans runs
  · cases ends.symm.trans runs

/-- What the subcommands do does not reach it. -/
theorem settle (away : state.OutOfReach id held) (host : Host) :
    (state.settle host).OutOfReach id held := by
  unfold AgentProcesses.settle
  dsimp only
  split
  · exact away
  · next other agent answers =>
      have apart : other ≠ id := by
        rintro rfl
        exact away.not_answering answers
      exact away.congr (put_processes_of_ne apart) fun lost => lost

/-- Nor does a probe. -/
theorem available (away : state.OutOfReach id held)
    (visit : Option Visit) :
    (state.available primitives library path visit).2.OutOfReach id
      held := by
  cases visit with
  | none => exact away
  | some visit => exact away.settle _

/-- Nor what another process does. -/
theorem put (away : state.OutOfReach id held) (apart : other ≠ id) :
    (state.put other changed).OutOfReach id held :=
  away.congr (put_processes_of_ne apart) fun lost => lost

/-- Nor that the socket goes away. -/
theorem unlink (away : state.OutOfReach id held) (removed : Bool) :
    (state.unlink removed).OutOfReach id held := by
  rw [unlink_eq]
  refine away.congr rfl fun lost => ?_
  split
  · simp
  · exact lost

/-- A process that ends is out of reach. -/
theorem put_ended (runs : state.processes[id]? = some process)
    (after : (∃ cleanups, changed = .leaving cleanups) ∨ changed = .gone) :
    (state.put id changed).OutOfReach id held := by
  unfold OutOfReach
  rw [put_processes_self runs]
  rcases after with ⟨cleanups, rfl⟩ | rfl
  · exact .inr (.inl ⟨cleanups, rfl⟩)
  · exact .inr (.inr rfl)

/-- So is an agent without a socket that goes on with its checks. -/
theorem checked (away : state.OutOfReach id held)
    (locks : ∀ session, held session → held none)
    (runs : state.processes[id]? = some (.serving agent)) (now : Nat) :
    (state.put id
      (.serving (agent.checkIdleTimeout now))).OutOfReach id held := by
  refine .inl ⟨_, put_processes_self runs, ?_⟩
  rcases away with ⟨_, serves, lost, session⟩ | ⟨_, leaves⟩ | ends
  · cases serves.symm.trans runs
    refine ⟨lost, ?_⟩
    rcases checkIdleTimeout_session agent now with locked | kept
    · exact locked ▸ locks _ session
    · exact kept ▸ session
  · cases leaves.symm.trans runs
  · cases ends.symm.trans runs

/-- It is one of the processes. -/
theorem within (away : state.OutOfReach id held) :
    id < state.processes.length := by
  rcases away with ⟨_, runs, _⟩ | ⟨_, runs⟩ | runs
  all_goals exact (List.getElem?_eq_some_iff.mp runs).1

/-- No step reaches it again. -/
theorem step (locks : ∀ session, held session → held none)
    (away : state.OutOfReach id held)
    (stepped : state.step primitives library path socketPath event =
      some (next, reply)) : next.OutOfReach id held := by
  cases step_cases stepped with
  | command => exact away.settle _
  | launched =>
      exact away.congr (List.getElem?_append_left away.within) fun lost => lost
  | @killed other process runs =>
      by_cases same : other = id
      · subst same
        exact put_ended runs (.inr rfl)
      · exact away.put same
  | declined runs => exact (away.available _).put (away.not_greeting runs)
  | greeted runs => exact (away.available _).put (away.not_greeting runs)
  | looked runs => exact away.put (away.not_starting runs)
  | refused runs => exact (away.available _).put (away.not_starting runs)
  | knocked runs => exact (away.available _).put (away.not_starting runs)
  | cleared removed runs =>
      exact (away.unlink removed).put (away.not_starting runs)
  | notBound runs => exact away.put (away.not_starting runs)
  | @bound other _ runs =>
      have apart := away.not_starting runs
      refine away.congr (put_processes_of_ne apart) fun _ leads => ?_
      exact apart (Option.some.inj leads)
  | notListening runs => exact away.put (away.not_starting runs)
  | listened runs => exact away.put (away.not_starting runs)
  | @checked other agent now runs =>
      by_cases same : other = id
      · subst same
        exact away.checked locks runs now
      · exact away.put same
  | @interrupted other agent runs =>
      by_cases same : other = id
      · subst same
        exact put_ended runs (.inl ⟨2, rfl⟩)
      · exact away.put same
  | @cleanedUp other cleanups removed runs =>
      by_cases same : other = id
      · subst same
        refine put_ended ((unlink_processes removed).symm ▸ runs) ?_
        split
        · exact .inr rfl
        · exact .inl ⟨_, rfl⟩
      · exact (away.unlink removed).put same

/-- What is out of reach stays so. -/
theorem run {events : List ProcessEvent} {replies : List ProcessReply}
    (locks : ∀ session, held session → held none)
    (away : state.OutOfReach id held)
    (finished : Run.run (AgentProcesses.step primitives library path socketPath)
      state events = some (last, replies)) : last.OutOfReach id held :=
  @Run.invariant_of_step _ _ _
    (AgentProcesses.step primitives library path socketPath)
    (fun state => state.OutOfReach id held)
    (fun away stepped => away.step locks stepped) _ _ _ _ away finished

/-- A process that has left its loop does not come back to it. -/
theorem not_serving {events : List ProcessEvent} {replies : List ProcessReply}
    (ended : state.processes[id]? = some (.leaving 2) ∨
      state.processes[id]? = some .gone)
    (finished : Run.run (AgentProcesses.step primitives library path socketPath)
      state events = some (last, replies)) :
    last.processes[id]? ≠ some (.serving agent) := by
  intro serves
  have away : state.OutOfReach id fun _ => False := by
    rcases ended with leaves | ends
    · exact .inr (.inl ⟨2, leaves⟩)
    · exact .inr (.inr ends)
  rcases away.run (fun _ held => held) finished with
    ⟨_, _, _, impossible⟩ | ⟨_, leaves⟩ | ends
  · exact impossible
  · cases serves.symm.trans leaves
  · cases serves.symm.trans ends

end OutOfReach

/-- The session that an agent had, or none. -/
def HeldFrom (session other : Option VaultService) : Prop :=
  other = none ∨ other = session

/-- The path leads to the process, in its loop or, with no more than that, just
told to leave it. -/
def Reached (state : AgentProcesses) (id : Nat) : Prop :=
  (∃ now, state.answering = some (id, now)) ∨
    state.processes[id]? = some (.leaving 2)

namespace Reached

/-- What the subcommands do leaves the agent that answers in its place. -/
theorem settle (answers : state.answering = some (id, agent)) (host : Host) :
    (state.settle host).Reached id := by
  obtain ⟨leads, runs⟩ := answering_eq_some.mp answers
  have here : { state with files := host.files }.answering =
    some (id, agent) := answers
  have runsHere : { state with files := host.files }.processes[id]? =
    some (.serving agent) := runs
  simp only [AgentProcesses.settle, here]
  cases host.agent with
  | none => exact .inr (put_processes_self runsHere)
  | some server =>
      refine .inl ⟨server, ?_⟩
      rw [put_answering runsHere, if_pos leads]
      rfl

/-- So does a probe. -/
theorem available (answers : state.answering = some (id, agent))
    (visit : Option Visit) :
    (state.available primitives library path visit).2.Reached id := by
  cases visit with
  | none => exact .inl ⟨agent, answers⟩
  | some visit => exact settle answers _

/-- So does what another process does, if that is no agent. -/
theorem put (reached : state.Reached id)
    (runs : state.processes[other]? = some process)
    (before : process.agent? = none) (after : changed.agent? = none)
    (apart : other ≠ id) : (state.put other changed).Reached id := by
  rcases reached with ⟨now, answers⟩ | leaves
  · exact .inl ⟨now, (put_answering_of_idle runs before after).trans answers⟩
  · exact .inr ((put_processes_of_ne apart).trans leaves)

end Reached

/-- Another process than the one that is reached. -/
theorem ne_of_idle (answers : state.answering = some (id, agent))
    (runs : state.processes[other]? = some process)
    (idle : process.agent? = none) : other ≠ id := by
  rintro rfl
  cases (answering_eq_some.mp answers).2.symm.trans runs
  cases idle

/-- An agent that is reached stays so until its loop ends, its process is
killed or another process removes the file. -/
theorem answering_step (answers : state.answering = some (id, agent))
    (stepped : state.step primitives library path socketPath event =
      some (next, reply)) :
    next.Reached id ∨ next.processes[id]? = some .gone ∨
      (∃ other action, event = .process other action ∧ other ≠ id ∧
        state.Removes other action) ∧
        next.OutOfReach id (HeldFrom agent.vaultService) := by
  obtain ⟨leads, serves⟩ := answering_eq_some.mp answers
  have orphaned {other : Nat} (apart : other ≠ id) (changed : AgentProcess) :
      ((state.unlink true).put other changed).OutOfReach id
        (HeldFrom agent.vaultService) :=
    .inl ⟨agent, (put_processes_of_ne apart).trans serves,
      by simp [put, unlink], .inr rfl⟩
  cases step_cases stepped with
  | command => exact .inl (.settle answers _)
  | launched idleTimeoutSeconds =>
      exact .inl (.inl ⟨agent, (launched_answering _).trans answers⟩)
  | @killed other process runs =>
      by_cases same : other = id
      · subst same
        exact .inr (.inl (put_processes_self runs))
      · refine .inl (.inl ⟨agent, ?_⟩)
        rw [put_answering runs, if_neg fun here =>
          same (Option.some.inj (here.symm.trans leads)), answers]
  | declined runs =>
      exact .inl ((Reached.available answers _).put
        (available_processes runs rfl _) rfl rfl (ne_of_idle answers runs rfl))
  | greeted runs =>
      exact .inl ((Reached.available answers _).put
        (available_processes runs rfl _) rfl rfl (ne_of_idle answers runs rfl))
  | looked runs =>
      exact .inl (Reached.put (.inl ⟨agent, answers⟩) runs rfl rfl
        (ne_of_idle answers runs rfl))
  | refused runs =>
      exact .inl ((Reached.available answers _).put
        (available_processes runs rfl _) rfl rfl (ne_of_idle answers runs rfl))
  | knocked runs =>
      exact .inl ((Reached.available answers _).put
        (available_processes runs rfl _) rfl rfl (ne_of_idle answers runs rfl))
  | @cleared other idleTimeoutSeconds removed runs =>
      have apart := ne_of_idle answers runs rfl
      cases removed with
      | false =>
          exact .inl (Reached.put (.inl ⟨agent, answers⟩) runs rfl rfl apart)
      | true =>
          exact .inr (.inr ⟨⟨other, _, rfl, apart, rfl, _, runs⟩,
            orphaned apart _⟩)
  | notBound runs =>
      exact .inl (Reached.put (.inl ⟨agent, answers⟩) runs rfl rfl
        (ne_of_idle answers runs rfl))
  | bound runs free => cases free.symm.trans leads
  | notListening runs =>
      exact .inl (Reached.put (.inl ⟨agent, answers⟩) runs rfl rfl
        (ne_of_idle answers runs rfl))
  | @listened other _ runs =>
      have apart := ne_of_idle answers runs rfl
      refine .inl (.inl ⟨agent, ?_⟩)
      rw [put_answering runs, if_neg fun here =>
        apart (Option.some.inj (here.symm.trans leads)), answers]
  | @checked other server now runs =>
      refine .inl (.inl ?_)
      rw [put_answering runs]
      split
      · next here =>
          cases here.symm.trans leads
          exact ⟨_, rfl⟩
      · exact ⟨agent, answers⟩
  | @interrupted other server runs =>
      by_cases same : other = id
      · subst same
        exact .inl (.inr (put_processes_self runs))
      · refine .inl (.inl ⟨agent, ?_⟩)
        rw [put_answering runs, if_neg fun here =>
          same (Option.some.inj (here.symm.trans leads)), answers]
  | @cleanedUp other cleanups removed runs =>
      have apart := ne_of_idle answers runs rfl
      cases removed with
      | false =>
          refine .inl (Reached.put (.inl ⟨agent, answers⟩) runs rfl ?_ apart)
          split <;> rfl
      | true =>
          exact .inr (.inr ⟨⟨other, _, rfl, apart, rfl, cleanups, runs⟩,
            orphaned apart _⟩)

end AgentProcesses

/-- An agent that subcommands have reached and that is still in its loop is
still reached, unless another process has removed the socket: one on its way
out, or one whose ping was not answered.  Then it has had no other session than
the one of that moment, and nothing that happens later leads to it again, so
that it can be neither locked nor stopped. -/
theorem reached_or_orphaned {state last : AgentProcesses} {id : Nat}
    {agent now : AgentServer} {events : List ProcessEvent}
    {replies : List ProcessReply} (answers : state.answering = some (id, agent))
    (finished : Run.run
      (AgentProcesses.step primitives library path socketPath) state events =
        some (last, replies))
    (serves : last.processes[id]? = some (.serving now)) :
    last.answering = some (id, now) ∨
      ∃ before other action after middle seen held,
        events = before ++ .process other action :: after ∧
        Run.run (AgentProcesses.step primitives library path socketPath) state
          before = some (middle, seen) ∧
        middle.answering = some (id, held) ∧ other ≠ id ∧
        middle.Removes other action ∧
        (now.vaultService = none ∨ now.vaultService = held.vaultService) ∧
        ∀ more final shown, Run.run
            (AgentProcesses.step primitives library path socketPath) last more =
              some (final, shown) →
          ∀ server, final.answering ≠ some (id, server) := by
  induction events generalizing state agent replies with
  | nil =>
      cases finished
      obtain ⟨leads, _⟩ := AgentProcesses.answering_eq_some.mp answers
      exact .inl (AgentProcesses.answering_eq_some.mpr ⟨leads, serves⟩)
  | cons event events inductionHypothesis =>
      obtain ⟨next, reply, later, stepped, rest, rfl⟩ := Run.run_cons finished
      rcases AgentProcesses.answering_step answers stepped with
        (⟨middle, reached⟩ | leaves) | ends |
          ⟨⟨other, action, rfl, apart, removes⟩, away⟩
      · rcases inductionHypothesis reached rest with
          stays | ⟨before, other, action, after, middle, seen, held, rfl, ran,
            was, apart, removes, session, never⟩
        · exact .inl stays
        · exact .inr ⟨event :: before, other, action, after, middle, _, held,
            rfl, Run.run_of_step stepped ran, was, apart, removes, session,
            never⟩
      · exact absurd serves
          (AgentProcesses.OutOfReach.not_serving (.inl leaves) rest)
      · exact absurd serves
          (AgentProcesses.OutOfReach.not_serving (.inr ends) rest)
      · have locks : ∀ session,
            AgentProcesses.HeldFrom agent.vaultService session →
              AgentProcesses.HeldFrom agent.vaultService none :=
          fun _ _ => .inl rfl
        have lost := away.run locks rest
        refine .inr ⟨[], other, action, events, state, [], agent, rfl, rfl,
          answers, apart, removes, ?_, ?_⟩
        · rcases lost with ⟨_, here, _, session⟩ | ⟨_, leaves⟩ | ends
          · cases here.symm.trans serves
            exact session
          · cases leaves.symm.trans serves
          · cases ends.symm.trans serves
        · exact fun more final shown ran server =>
            (lost.run locks ran).not_answering

namespace AgentSocket

def orphaned : AgentProcesses :=
  Run.reached step (Run.reached step untouched bothStart) secondLeaves

end AgentSocket

/-- Two agents that were launched at once leave one in its loop that nothing
ever reaches again. -/
theorem reached_or_orphaned_secondLeaves :
    AgentSocket.orphaned.processes[0]? =
        some (.serving ⟨900, true, none, 0⟩) ∧
      ∀ more final shown, Run.run AgentSocket.step AgentSocket.orphaned more =
          some (final, shown) →
        ∀ server, final.answering ≠ some (0, server) := by
  have finished := @Run.run_reached _ _ _ AgentSocket.step
    (Run.reached AgentSocket.step AgentSocket.untouched AgentSocket.bothStart)
    AgentSocket.secondLeaves AgentSocket.secondLeavesSeen (by decide +kernel)
  have answers : (Run.reached AgentSocket.step AgentSocket.untouched
      AgentSocket.bothStart).answering = some (0, ⟨900, true, none, 0⟩) := by
    rfl
  have serves : AgentSocket.orphaned.processes[0]? =
      some (.serving ⟨900, true, none, 0⟩) := by rfl
  refine ⟨serves, ?_⟩
  rcases reached_or_orphaned answers finished serves with
    stays | ⟨_, _, _, _, _, _, _, _, _, _, _, _, _, never⟩
  · cases stays
  · exact never

end DuckPass
