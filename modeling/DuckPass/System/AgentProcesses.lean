/-
Module: DuckPass.System.AgentProcesses
Purpose: Any number of agent processes over one socket path: the steps in which
  each comes up and goes down, what each does to the path on the way, and which
  of them the subcommands reach.
Trusted boundary: a socket leads to the process that bound it; no process gets
  the number of an earlier one; a subcommand is one step.
Main exports: Startup, AgentProcess, AgentProcesses, AgentProcesses.answering,
  AgentProcesses.host, ProcessAction, ProcessEvent, AgentProcesses.step,
  ProcessTransition, AgentProcesses.step_cases
-/
import DuckPass.Proofs.CommandSessions

namespace DuckPass

/-- Where `AgentServer::run` is on the way to its loop: before the test whether
the path exists, before the ping, before the removal of the file, before `bind`
and before `listen`. -/
inductive Startup where
  | looking
  | knocking
  | clearing
  | binding
  | listening
deriving Repr, Inhabited, DecidableEq

/-- The process of an agent: in `main` before its first ping, in `run` before
the loop, in the loop, or past it, with so many calls of `cleanup_socket` to
come. -/
inductive AgentProcess where
  | greeting (idleTimeoutSeconds : UInt32)
  | starting (idleTimeoutSeconds : UInt32) (point : Startup)
  | serving (agent : AgentServer)
  | leaving (cleanups : Nat)
  | gone

namespace AgentProcess

/-- The agent of a process in its loop. -/
def agent? : AgentProcess → Option AgentServer
  | serving agent => some agent
  | _ => none

/-- On its way up or down. -/
def Passing : AgentProcess → Prop
  | greeting _ | starting _ _ | leaving _ => True
  | serving _ | gone => False

instance : (process : AgentProcess) → Decidable process.Passing
  | greeting _ | starting _ _ | leaving _ => .isTrue trivial
  | serving _ | gone => .isFalse id

end AgentProcess

/-- The processes in the order of their launch, the one whose socket is at the
path, and the user's files.  A number without a process in the loop stands for
a file that nobody answers at. -/
structure AgentProcesses where
  files : Files
  processes : List AgentProcess
  socket : Option Nat

/-- How `socket` and `bind` end, where `bind` finds the path free. -/
inductive BindReply where
  | bound
  | bindFailed
  | socketFailed
deriving Repr, Inhabited, DecidableEq

/-- The next step of a process.  A ping to which no answer comes in time has no
visit. -/
inductive ProcessAction where
  | greet (visit : Option Visit)
  | look
  | knock (visit : Option Visit)
  | clear (removed : Bool)
  | bind (reply : BindReply)
  | listen (failed : Bool)
  | round (now : Nat)
  | interrupted
  | cleanup (removed : Bool)
  | killed

/-- What can happen next: a subcommand is run, an agent is launched, or a
process takes a step. -/
inductive ProcessEvent where
  | command (line : CommandLine) (env : CommandEnv)
  | launched (idleTimeoutSeconds : UInt32)
  | process (id : Nat) (action : ProcessAction)

/-- What is seen of a step: the transcript of a subcommand, or what an agent
that gives up writes on its standard error. -/
inductive ProcessReply where
  | shown (transcript : Transcript)
  | complained (text : SecureBytes)
  | quiet
deriving Repr, Inhabited, DecidableEq

def ProcessReply.transcript : ProcessReply → Transcript
  | shown transcript => transcript
  | _ => []

namespace AgentProcesses

/-! ## Texts -/

/-- A text of an agent with the path of the socket. -/
def about (text : String) (socketPath : Path) : ProcessReply :=
  .complained (textBytes text ++ Transcript.quoted socketPath ++
    textBytes "\n")

def anotherRunning (socketPath : Path) : ProcessReply :=
  about "Error: Another duckpass-agent is already running at " socketPath

def alreadyListening (socketPath : Path) : ProcessReply :=
  about "Error: An active duckpass-agent is already listening on " socketPath

def failedToBind (socketPath : Path) : ProcessReply :=
  about "Failed to bind socket to " socketPath

def failedToCreate : ProcessReply :=
  .complained (textBytes "Failed to create UNIX domain socket.\n")

def failedToListen : ProcessReply :=
  .complained (textBytes "Failed to listen on socket.\n")

/-! ## The socket -/

/-- The process that a connection reaches, with its agent. -/
def answering (state : AgentProcesses) : Option (Nat × AgentServer) :=
  state.socket.bind fun id =>
    (state.processes[id]?.bind AgentProcess.agent?).map (id, ·)

/-- What the subcommands find. -/
def host (state : AgentProcesses) : Host where
  files := state.files
  agent := state.answering.map Prod.snd

def put (state : AgentProcesses) (id : Nat) (process : AgentProcess) :
    AgentProcesses :=
  { state with processes := state.processes.set id process }

/-- The file at the path is removed, if that succeeds. -/
def unlink (state : AgentProcesses) (removed : Bool) : AgentProcesses :=
  if removed then { state with socket := none } else state

/-- What connections leave behind.  An agent that was told to stop leaves its
loop. -/
def settle (state : AgentProcesses) (host : Host) : AgentProcesses :=
  let state := { state with files := host.files }
  match state.answering with
  | none => state
  | some (id, _) =>
      state.put id
        (match host.agent with
        | some agent => .serving agent
        | none => .leaving 2)

section Steps

variable (primitives : Primitives) (library : Library) (path socketPath : Path)

/-- `is_agent_available`. -/
def available (state : AgentProcesses) :
    Option Visit → Bool × AgentProcesses
  | none => (false, state)
  | some visit =>
      let (available, host) :=
        state.host.call primitives library path visit .ping [] IpcClient.ping
      (available, state.settle host)

/-- One step of one process: `main`, `run` and the destructor.  An agent whose
loop has ended still calls `cleanup_socket` at the end of `run` and in the
destructor, one that gives up before calls it in the destructor. -/
def act (state : AgentProcesses) (id : Nat) :
    AgentProcess → ProcessAction → Option (AgentProcesses × ProcessReply)
  | .gone, _ => none
  | _, .killed => some (state.put id .gone, .quiet)
  | .greeting idleTimeoutSeconds, .greet visit =>
      let (available, state) :=
        state.available primitives library path visit
      if available then
        some (state.put id .gone, anotherRunning socketPath)
      else
        some (state.put id (.starting idleTimeoutSeconds .looking), .quiet)
  | .starting idleTimeoutSeconds .looking, .look =>
      some (state.put id (.starting idleTimeoutSeconds
        (if state.socket.isSome then .knocking else .binding)), .quiet)
  | .starting idleTimeoutSeconds .knocking, .knock visit =>
      let (available, state) :=
        state.available primitives library path visit
      if available then
        some (state.put id (.leaving 1), alreadyListening socketPath)
      else
        some (state.put id (.starting idleTimeoutSeconds .clearing), .quiet)
  | .starting idleTimeoutSeconds .clearing, .clear removed =>
      some ((state.unlink removed).put id
        (.starting idleTimeoutSeconds .binding), .quiet)
  | .starting _ .binding, .bind .socketFailed =>
      some (state.put id (.leaving 1), failedToCreate)
  | .starting _ .binding, .bind .bindFailed =>
      some (state.put id (.leaving 1), failedToBind socketPath)
  | .starting idleTimeoutSeconds .binding, .bind .bound =>
      if state.socket.isSome then
        some (state.put id (.leaving 1), failedToBind socketPath)
      else
        some ({ state with socket := some id }.put id
          (.starting idleTimeoutSeconds .listening), .quiet)
  | .starting idleTimeoutSeconds .listening, .listen failed =>
      if failed then some (state.put id (.leaving 2), failedToListen)
      else
        some (state.put id (.serving ⟨idleTimeoutSeconds, true, none, 0⟩),
          .quiet)
  | .serving agent, .round now =>
      some (state.put id (.serving (agent.checkIdleTimeout now)), .quiet)
  | .serving _, .interrupted => some (state.put id (.leaving 2), .quiet)
  | .leaving (cleanups + 1), .cleanup removed =>
      some ((state.unlink removed).put id
        (if cleanups = 0 then .gone else .leaving cleanups), .quiet)
  | _, _ => none

/-- One step. -/
def step (state : AgentProcesses) :
    ProcessEvent → Option (AgentProcesses × ProcessReply)
  | .command line env =>
      let (transcript, host) :=
        state.host.run primitives library path env line
      some (state.settle host, .shown transcript)
  | .launched idleTimeoutSeconds =>
      some ({ state with
        processes := state.processes ++ [.greeting idleTimeoutSeconds] },
          .quiet)
  | .process id action =>
      match state.processes[id]? with
      | none => none
      | some process =>
          state.act primitives library path socketPath id process action

end Steps

end AgentProcesses

/-- What a step can be. -/
inductive ProcessTransition (primitives : Primitives) (library : Library)
    (path socketPath : Path) (state : AgentProcesses) :
    ProcessEvent → AgentProcesses → ProcessReply → Prop where
  | command (line : CommandLine) (env : CommandEnv) :
      ProcessTransition primitives library path socketPath state
        (.command line env)
        (state.settle (state.host.run primitives library path env line).2)
        (.shown (state.host.run primitives library path env line).1)
  | launched (idleTimeoutSeconds : UInt32) :
      ProcessTransition primitives library path socketPath state
        (.launched idleTimeoutSeconds)
        { state with
          processes := state.processes ++ [.greeting idleTimeoutSeconds] }
        .quiet
  | killed {id : Nat} {process : AgentProcess}
      (runs : state.processes[id]? = some process) :
      ProcessTransition primitives library path socketPath state
        (.process id .killed) (state.put id .gone) .quiet
  /-- `main` finds an agent. -/
  | declined {id : Nat} {idleTimeoutSeconds : UInt32} {visit : Option Visit}
      (runs : state.processes[id]? = some (.greeting idleTimeoutSeconds))
      (answered : (state.available primitives library path visit).1 = true) :
      ProcessTransition primitives library path socketPath state
        (.process id (.greet visit))
        ((state.available primitives library path visit).2.put id .gone)
        (AgentProcesses.anotherRunning socketPath)
  | greeted {id : Nat} {idleTimeoutSeconds : UInt32} {visit : Option Visit}
      (runs : state.processes[id]? = some (.greeting idleTimeoutSeconds))
      (unanswered :
        (state.available primitives library path visit).1 = false) :
      ProcessTransition primitives library path socketPath state
        (.process id (.greet visit))
        ((state.available primitives library path visit).2.put id
          (.starting idleTimeoutSeconds .looking)) .quiet
  | looked {id : Nat} {idleTimeoutSeconds : UInt32}
      (runs : state.processes[id]? =
        some (.starting idleTimeoutSeconds .looking)) :
      ProcessTransition primitives library path socketPath state
        (.process id .look)
        (state.put id (.starting idleTimeoutSeconds
          (if state.socket.isSome then .knocking else .binding))) .quiet
  /-- `run` finds an agent. -/
  | refused {id : Nat} {idleTimeoutSeconds : UInt32} {visit : Option Visit}
      (runs : state.processes[id]? =
        some (.starting idleTimeoutSeconds .knocking))
      (answered : (state.available primitives library path visit).1 = true) :
      ProcessTransition primitives library path socketPath state
        (.process id (.knock visit))
        ((state.available primitives library path visit).2.put id (.leaving 1))
        (AgentProcesses.alreadyListening socketPath)
  | knocked {id : Nat} {idleTimeoutSeconds : UInt32} {visit : Option Visit}
      (runs : state.processes[id]? =
        some (.starting idleTimeoutSeconds .knocking))
      (unanswered :
        (state.available primitives library path visit).1 = false) :
      ProcessTransition primitives library path socketPath state
        (.process id (.knock visit))
        ((state.available primitives library path visit).2.put id
          (.starting idleTimeoutSeconds .clearing)) .quiet
  | cleared {id : Nat} {idleTimeoutSeconds : UInt32} (removed : Bool)
      (runs : state.processes[id]? =
        some (.starting idleTimeoutSeconds .clearing)) :
      ProcessTransition primitives library path socketPath state
        (.process id (.clear removed))
        ((state.unlink removed).put id
          (.starting idleTimeoutSeconds .binding)) .quiet
  | notBound {id : Nat} {idleTimeoutSeconds : UInt32} {reply : BindReply}
      {text : SecureBytes}
      (runs : state.processes[id]? =
        some (.starting idleTimeoutSeconds .binding))
      (failed : reply = .bound → state.socket ≠ none) :
      ProcessTransition primitives library path socketPath state
        (.process id (.bind reply)) (state.put id (.leaving 1))
        (.complained text)
  | bound {id : Nat} {idleTimeoutSeconds : UInt32}
      (runs : state.processes[id]? =
        some (.starting idleTimeoutSeconds .binding))
      (free : state.socket = none) :
      ProcessTransition primitives library path socketPath state
        (.process id (.bind .bound))
        ({ state with socket := some id }.put id
          (.starting idleTimeoutSeconds .listening)) .quiet
  | notListening {id : Nat} {idleTimeoutSeconds : UInt32}
      (runs : state.processes[id]? =
        some (.starting idleTimeoutSeconds .listening)) :
      ProcessTransition primitives library path socketPath state
        (.process id (.listen true)) (state.put id (.leaving 2))
        AgentProcesses.failedToListen
  | listened {id : Nat} {idleTimeoutSeconds : UInt32}
      (runs : state.processes[id]? =
        some (.starting idleTimeoutSeconds .listening)) :
      ProcessTransition primitives library path socketPath state
        (.process id (.listen false))
        (state.put id (.serving ⟨idleTimeoutSeconds, true, none, 0⟩)) .quiet
  | checked {id : Nat} {agent : AgentServer} (now : Nat)
      (runs : state.processes[id]? = some (.serving agent)) :
      ProcessTransition primitives library path socketPath state
        (.process id (.round now))
        (state.put id (.serving (agent.checkIdleTimeout now))) .quiet
  | interrupted {id : Nat} {agent : AgentServer}
      (runs : state.processes[id]? = some (.serving agent)) :
      ProcessTransition primitives library path socketPath state
        (.process id .interrupted) (state.put id (.leaving 2)) .quiet
  | cleanedUp {id cleanups : Nat} (removed : Bool)
      (runs : state.processes[id]? = some (.leaving (cleanups + 1))) :
      ProcessTransition primitives library path socketPath state
        (.process id (.cleanup removed))
        ((state.unlink removed).put id
          (if cleanups = 0 then .gone else .leaving cleanups)) .quiet

namespace AgentProcesses

variable {primitives : Primitives} {library : Library} {path socketPath : Path}
  {state next : AgentProcesses} {reply : ProcessReply}

/-- What one process does by itself is one of the transitions. -/
theorem act_cases {id : Nat} {process : AgentProcess} {action : ProcessAction}
    (runs : state.processes[id]? = some process)
    (acted : state.act primitives library path socketPath id process action =
      some (next, reply)) :
    ProcessTransition primitives library path socketPath state
      (.process id action) next reply := by
  unfold act at acted
  split at acted
  case h_1 => cases acted
  case h_2 =>
      cases acted
      exact .killed runs
  case h_3 =>
      dsimp only at acted
      split at acted
      · next answered =>
          cases acted
          exact .declined runs answered
      · next unanswered =>
          cases acted
          exact .greeted runs (Bool.eq_false_iff.mpr unanswered)
  case h_4 =>
      cases acted
      exact .looked runs
  case h_5 =>
      dsimp only at acted
      split at acted
      · next answered =>
          cases acted
          exact .refused runs answered
      · next unanswered =>
          cases acted
          exact .knocked runs (Bool.eq_false_iff.mpr unanswered)
  case h_6 =>
      cases acted
      exact .cleared _ runs
  case h_7 =>
      cases acted
      exact .notBound runs (by simp)
  case h_8 =>
      cases acted
      exact .notBound runs (by simp)
  case h_9 =>
      split at acted
      · next taken =>
          cases acted
          exact .notBound runs fun _ => Option.isSome_iff_ne_none.mp taken
      · next free =>
          cases acted
          exact .bound runs (Option.not_isSome_iff_eq_none.mp free)
  case h_10 =>
      split at acted
      · next failed =>
          cases acted
          exact failed ▸ .notListening runs
      · next succeeded =>
          cases acted
          exact Bool.eq_false_iff.mpr succeeded ▸ .listened runs
  case h_11 =>
      cases acted
      exact .checked _ runs
  case h_12 =>
      cases acted
      exact .interrupted runs
  case h_13 =>
      cases acted
      exact .cleanedUp _ runs
  case h_14 => cases acted

/-- Every step is: the subcommands' as well as the processes'. -/
theorem step_cases {event : ProcessEvent}
    (stepped : state.step primitives library path socketPath event =
      some (next, reply)) :
    ProcessTransition primitives library path socketPath state event next
      reply := by
  cases event with
  | command line env =>
      cases stepped
      exact .command line env
  | launched idleTimeoutSeconds =>
      cases stepped
      exact .launched idleTimeoutSeconds
  | process id action =>
      simp only [step] at stepped
      split at stepped
      · cases stepped
      · next process runs => exact act_cases runs stepped

end AgentProcesses

end DuckPass
