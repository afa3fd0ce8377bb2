/-
Module: DuckPass.System.AgentLoop
Purpose: The event loop of the agent over a directory that other processes may
  change between its rounds, and its runs.
Trusted boundary: as for `DuckPass.Core.AgentServer`.
Main exports: AgentLoop, LoopEvent, AgentLoop.step, AgentLoop.run,
  directoryAfter
-/
import DuckPass.Lib.Run
import DuckPass.Proofs.AgentServer

namespace DuckPass

/-- The agent process and the directory of the vault file. -/
structure AgentLoop where
  agent : AgentServer
  files : Files

/-- What happens next: a round of the loop, a change that another process makes
to the directory, or the end of the loop, after a STOP, a signal or a failed
`poll`. -/
inductive LoopEvent where
  | round (checkedAt : Nat) (client : Option AgentServer.Client)
  | external (files : Files)
  | shutdown

namespace AgentLoop

/-- One step with the packet that is written back, if any.  The loop only goes
on while `running_` is set, and the client is served at the time that `poll` and
the reading of its packet leave. -/
def step (primitives : Primitives) (library : Library) (loop : AgentLoop)
    (event : LoopEvent) : Option (AgentLoop × Option Response) :=
  match event with
  | .round checkedAt client =>
      if loop.agent.running ∧ ∀ found ∈ client, found.Timely checkedAt then
        let handled := AgentServer.iterate primitives library checkedAt client
          loop.agent (.start loop.files)
        some (⟨handled.agent, handled.storage.files⟩, handled.response)
      else none
  | .external files => some (⟨loop.agent, files⟩, none)
  | .shutdown => some (⟨loop.agent.stop, loop.files⟩, none)

/-- A sequence of steps with the packets written back. -/
def run (primitives : Primitives) (library : Library) (loop : AgentLoop)
    (events : List LoopEvent) : Option (AgentLoop × List (Option Response)) :=
  Run.run (step primitives library) loop events

/-- Every event of a sequence meets the condition in the state it finds. -/
def Along (primitives : Primitives) (library : Library)
    (condition : AgentLoop → LoopEvent → Prop) (loop : AgentLoop)
    (events : List LoopEvent) : Prop :=
  Run.Along (step primitives library) condition loop events

variable {primitives : Primitives} {library : Library} {loop next : AgentLoop}
  {reply : Option Response}

/-- A round is the idle check and then the request of the client, if any. -/
theorem step_round {checkedAt : Nat} {client : Option AgentServer.Client}
    (stepped : loop.step primitives library (.round checkedAt client) =
      some (next, reply)) :
    (loop.agent.running = true ∧ ∀ found ∈ client, found.Timely checkedAt) ∧
      next.agent = (AgentServer.iterate primitives library checkedAt client
        loop.agent (.start loop.files)).agent ∧
      next.files = (AgentServer.iterate primitives library checkedAt client
        loop.agent (.start loop.files)).storage.files ∧
      reply = (AgentServer.iterate primitives library checkedAt client
        loop.agent (.start loop.files)).response := by
  unfold step at stepped
  dsimp only at stepped
  split at stepped
  · next fitting =>
      cases stepped
      exact ⟨fitting, rfl, rfl, rfl⟩
  · cases stepped

end AgentLoop

/-- The request of a round, if a client came and sent a packet. -/
def AgentServer.Client.request (client : AgentServer.Client) :
    Option AgentRequest :=
  parseRequest client.received

/-- The directory after an event in which the agent itself writes nothing. -/
def LoopEvent.directory (files : Files) : LoopEvent → Files
  | .external changed => changed
  | .round _ _ => files
  | .shutdown => files

/-- The directory as the other processes leave it. -/
def directoryAfter (files : Files) (events : List LoopEvent) : Files :=
  events.foldl LoopEvent.directory files

end DuckPass
