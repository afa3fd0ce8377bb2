/-
Module: DuckPass.Proofs.IdleTimeout
Purpose: The idle timer over whole runs of the event loop: which requests leave
  it alone, when a session is dropped, and how late a request can still be
  served.
Trusted boundary: none
Main exports: AgentRequest.Idle, NonEntry, idle_traffic_never_extends_session,
  Serves, AgentServer.Client.Timely.now_le, served_session_fresh_at_check
-/
import DuckPass.System.SymbolicAgent
import Mathlib.Algebra.Group.Action.Defs
import Mathlib.Algebra.Order.BigOperators.Group.List

namespace DuckPass

section IdleTimer

variable {primitives : Primitives} {library : Library}

/-! ## Requests that are not about entries -/

/-- A request that is answered without the session being looked at: PING,
STATUS, a packet that does not parse, and an unlock that fails. -/
def AgentRequest.Idle (primitives : Primitives) (env : ServeEnv)
    (agent : AgentServer) (files : Files) : AgentRequest → Prop
  | .ping => True
  | .status => True
  | .malformed _ => True
  | .unlock masterPassword =>
      ∃ text, AgentServer.unlock primitives env masterPassword agent files =
        .error text
  | .lock => False
  | .stop => False
  | .entry _ => False

/-- A request that touches nothing leaves the agent and the files. -/
theorem perform_of_idle {env : ServeEnv} {agent other : AgentServer}
    {storage : Storage} {request : AgentRequest}
    (idle : request.Idle primitives env other storage.files) :
    (AgentServer.perform primitives library env agent storage request).agent =
        agent ∧
      (AgentServer.perform primitives library env agent storage
        request).storage = storage := by
  cases request with
  | ping => exact ⟨rfl, rfl⟩
  | status => exact ⟨rfl, rfl⟩
  | malformed text => exact ⟨rfl, rfl⟩
  | unlock masterPassword =>
      obtain ⟨text, failed⟩ := idle
      have failedHere := AgentServer.unlock_error_congr agent failed
      simp only [AgentServer.perform, failedHere]
      exact ⟨rfl, rfl⟩
  | lock => exact idle.elim
  | stop => exact idle.elim
  | entry call => exact idle.elim

/-- A step that brings the agent no request about entries, no LOCK and no
STOP. -/
inductive NonEntry (primitives : Primitives) (loop : AgentLoop) :
    LoopEvent → Prop where
  | noClient {checkedAt : Nat} :
      NonEntry primitives loop (.round checkedAt none)
  | packet {checkedAt : Nat} {client : AgentServer.Client}
      (idle : ∀ request, client.request = some request →
        request.Idle primitives client.env loop.agent loop.files) :
      NonEntry primitives loop (.round checkedAt (some client))
  | external {files : Files} : NonEntry primitives loop (.external files)

/-- The times of the idle checks in a run. -/
def checkTimes (events : List LoopEvent) : List Nat :=
  events.filterMap fun event =>
    match event with
    | .round checkedAt _ => some checkedAt
    | _ => none

/-- A round with such a request is its idle check. -/
theorem iterate_of_nonEntry {loop : AgentLoop} {checkedAt : Nat}
    {client : Option AgentServer.Client}
    (nonEntry : NonEntry primitives loop (.round checkedAt client)) :
    (AgentServer.iterate primitives library checkedAt client loop.agent
        (.start loop.files)).agent = loop.agent.checkIdleTimeout checkedAt ∧
      (AgentServer.iterate primitives library checkedAt client loop.agent
        (.start loop.files)).storage = .start loop.files := by
  cases nonEntry with
  | noClient => exact ⟨rfl, rfl⟩
  | @packet _ client idle =>
      simp only [AgentServer.iterate, AgentServer.handleClient_eq]
      unfold AgentServer.Client.request at idle
      cases parsed : parseRequest client.received with
      | none => exact ⟨rfl, rfl⟩
      | some request => exact perform_of_idle (idle request parsed)

/-- What is left of the session `service` at `agent` after idle checks at the
given times and nothing else. -/
def afterChecks (agent : AgentServer) (service : VaultService)
    (times : List Nat) : AgentServer :=
  { agent with
    vaultService :=
      if times.any fun time => agent.Expired time then none
      else some service }

/-- Without any check the session is there. -/
theorem eq_afterChecks_nil {agent : AgentServer} {service : VaultService}
    (unlocked : agent.vaultService = some service) :
    agent = afterChecks agent service [] := by
  simp only [afterChecks, List.any_nil, Bool.false_eq_true, if_false,
    ← unlocked]

/-- One more check. -/
theorem checkIdleTimeout_afterChecks {agent : AgentServer}
    {service : VaultService} (timed : agent.idleTimeoutSeconds ≠ 0)
    (times : List Nat) (time : Nat) :
    (afterChecks agent service times).checkIdleTimeout time =
      afterChecks agent service (times ++ [time]) := by
  by_cases gone : (times.any fun time => agent.Expired time) = true
  · rw [AgentServer.checkIdleTimeout_of_none (by simp [afterChecks, gone])]
    simp only [afterChecks, List.any_append, gone, Bool.true_or, if_true]
  · have session : (afterChecks agent service times).vaultService =
        some service := by
      simp only [afterChecks, if_neg gone]
    have timedStill :
        (afterChecks agent service times).idleTimeoutSeconds ≠ 0 := timed
    have sameTimer : (afterChecks agent service times).Expired time ↔
        agent.Expired time := Iff.rfl
    rw [AgentServer.checkIdleTimeout_of_some session timedStill]
    simp only [sameTimer]
    by_cases expired : agent.Expired time
    · rw [if_pos expired]
      simp [afterChecks, AgentServer.lock, expired]
    · rw [if_neg expired]
      simp [afterChecks, expired]

/-- A round without an entry request does what its check does. -/
theorem step_afterChecks {agent : AgentServer} {service : VaultService}
    (timed : agent.idleTimeoutSeconds ≠ 0) {times : List Nat}
    {loop next : AgentLoop} {event : LoopEvent} {reply : Option Response}
    (before : loop.agent = afterChecks agent service times)
    (nonEntry : NonEntry primitives loop event)
    (stepped : loop.step primitives library event = some (next, reply)) :
    next.agent = afterChecks agent service (times ++ checkTimes [event]) := by
  cases event with
  | round checkedAt client =>
      obtain ⟨_, agentEq, _, _⟩ := AgentLoop.step_round stepped
      rw [agentEq, (iterate_of_nonEntry nonEntry).1, before,
        checkIdleTimeout_afterChecks timed]
      rfl
  | external files =>
      cases stepped
      rw [checkTimes]
      simpa using before
  | shutdown => cases nonEntry

/-- So does a run of them. -/
theorem run_afterChecks {agent : AgentServer} {service : VaultService}
    (timed : agent.idleTimeoutSeconds ≠ 0) {times : List Nat}
    {loop last : AgentLoop} {events : List LoopEvent}
    {replies : List (Option Response)}
    (before : loop.agent = afterChecks agent service times)
    (nonEntry : loop.Along primitives library (NonEntry primitives) events)
    (finished : loop.run primitives library events = some (last, replies)) :
    last.agent = afterChecks agent service (times ++ checkTimes events) := by
  induction events generalizing loop times replies with
  | nil =>
      cases finished
      rw [before, checkTimes, List.filterMap_nil, List.append_nil]
  | cons event events inductionHypothesis =>
      obtain ⟨next, reply, later, stepped, rest, _⟩ := Run.run_cons finished
      obtain ⟨now, ahead⟩ := Run.Along.cons nonEntry stepped
      have middle := step_afterChecks timed before now stepped
      have ended := inductionHypothesis middle ahead rest
      rw [ended, List.append_assoc]
      congr 2
      simp only [checkTimes, List.filterMap_cons, List.filterMap_nil]
      split <;> rfl

/-- However many requests that are not about entries arrive, in whatever order,
they change neither the session nor the idle timer: the agent is what the idle
checks alone make of it, and the first check at which the time since the last
activity is up drops the session. -/
theorem idle_traffic_never_extends_session {loop last : AgentLoop}
    {service : VaultService} {events : List LoopEvent}
    {replies : List (Option Response)}
    (timed : loop.agent.idleTimeoutSeconds ≠ 0)
    (unlocked : loop.agent.vaultService = some service)
    (nonEntry : loop.Along primitives library (NonEntry primitives) events)
    (finished : loop.run primitives library events = some (last, replies)) :
    last.agent =
      { loop.agent with
        vaultService :=
          if (checkTimes events).any fun time => loop.agent.Expired time then
            none
          else some service } :=
  run_afterChecks timed (eq_afterChecks_nil unlocked) nonEntry finished

/-! ## Requests about entries -/

/-- In a round with an idle check at `checkedAt`, the request of the client is
one about entries and finds a session. -/
structure Serves (loop : AgentLoop) (checkedAt : Nat)
    (client : AgentServer.Client) : Prop where
  running : loop.agent.running = true
  timely : client.Timely checkedAt
  asked : ∃ call, client.request = some (.entry call)
  unlocked : (loop.agent.checkIdleTimeout checkedAt).vaultService ≠ none

/-- No handler changes the time-out. -/
theorem perform_idleTimeoutSeconds {env : ServeEnv} {agent : AgentServer}
    {storage : Storage} {request : AgentRequest} :
    (AgentServer.perform primitives library env agent storage
      request).agent.idleTimeoutSeconds = agent.idleTimeoutSeconds := by
  cases request with
  | unlock masterPassword =>
      simp only [AgentServer.perform]
      cases finished : AgentServer.unlock primitives env masterPassword agent
          storage.files with
      | error text => rfl
      | ok unlocked =>
          obtain ⟨_, _, _, _, rfl⟩ := AgentServer.unlock_eq_ok finished
          rfl
  | entry call =>
      simp only [AgentServer.perform, AgentServer.serve]
      cases agent.vaultService <;> rfl
  | ping => rfl
  | status => rfl
  | lock => rfl
  | stop => rfl
  | malformed text => rfl

/-- Nor does the check. -/
theorem checkIdleTimeout_idleTimeoutSeconds {agent : AgentServer}
    {now : Nat} :
    (agent.checkIdleTimeout now).idleTimeoutSeconds =
      agent.idleTimeoutSeconds := by
  unfold AgentServer.checkIdleTimeout
  split
  · rfl
  · split <;> rfl

/-- Nor does a round. -/
theorem step_idleTimeoutSeconds {loop next : AgentLoop} {event : LoopEvent}
    {reply : Option Response}
    (stepped : loop.step primitives library event = some (next, reply)) :
    next.agent.idleTimeoutSeconds = loop.agent.idleTimeoutSeconds := by
  cases event with
  | round checkedAt client =>
      obtain ⟨_, agentEq, _, _⟩ := AgentLoop.step_round stepped
      rw [agentEq, ← @checkIdleTimeout_idleTimeoutSeconds loop.agent checkedAt]
      cases client with
      | none => rfl
      | some client =>
          simp only [AgentServer.iterate, AgentServer.handleClient_eq]
          cases parseRequest client.received with
          | none => rfl
          | some request => exact perform_idleTimeoutSeconds
  | external files =>
      cases stepped
      rfl
  | shutdown =>
      cases stepped
      rfl

/-- Nor does a run. -/
theorem run_idleTimeoutSeconds {start loop : AgentLoop}
    {events : List LoopEvent} {replies : List (Option Response)}
    (finished : start.run primitives library events = some (loop, replies)) :
    loop.agent.idleTimeoutSeconds = start.agent.idleTimeoutSeconds :=
  @Run.invariant_of_step _ _ _ (AgentLoop.step primitives library)
    (fun loop =>
      loop.agent.idleTimeoutSeconds = start.agent.idleTimeoutSeconds)
    (fun same stepped => (step_idleTimeoutSeconds stepped).trans same)
    _ _ _ _ rfl finished

/-- The reading of a packet takes at most one time-out for each of its bytes,
for each interruption and for the last `read`. -/
theorem AgentServer.Client.Timely.reading_le {checkedAt : Nat}
    {client : AgentServer.Client} (timely : client.Timely checkedAt) :
    client.waits.reads.sum ≤
      (client.received.length + client.waits.interrupted + 1) *
        AgentServer.receiveTimeout := by
  refine (List.sum_le_card_nsmul _ _ timely.read).trans ?_
  rw [smul_eq_mul]
  exact Nat.mul_le_mul_right _ timely.reads

/-- How late the handler can be after the idle check of its round. -/
theorem AgentServer.Client.Timely.now_le {checkedAt : Nat}
    {client : AgentServer.Client} (timely : client.Timely checkedAt) :
    client.env.now ≤ checkedAt + AgentServer.pollTimeout +
      (client.received.length + client.waits.interrupted + 1) *
        AgentServer.receiveTimeout + client.waits.busy := by
  have polled := timely.polled
  have reading := timely.reading_le
  rw [timely.now, AgentServer.Waits.total]
  omega

/-- The timer is looked at once per round, before the loop waits for a client:
whenever a request about entries is served, the idle time was not up at the
check of the same round.  What passes between that check and the handler is all
by which a request can be late: the second of `poll`, the reading of the packet
and the time that the agent itself takes. -/
theorem served_session_fresh_at_check {start loop : AgentLoop}
    {events : List LoopEvent} {replies : List (Option Response)}
    (timed : 0 < start.agent.idleTimeoutSeconds.toNat)
    (finished : start.run primitives library events = some (loop, replies))
    {checkedAt : Nat} {client : AgentServer.Client}
    (served : Serves loop checkedAt client) :
    elapsedSeconds loop.agent.lastActivity checkedAt <
        start.agent.idleTimeoutSeconds.toNat ∧
      client.env.now - loop.agent.lastActivity <
        start.agent.idleTimeoutSeconds.toNat * nanosecondsPerSecond +
          AgentServer.pollTimeout +
          (client.received.length + client.waits.interrupted + 1) *
            AgentServer.receiveTimeout + client.waits.busy := by
  have sameTimeout := run_idleTimeoutSeconds finished
  have timedStill : loop.agent.idleTimeoutSeconds ≠ 0 := by
    intro zero
    rw [← sameTimeout, zero] at timed
    exact absurd timed (by decide)
  have fresh : ¬ loop.agent.Expired checkedAt := by
    intro expired
    apply served.unlocked
    exact AgentServer.checkIdleTimeout_of_expired timedStill expired
  have early : elapsedSeconds loop.agent.lastActivity checkedAt <
      start.agent.idleTimeoutSeconds.toNat := by
    rw [← sameTimeout]
    exact Nat.lt_of_not_le fresh
  refine ⟨early, ?_⟩
  have atCheck : checkedAt - loop.agent.lastActivity <
      start.agent.idleTimeoutSeconds.toNat * nanosecondsPerSecond :=
    (Nat.div_lt_iff_lt_mul (by decide)).mp early
  have late := served.timely.now_le
  omega

/-- The readings of the steady clock in a run, in the order in which they are
taken. -/
def readings (events : List LoopEvent) : List Nat :=
  events.flatMap fun event =>
    match event with
    | .round checkedAt (some client) => [checkedAt, client.env.now]
    | .round checkedAt none => [checkedAt]
    | _ => []

end IdleTimer

namespace Symbolic

/-- An agent with an idle time of one second, before anyone unlocks it. -/
def lateStart : AgentLoop :=
  ⟨lockedAgent 1, files oneEntry masterPassword⟩

/-- The vault is unlocked a tenth of a second after the agent starts. -/
def lateEvents : List LoopEvent :=
  [.round 0 (some (client .unlock (AgentServer.appendSecStr [] masterPassword)
    0 100000000 9))]

/-- Another tenth later the idle timer is checked.  The client comes at the end
of the second that `poll` waits, and its payload is on the way for another
tenth. -/
def lateRequest : AgentServer.Client where
  received := serializePacket CommandOpcode.getEntry.toByte
    (AgentServer.appendSecStr [] service)
  env := serveEnv 1300000000 10
  waits := ⟨nanosecondsPerSecond, [0, 0, 100000000], 0, 0⟩

def lateRound : LoopEvent := .round 200000000 (some lateRequest)

/-- The state in which the request is served. -/
def lateLoop : AgentLoop :=
  ⟨unlockedAgent 1 oneEntry 100000000, files oneEntry masterPassword⟩

set_option maxRecDepth 8000 in
theorem lateStart_run :
    lateStart.run primitives library lateEvents =
      some (lateLoop, [some AgentServer.acknowledgement]) := rfl

theorem lateRequest_request :
    lateRequest.request = some (.entry (.getEntry service)) := by
  decide +kernel

theorem lateLoop_serves : Serves lateLoop 200000000 lateRequest where
  running := rfl
  timely := by decide
  asked := ⟨_, lateRequest_request⟩
  unlocked := by
    intro impossible
    cases impossible

/-- A PING, and then a round without a client after the idle time is up. -/
def pingEvents : List LoopEvent :=
  [.round 500000000 (some (client .ping [] 500000000 100000000 9)),
    .round 1200000000 none]

theorem pingEvents_nonEntry :
    lateLoop.Along primitives library (NonEntry primitives) pingEvents := by
  refine ⟨.packet ?_, ?_⟩
  · intro request asked
    have ping : request = .ping := by
      have parsed :
          (client .ping [] 500000000 100000000 9).request = some .ping := by
        decide +kernel
      exact Option.some.inj (asked.symm.trans parsed)
    rw [ping]
    trivial
  · split
    · trivial
    · refine ⟨.noClient, ?_⟩
      split <;> trivial

theorem pingEvents_run :
    lateLoop.run primitives library pingEvents =
      some (⟨lateLoop.agent.lock, lateLoop.files⟩,
        [some ⟨pongByte, []⟩, none]) := rfl

end Symbolic

open Symbolic in
/-- A PING half a second after the unlock does not keep the session. -/
theorem idle_traffic_never_extends_session_ping :
    lateLoop.agent.lock =
      { lateLoop.agent with
        vaultService :=
          if (checkTimes pingEvents).any fun time =>
              lateLoop.agent.Expired time then
            none
          else some (session oneEntry) } :=
  idle_traffic_never_extends_session (by decide) rfl pingEvents_nonEntry
    pingEvents_run

open Symbolic in
/-- The whole second has passed when the handler reads the clock, and the entry
is sent all the same. -/
theorem entry_served_after_timeout :
    lateStart.run primitives library lateEvents =
        some (lateLoop, [some AgentServer.acknowledgement]) ∧
      (readings (lateEvents ++ [lateRound])).Pairwise (· ≤ ·) ∧
      Serves lateLoop 200000000 lateRequest ∧
      (lateLoop.step primitives library lateRound).map Prod.snd =
        some (some ⟨ResponseStatus.ok.toByte,
          AgentServer.entryPayload (entry 0x41 7)⟩) ∧
      ¬ elapsedSeconds lateLoop.agent.lastActivity lateRequest.env.now <
        lateStart.agent.idleTimeoutSeconds.toNat :=
  ⟨lateStart_run, by decide, lateLoop_serves, by decide +kernel, by decide⟩

open Symbolic in
/-- The request of the counterexample is within the bound: three reads of a
packet of ten bytes. -/
theorem served_session_fresh_at_check_late :
    elapsedSeconds lateLoop.agent.lastActivity 200000000 <
        lateStart.agent.idleTimeoutSeconds.toNat ∧
      lateRequest.env.now - lateLoop.agent.lastActivity <
        lateStart.agent.idleTimeoutSeconds.toNat * nanosecondsPerSecond +
          AgentServer.pollTimeout +
          (lateRequest.received.length + lateRequest.waits.interrupted + 1) *
            AgentServer.receiveTimeout + lateRequest.waits.busy :=
  served_session_fresh_at_check (by decide) lateStart_run lateLoop_serves

end DuckPass
