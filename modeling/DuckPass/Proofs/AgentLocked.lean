/-
Module: DuckPass.Proofs.AgentLocked
Purpose: A locked agent answers as if there were no vault: two agents that find
  different directories around them cannot be told apart by any requests, until
  an unlock succeeds.
Trusted boundary: none
Main exports: lockedResponse, perform_locked, SameInput,
  locked_agent_reveals_nothing
-/
import DuckPass.System.SymbolicAgent

namespace DuckPass

open AgentServer (refusal acknowledgement)

section LockedAgent

variable {primitives : Primitives} {library : Library}

/-- What an agent without a session answers.  `refused` is the text with which
an unlock fails; no vault is mentioned. -/
def lockedResponse (refused : SecureString → SecureBytes) :
    AgentRequest → Response
  | .ping => ⟨pongByte, []⟩
  | .status => ⟨ResponseStatus.ok.toByte, 0 :: (htonl 0 ++ htonl 0)⟩
  | .unlock masterPassword => refusal .error (refused masterPassword)
  | .lock => acknowledgement
  | .stop => acknowledgement
  | .entry _ => refusal .locked (textBytes "Vault is locked in agent.")
  | .malformed text => refusal .error (textBytes text)

/-- Whether the loop goes on after a request. -/
def AgentRequest.keepsRunning : AgentRequest → Bool
  | .stop => false
  | _ => true

/-- Without a session, and if the request is no unlock that succeeds, nothing
but `running_` changes. -/
theorem perform_locked {env : ServeEnv} {agent : AgentServer}
    {storage : Storage} {request : AgentRequest}
    {refused : SecureString → SecureBytes}
    (locked : agent.vaultService = none)
    (refuses : ∀ masterPassword, request = .unlock masterPassword →
      AgentServer.unlock primitives env masterPassword agent storage.files =
        .error (refused masterPassword)) :
    AgentServer.perform primitives library env agent storage request =
      ⟨some (lockedResponse refused request),
        { agent with running := agent.running && request.keepsRunning },
        storage⟩ := by
  obtain ⟨idleTimeoutSeconds, running, vaultService, lastActivity⟩ := agent
  dsimp only at locked
  subst locked
  cases request with
  | ping => simp [AgentServer.perform, AgentServer.answer, lockedResponse,
      AgentRequest.keepsRunning]
  | status => simp [AgentServer.perform, AgentServer.answer, lockedResponse,
      AgentServer.statusResponse, AgentServer.timeoutRemaining,
      AgentServer.totalEntries, AgentRequest.keepsRunning]
  | unlock masterPassword =>
      simp [AgentServer.perform, refuses masterPassword rfl,
        AgentServer.answer, lockedResponse, AgentRequest.keepsRunning]
  | lock => simp [AgentServer.perform, AgentServer.answer, AgentServer.lock,
      lockedResponse, AgentRequest.keepsRunning]
  | stop => simp [AgentServer.perform, AgentServer.answer, lockedResponse,
      AgentRequest.keepsRunning]
  | entry call => simp [AgentServer.perform, AgentServer.serve_of_none,
      lockedResponse, AgentRequest.keepsRunning]
  | malformed text => simp [AgentServer.perform, AgentServer.malformed,
      AgentServer.answer, lockedResponse, AgentRequest.keepsRunning]

/-! ## Two runs -/

/-- Two loops get the same input: the same round, in which an unlock, if it is
asked for, fails on both sides with the same text; or the end of both; or each
its own change of the directory. -/
inductive SameInput (primitives : Primitives) :
    AgentLoop × AgentLoop → LoopEvent × LoopEvent → Prop where
  | round {loops : AgentLoop × AgentLoop} {checkedAt : Nat}
      {client : Option AgentServer.Client}
      (refused : ∀ found masterPassword, client = some found →
        found.request = some (.unlock masterPassword) →
        ∃ text,
          AgentServer.unlock primitives found.env masterPassword
              loops.1.agent loops.1.files = .error text ∧
            AgentServer.unlock primitives found.env masterPassword
              loops.2.agent loops.2.files = .error text) :
      SameInput primitives loops
        (.round checkedAt client, .round checkedAt client)
  | external {loops : AgentLoop × AgentLoop} {files otherFiles : Files} :
      SameInput primitives loops (.external files, .external otherFiles)
  | shutdown {loops : AgentLoop × AgentLoop} :
      SameInput primitives loops (.shutdown, .shutdown)

/-- What a locked agent does in a round depends on the request and the text of
a failed unlock alone. -/
theorem iterate_locked {agent : AgentServer} {storage : Storage}
    {checkedAt : Nat} {client : AgentServer.Client}
    {refused : SecureString → SecureBytes}
    (locked : agent.vaultService = none)
    (refuses : ∀ masterPassword,
      client.request = some (.unlock masterPassword) →
      AgentServer.unlock primitives client.env masterPassword agent
        storage.files = .error (refused masterPassword)) :
    AgentServer.iterate primitives library checkedAt (some client) agent
        storage =
      ⟨client.request.map (lockedResponse refused),
        { agent with
          running := agent.running &&
            (client.request.map AgentRequest.keepsRunning).getD true },
        storage⟩ := by
  unfold AgentServer.iterate
  simp only [AgentServer.checkIdleTimeout_of_none locked,
    AgentServer.handleClient_eq]
  unfold AgentServer.Client.request at refuses ⊢
  cases parsed : parseRequest client.received with
  | none => simp [AgentServer.performIfAny]
  | some request =>
      have performed := @perform_locked primitives library client.env agent
        storage request refused locked (by
          intro masterPassword same
          exact refuses masterPassword (parsed.trans (congrArg some same)))
      simp only [AgentServer.performIfAny, performed, Option.map_some,
        Option.getD_some]

/-- The packet, if one is sent, is an answer of an agent that has no session:
a pong, a STATUS of zeros, an acknowledgement or an error text. -/
def Silent (reply : Option Response) : Prop :=
  ∃ (refused : SecureString → SecureBytes) (request : Option AgentRequest),
    reply = request.map (lockedResponse refused)

theorem silent_none : Silent none := ⟨fun _ => [], none, rfl⟩

/-- What a step of two locked agents preserves. -/
structure LockedTogether (loops : AgentLoop × AgentLoop) : Prop where
  same : loops.1.agent = loops.2.agent
  locked : loops.1.agent.vaultService = none

/-- The text with which an unlock fails. -/
def refusalText (primitives : Primitives) (env : ServeEnv) (loop : AgentLoop)
    (masterPassword : SecureString) : SecureBytes :=
  match AgentServer.unlock primitives env masterPassword loop.agent
      loop.files with
  | .error text => text
  | .ok _ => []

theorem LockedTogether.round {loops : AgentLoop × AgentLoop}
    (together : LockedTogether loops) {checkedAt : Nat}
    {client : Option AgentServer.Client}
    (refused : ∀ found masterPassword, client = some found →
      found.request = some (.unlock masterPassword) →
      ∃ text,
        AgentServer.unlock primitives found.env masterPassword
            loops.1.agent loops.1.files = .error text ∧
          AgentServer.unlock primitives found.env masterPassword
            loops.2.agent loops.2.files = .error text) :
    ∃ (agent : AgentServer) (reply : Option Response),
      agent.vaultService = none ∧ Silent reply ∧
      AgentServer.iterate primitives library checkedAt client loops.1.agent
          (.start loops.1.files) = ⟨reply, agent, .start loops.1.files⟩ ∧
      AgentServer.iterate primitives library checkedAt client loops.2.agent
          (.start loops.2.files) = ⟨reply, agent, .start loops.2.files⟩ := by
  obtain ⟨same, locked⟩ := together
  have otherLocked := locked
  rw [same] at otherLocked
  cases client with
  | none =>
      refine ⟨loops.1.agent, none, locked, silent_none, ?_, ?_⟩
      · simp only [AgentServer.iterate,
          AgentServer.checkIdleTimeout_of_none locked]
      · simp only [AgentServer.iterate,
          AgentServer.checkIdleTimeout_of_none otherLocked, same]
  | some client =>
      -- The text is the same on both sides, so one function gives it.
      have first := @iterate_locked primitives library loops.1.agent
        (.start loops.1.files) checkedAt client
        (refusalText primitives client.env loops.1) locked (by
          intro masterPassword asked
          obtain ⟨text, failed, _⟩ := refused client masterPassword rfl asked
          simp only [Storage.start, refusalText, failed])
      have second := @iterate_locked primitives library loops.2.agent
        (.start loops.2.files) checkedAt client
        (refusalText primitives client.env loops.1) otherLocked (by
          intro masterPassword asked
          obtain ⟨text, failed, failedToo⟩ :=
            refused client masterPassword rfl asked
          simp only [Storage.start, refusalText, failed, failedToo])
      refine ⟨_, _, ?_, ⟨_, client.request, rfl⟩, first, ?_⟩
      · exact locked
      · rw [second, same]

/-- One step of two locked agents on the same input. -/
theorem LockedTogether.step {loops next : AgentLoop × AgentLoop}
    {events : LoopEvent × LoopEvent}
    {replies : Option Response × Option Response}
    (together : LockedTogether loops)
    (input : SameInput primitives loops events)
    (stepped : Run.pair (AgentLoop.step primitives library) loops events =
      some (next, replies)) :
    LockedTogether next ∧ replies.1 = replies.2 ∧ Silent replies.1 ∧
      next.1.files = events.1.directory loops.1.files ∧
      next.2.files = events.2.directory loops.2.files := by
  obtain ⟨first, second⟩ := Run.pair_eq_some stepped
  obtain ⟨next, otherNext⟩ := next
  obtain ⟨reply, otherReply⟩ := replies
  cases input with
  | round refused =>
      obtain ⟨_, agentEq, filesEq, replyEq⟩ := AgentLoop.step_round first
      obtain ⟨_, otherAgentEq, otherFilesEq, otherReplyEq⟩ :=
        AgentLoop.step_round second
      obtain ⟨agent, reply, locked, silent, one, two⟩ :=
        together.round refused
      rw [one] at agentEq filesEq replyEq
      rw [two] at otherAgentEq otherFilesEq otherReplyEq
      refine ⟨⟨agentEq.trans otherAgentEq.symm, ?_⟩,
        replyEq.trans otherReplyEq.symm, ?_, filesEq, otherFilesEq⟩
      · rw [agentEq]
        exact locked
      · rw [replyEq]
        exact silent
  | external =>
      cases first
      cases second
      exact ⟨⟨together.same, together.locked⟩, rfl, silent_none, rfl, rfl⟩
  | shutdown =>
      cases first
      cases second
      exact ⟨⟨congrArg AgentServer.stop together.same, rfl⟩, rfl, silent_none,
        rfl, rfl⟩

/-- Two locked agents on the same input answer alike for as long as no unlock
succeeds, and write nothing. -/
theorem LockedTogether.run {loops last : AgentLoop × AgentLoop}
    {events : List (LoopEvent × LoopEvent)}
    {replies : List (Option Response × Option Response)}
    (together : LockedTogether loops)
    (inputs : Run.Along (Run.pair (AgentLoop.step primitives library))
      (SameInput primitives) loops events)
    (finished : Run.run (Run.pair (AgentLoop.step primitives library)) loops
      events = some (last, replies)) :
    (∀ reply ∈ replies, reply.1 = reply.2 ∧ Silent reply.1) ∧
      LockedTogether last ∧
      last.1.files = directoryAfter loops.1.files (events.map Prod.fst) ∧
      last.2.files = directoryAfter loops.2.files (events.map Prod.snd) := by
  induction events generalizing loops replies with
  | nil =>
      cases finished
      exact ⟨by simp, together, rfl, rfl⟩
  | cons event events inductionHypothesis =>
      obtain ⟨next, reply, later, stepped, rest, rfl⟩ := Run.run_cons finished
      obtain ⟨now, ahead⟩ := inputs.cons stepped
      obtain ⟨togetherNext, same, silent, filesEq, otherFilesEq⟩ :=
        together.step now stepped
      obtain ⟨laterSame, togetherLast, lastFiles, lastOtherFiles⟩ :=
        inductionHypothesis togetherNext ahead rest
      refine ⟨?_, togetherLast, ?_, ?_⟩
      · intro other member
        rcases List.mem_cons.mp member with rfl | inLater
        · exact ⟨same, silent⟩
        · exact laterSame other inLater
      · rw [lastFiles, filesEq]
        rfl
      · rw [lastOtherFiles, otherFilesEq]
        rfl

theorem lock_locks {loop next : AgentLoop} {checkedAt : Nat}
    {client : AgentServer.Client} {reply : Option Response}
    (asked : client.request = some .lock)
    (stepped : loop.step primitives library (.round checkedAt (some client)) =
      some (next, reply)) :
    next.agent.vaultService = none := by
  obtain ⟨_, agentEq, _, _⟩ := AgentLoop.step_round stepped
  rw [agentEq]
  simp only [AgentServer.iterate, AgentServer.handleClient_eq]
  unfold AgentServer.Client.request at asked
  rw [asked]
  rfl

/-- An agent without a session has one after a round only if the client of the
round unlocked it. -/
theorem iterate_vaultService_of_none {agent : AgentServer} {storage : Storage}
    {checkedAt : Nat} {client : Option AgentServer.Client}
    (locked : (agent.checkIdleTimeout checkedAt).vaultService = none)
    (refused : ∀ found masterPassword, client = some found →
      found.request = some (.unlock masterPassword) →
      ∃ text, AgentServer.unlock primitives found.env masterPassword agent
        storage.files = .error text) :
    (AgentServer.iterate primitives library checkedAt client agent
      storage).agent.vaultService = none := by
  cases client with
  | none => exact locked
  | some client =>
      simp only [AgentServer.iterate, AgentServer.handleClient_eq]
      unfold AgentServer.Client.request at refused
      cases parsed : parseRequest client.received with
      | none => exact locked
      | some request =>
          have performed := @perform_locked primitives library client.env
            (agent.checkIdleTimeout checkedAt) storage request
            (fun masterPassword =>
              refusalText primitives client.env ⟨agent, storage.files⟩
                masterPassword) locked (by
              rintro masterPassword rfl
              obtain ⟨text, failed⟩ :=
                refused client masterPassword rfl parsed
              have failedHere := AgentServer.unlock_error_congr
                (agent.checkIdleTimeout checkedAt) failed
              simp only [refusalText, failed, failedHere])
          simp only [AgentServer.performIfAny, performed]
          exact locked

/-- A due check drops the session, and the client of the same round, if there
is one, finds none. -/
theorem expired_locks {loop next : AgentLoop} {checkedAt : Nat}
    {client : Option AgentServer.Client} {reply : Option Response}
    (timed : loop.agent.idleTimeoutSeconds ≠ 0)
    (expired : loop.agent.Expired checkedAt)
    (refused : ∀ found masterPassword, client = some found →
      found.request = some (.unlock masterPassword) →
      ∃ text, AgentServer.unlock primitives found.env masterPassword
        loop.agent loop.files = .error text)
    (stepped : loop.step primitives library (.round checkedAt client) =
      some (next, reply)) :
    next.agent.vaultService = none := by
  obtain ⟨_, agentEq, _, _⟩ := AgentLoop.step_round stepped
  rw [agentEq]
  exact iterate_vaultService_of_none
    (AgentServer.checkIdleTimeout_of_expired timed expired) refused

/-- A locked agent reveals nothing.  A LOCK request and an idle check that is
due lock the agent; from then on two agents that differ in nothing but the
directories around them give the same answers to the same requests, none of
which says anything of a vault, stay locked, and write no file, until an unlock
succeeds. -/
theorem locked_agent_reveals_nothing :
    (∀ (loop next : AgentLoop) (checkedAt : Nat) (client : AgentServer.Client)
        (reply : Option Response), client.request = some .lock →
      loop.step primitives library (.round checkedAt (some client)) =
        some (next, reply) → next.agent.vaultService = none) ∧
    (∀ (loop next : AgentLoop) (checkedAt : Nat)
        (client : Option AgentServer.Client) (reply : Option Response),
      loop.agent.idleTimeoutSeconds ≠ 0 → loop.agent.Expired checkedAt →
      (∀ found masterPassword, client = some found →
        found.request = some (.unlock masterPassword) →
        ∃ text, AgentServer.unlock primitives found.env masterPassword
          loop.agent loop.files = .error text) →
      loop.step primitives library (.round checkedAt client) =
        some (next, reply) → next.agent.vaultService = none) ∧
    ∀ (loops last : AgentLoop × AgentLoop)
        (events : List (LoopEvent × LoopEvent))
        (replies : List (Option Response × Option Response)),
      loops.1.agent = loops.2.agent → loops.1.agent.vaultService = none →
      Run.Along (Run.pair (AgentLoop.step primitives library))
        (SameInput primitives) loops events →
      Run.run (Run.pair (AgentLoop.step primitives library)) loops events =
        some (last, replies) →
      (∀ reply ∈ replies, reply.1 = reply.2 ∧ Silent reply.1) ∧
        last.1.agent = last.2.agent ∧ last.1.agent.vaultService = none ∧
        last.1.files = directoryAfter loops.1.files (events.map Prod.fst) ∧
        last.2.files = directoryAfter loops.2.files (events.map Prod.snd) := by
  refine ⟨?_, ?_, ?_⟩
  · intro loop next checkedAt client reply asked stepped
    exact lock_locks asked stepped
  · intro loop next checkedAt client reply timed expired refused stepped
    exact expired_locks timed expired refused stepped
  · intro loops last events replies same locked inputs finished
    have together : LockedTogether loops := ⟨same, locked⟩
    obtain ⟨answers, lastTogether, files, otherFiles⟩ :=
      together.run inputs finished
    exact ⟨answers, lastTogether.same, lastTogether.locked, files, otherFiles⟩

end LockedAgent

namespace Symbolic

/-- One agent over a directory with an empty vault, one over a vault with an
entry. -/
def lockedLoops : AgentLoop × AgentLoop :=
  (⟨lockedAgent 900, files Vault.empty masterPassword⟩,
    ⟨lockedAgent 900, files oneEntry masterPassword⟩)

/-- An unlock with a wrong password. -/
def wrongUnlock : AgentServer.Client :=
  client .unlock (AgentServer.appendSecStr [] [0x78]) 4 1 9

def entryRequest : AgentServer.Client :=
  client .getEntry (AgentServer.appendSecStr [] service) 6 1 9

/-- The unlock that fails, and then a request for the entry. -/
def lockedInputs : List (LoopEvent × LoopEvent) :=
  [(.round 4 (some wrongUnlock), .round 4 (some wrongUnlock)),
    (.round 6 (some entryRequest), .round 6 (some entryRequest))]

theorem wrongUnlock_request : wrongUnlock.request = some (.unlock [0x78]) := by
  decide +kernel

theorem entryRequest_request :
    entryRequest.request = some (.entry (.getEntry service)) := by
  decide +kernel

set_option maxRecDepth 4000 in
theorem wrongUnlock_refused :
    AgentServer.unlock primitives wrongUnlock.env [0x78] lockedLoops.1.agent
        lockedLoops.1.files = .error (textBytes "Invalid master password.") ∧
      AgentServer.unlock primitives wrongUnlock.env [0x78] lockedLoops.2.agent
        lockedLoops.2.files =
          .error (textBytes "Invalid master password.") :=
  ⟨rfl, rfl⟩

theorem lockedInputs_same :
    Run.Along (Run.pair (AgentLoop.step primitives library))
      (SameInput primitives) lockedLoops lockedInputs := by
  refine ⟨.round ?_, ?_⟩
  · intro found masterPassword same asked
    cases same
    rw [wrongUnlock_request] at asked
    cases asked
    exact ⟨_, wrongUnlock_refused.1, wrongUnlock_refused.2⟩
  · split
    · trivial
    · refine ⟨.round ?_, ?_⟩
      · intro found masterPassword same asked
        cases same
        rw [entryRequest_request] at asked
        cases asked
      · split <;> trivial

def lockedRun :
    Option ((AgentLoop × AgentLoop) ×
      List (Option Response × Option Response)) :=
  Run.run (Run.pair (AgentLoop.step primitives library)) lockedLoops
    lockedInputs

theorem lockedRun_isSome : lockedRun.isSome = true := by
  decide +kernel

end Symbolic

open Symbolic in
/-- A wrong password and a request for an entry, over an empty vault and over
one that has the entry. -/
theorem locked_agent_reveals_nothing_twice :
    ∃ last replies, lockedRun = some (last, replies) ∧
      (∀ reply ∈ replies, reply.1 = reply.2 ∧ Silent reply.1) ∧
      last.1.agent.vaultService = none := by
  obtain ⟨⟨last, replies⟩, finished⟩ :=
    Option.isSome_iff_exists.mp lockedRun_isSome
  obtain ⟨answers, _, locked, _⟩ :=
    (@locked_agent_reveals_nothing primitives library).2.2 lockedLoops last
      lockedInputs replies rfl rfl lockedInputs_same finished
  exact ⟨last, replies, finished, answers, locked⟩

end DuckPass
