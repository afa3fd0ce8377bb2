/-
Module: DuckPass.Proofs.DesktopPolling
Purpose: What the requests that the desktop application sends by itself do to
  the idle timer of the agent.  The status poll leaves it alone; the poll of a
  TOTP code starts it anew every second.
Trusted boundary: as for `DuckPass.System.Desktop`.
Main exports: Dashboard.Quiet, DesktopRequest.Harmless, AnswerAtRest,
  DesktopSystem.Quiet, Stays, Resting, desktop_polling_keeps_auto_lock,
  getTotp_restarts_timer, totp_poll_defeats_auto_lock
-/
import DuckPass.Proofs.AgentLocked
import DuckPass.Proofs.DashboardCells
import DuckPass.Proofs.IdleTimeout
import DuckPass.System.Desktop

namespace DuckPass

open DesktopClient (EntryDetail)

section Polling

variable {primitives : Primitives} {library : Library}

/-! ## What a round leaves of the agent -/

/-- Rounds with idle checks at the given times left the idle timer and the
directory alone, opened no session, and dropped the one there was if a check
was due. -/
structure Stays (times : List Nat) (before after : AgentLoop) : Prop where
  timer : after.agent.lastActivity = before.agent.lastActivity
  timeout : after.agent.idleTimeoutSeconds = before.agent.idleTimeoutSeconds
  files : after.files = before.files
  locked : before.agent.vaultService = none → after.agent.vaultService = none
  due : before.agent.idleTimeoutSeconds ≠ 0 →
    ∀ time ∈ times, before.agent.Expired time →
      after.agent.vaultService = none

theorem Stays.refl (loop : AgentLoop) : Stays [] loop loop :=
  ⟨rfl, rfl, rfl, id, fun _ _ member => absurd member List.not_mem_nil⟩

theorem Stays.trans {times later : List Nat} {loop middle last : AgentLoop}
    (first : Stays times loop middle) (second : Stays later middle last) :
    Stays (times ++ later) loop last where
  timer := second.timer.trans first.timer
  timeout := second.timeout.trans first.timeout
  files := second.files.trans first.files
  locked gone := second.locked (first.locked gone)
  due := by
    intro timed time member expired
    rcases List.mem_append.mp member with early | late
    · exact second.locked (first.due timed time early expired)
    · refine second.due (by rwa [first.timeout]) time late ?_
      unfold AgentServer.Expired at expired ⊢
      rwa [first.timer, first.timeout]

/-- The idle check alone. -/
theorem stays_checkIdleTimeout {loop next : AgentLoop} {checkedAt : Nat}
    (agentEq : next.agent = loop.agent.checkIdleTimeout checkedAt ∨
      next.agent = (loop.agent.checkIdleTimeout checkedAt).lock)
    (filesEq : next.files = loop.files) : Stays [checkedAt] loop next := by
  have kept : ∀ agent : AgentServer,
      (agent.checkIdleTimeout checkedAt).lastActivity = agent.lastActivity := by
    intro agent
    unfold AgentServer.checkIdleTimeout
    split
    · rfl
    · split <;> rfl
  refine ⟨?_, ?_, filesEq, ?_, ?_⟩
  · rcases agentEq with same | locked
    · rw [same, kept]
    · rw [locked]
      exact kept loop.agent
  · rcases agentEq with same | locked
    · rw [same, checkIdleTimeout_idleTimeoutSeconds]
    · rw [locked]
      exact checkIdleTimeout_idleTimeoutSeconds
  · intro gone
    rcases agentEq with same | locked
    · rw [same, AgentServer.checkIdleTimeout_of_none gone, gone]
    · rw [locked]
      rfl
  · intro timed time member expired
    obtain rfl := List.mem_singleton.mp member
    rcases agentEq with same | locked
    · rw [same]
      exact AgentServer.checkIdleTimeout_of_expired timed expired
    · rw [locked]
      rfl

/-! ## Requests that leave the timer alone -/

/-- No attempt with that password opens a session. -/
def Refused (primitives : Primitives) (loop : AgentLoop)
    (masterPassword : Utf8String) : Prop :=
  ∀ env : ServeEnv, ∃ text,
    AgentServer.unlock primitives env masterPassword.val loop.agent
      loop.files = .error text

/-- A request that the agent answers without looking at the session, or by
dropping it. -/
inductive DesktopRequest.Harmless (primitives : Primitives)
    (loop : AgentLoop) : DesktopRequest → Prop where
  | status {next : AfterStatus} : Harmless primitives loop
      (.api (.getStatus next))
  | lock : Harmless primitives loop (.api .lock)
  | unlock {masterPassword : Utf8String}
      (refused : Refused primitives loop masterPassword) :
      Harmless primitives loop (.api (.unlock masterPassword))

theorem Refused.of_files {loop next : AgentLoop} {masterPassword : Utf8String}
    (refused : Refused primitives loop masterPassword)
    (sameFiles : next.files = loop.files) :
    Refused primitives next masterPassword := by
  intro env
  obtain ⟨text, failed⟩ := refused env
  refine ⟨text, ?_⟩
  rw [sameFiles]
  exact AgentServer.unlock_error_congr next.agent failed

theorem DesktopRequest.Harmless.of_files {loop next : AgentLoop}
    {request : DesktopRequest} (harmless : request.Harmless primitives loop)
    (sameFiles : next.files = loop.files) :
    request.Harmless primitives next := by
  cases harmless with
  | status => exact .status
  | lock => exact .lock
  | unlock refused => exact .unlock (refused.of_files sameFiles)

/-! ## The status poll -/

theorem getStatus_statusResponse (agent : AgentServer) (now : Nat)
    (failure : IoError) :
    ∃ status : DesktopClient.AgentStatus,
      DesktopClient.getStatus
          (answeredWith (agent.statusResponse now).bytes) failure =
        .ok status ∧
      status.isUnlocked = agent.vaultService.isSome := by
  have exchanged := @DesktopClient.exchangePacket_eq
    (answeredWith (agent.statusResponse now).bytes) failure .status
    [] (agent.statusResponse now) .ok (by decide) rfl rfl rfl
    (by simp [AgentServer.statusResponse, maxPayload]) rfl
  have timeout : ntohlAt (agent.statusResponse now).payload 1 =
      some (agent.timeoutRemaining now) :=
    ntohlAt_htonl [if agent.vaultService.isSome then 1 else 0] _ _
  have total : ntohlAt (agent.statusResponse now).payload 5 =
      some agent.totalEntries := by
    have atEnd := ntohlAt_htonl
      ((if agent.vaultService.isSome then 1 else 0) ::
        htonl (agent.timeoutRemaining now)) [] agent.totalEntries
    rw [List.append_nil] at atEnd
    exact atEnd
  refine ⟨⟨agent.vaultService.isSome, agent.timeoutRemaining now,
    agent.totalEntries⟩, ?_, rfl⟩
  rw [DesktopClient.getStatus, exchanged]
  simp only [bind, Except.bind, ne_eq, not_true_eq_false, if_false, timeout,
    total]
  simp only [AgentServer.statusResponse]
  cases agent.vaultService <;> rfl

/-! ## A request is handled -/

/-- A request that is handled finds the agent after an idle check. -/
theorem serve_eq {loop next : AgentLoop} {request : DesktopRequest}
    {checkedAt : Nat} {env : ServeEnv} {waits : AgentServer.Waits}
    {received : SecureBytes}
    (served : DesktopSystem.serve primitives library loop request checkedAt env
      waits = some (next, received)) :
    ∃ handled, request.Fits ∧
      handled = AgentServer.perform primitives library env
        (loop.agent.checkIdleTimeout checkedAt) (.start loop.files)
        (parseCommand (some request.command) request.payload) ∧
      next.agent = handled.agent ∧ next.files = handled.storage.files ∧
      received = (handled.response.map Response.bytes).getD [] := by
  unfold DesktopSystem.serve at served
  split at served
  · next fits =>
      obtain ⟨⟨after, reply⟩, stepped, same⟩ := Option.map_eq_some_iff.mp served
      cases same
      obtain ⟨_, agentEq, filesEq, replyEq⟩ := AgentLoop.step_round stepped
      refine ⟨_, fits, rfl, ?_⟩
      simp only [AgentServer.iterate, AgentServer.handleClient_eq,
        DesktopRequest.bytes, parseRequest_serializePacket fits,
        AgentServer.performIfAny] at agentEq filesEq replyEq
      exact ⟨agentEq, filesEq, by rw [replyEq]⟩
  · cases served

variable {loop next : AgentLoop} {request : DesktopRequest} {checkedAt : Nat}
  {env : ServeEnv} {waits : AgentServer.Waits} {received : SecureBytes}

/-- A status poll is an idle check that is answered. -/
theorem serve_status {waiting : AfterStatus}
    (served : DesktopSystem.serve primitives library loop
      (.api (.getStatus waiting)) checkedAt env waits =
        some (next, received)) :
    next.agent = loop.agent.checkIdleTimeout checkedAt ∧
      next.files = loop.files ∧
      received = (next.agent.statusResponse env.now).bytes := by
  obtain ⟨_, _, rfl, agentEq, filesEq, receivedEq⟩ := serve_eq served
  exact ⟨agentEq, filesEq, by rw [receivedEq, agentEq]; rfl⟩

theorem serve_lock
    (served : DesktopSystem.serve primitives library loop (.api .lock)
      checkedAt env waits = some (next, received)) :
    next.agent = (loop.agent.checkIdleTimeout checkedAt).lock ∧
      next.files = loop.files := by
  obtain ⟨_, _, rfl, agentEq, filesEq, _⟩ := serve_eq served
  exact ⟨agentEq, filesEq⟩

/-- A payload of one string that is sent parses to that string. -/
theorem parseString_of_fits {str : Utf8String}
    (fits : (DesktopClient.appendString [] str).length ≤ maxPayload)
    (text : String) (asked : SecureString → AgentRequest) :
    parseString (DesktopClient.appendString [] str) text asked =
      asked str.val := by
  rw [DesktopClient.appendString, length_appendPrefixed] at fits
  exact parseString_appendPrefixed
    (Nat.lt_of_le_of_lt (Nat.le_add_left _ _) (lt_of_le_maxPayload fits)) _ _

theorem serve_unlock {masterPassword : Utf8String}
    (refused : Refused primitives loop masterPassword)
    (served : DesktopSystem.serve primitives library loop
      (.api (.unlock masterPassword)) checkedAt env waits =
        some (next, received)) :
    next.agent = loop.agent.checkIdleTimeout checkedAt ∧
      next.files = loop.files ∧
      ∃ text, received = (AgentServer.refusal .error text).bytes := by
  obtain ⟨_, fits, rfl, agentEq, filesEq, receivedEq⟩ := serve_eq served
  obtain ⟨text, failed⟩ := refused env
  have failedHere := AgentServer.unlock_error_congr
    (loop.agent.checkIdleTimeout checkedAt) failed
  simp only [DesktopRequest.command, DesktopRequest.payload, ApiCall.command,
    ApiCall.payload, parseCommand, parseString_of_fits fits,
    AgentServer.perform, Storage.start, failedHere,
    AgentServer.answer] at agentEq filesEq receivedEq
  exact ⟨agentEq, filesEq, text, receivedEq⟩

/-- Only the request of an unlock is read as one. -/
theorem parsed_unlock {masterPassword : SecureString}
    (fits : request.Fits)
    (parsed : parseCommand (some request.command) request.payload =
      .unlock masterPassword) :
    ∃ typed, request = .api (.unlock typed) ∧ typed.val = masterPassword := by
  cases request with
  | getTotp service =>
      simp only [DesktopRequest.command, parseCommand, parseString] at parsed
      split at parsed <;> cases parsed
  | api call =>
      cases call with
      | unlock typed =>
          have same := (parseString_of_fits fits _ _).symm.trans parsed
          cases same
          exact ⟨typed, rfl, rfl⟩
      | getStatus waiting => cases parsed
      | lock => cases parsed
      | listEntries query waiting => cases parsed
      | getEntry service closesModal =>
          simp only [DesktopRequest.command, ApiCall.command, parseCommand,
            parseString] at parsed
          split at parsed <;> cases parsed
      | deleteEntry service searchQuery =>
          simp only [DesktopRequest.command, ApiCall.command, parseCommand,
            parseString] at parsed
          split at parsed <;> cases parsed
      | addEntry entry searchQuery =>
          simp only [DesktopRequest.command, ApiCall.command,
            parseCommand] at parsed
          split at parsed <;> cases parsed

/-- A request that leaves the timer alone is an idle check, and drops the
session at most. -/
theorem stays_of_harmless (harmless : request.Harmless primitives loop)
    (served : DesktopSystem.serve primitives library loop request checkedAt env
      waits = some (next, received)) : Stays [checkedAt] loop next := by
  cases harmless with
  | status =>
      obtain ⟨agentEq, filesEq, _⟩ := serve_status served
      exact stays_checkIdleTimeout (.inl agentEq) filesEq
  | lock =>
      obtain ⟨agentEq, filesEq⟩ := serve_lock served
      exact stays_checkIdleTimeout (.inr agentEq) filesEq
  | unlock refused =>
      obtain ⟨agentEq, filesEq, _⟩ := serve_unlock refused served
      exact stays_checkIdleTimeout (.inl agentEq) filesEq

/-- Nor does any request that finds no session, unless it opens one. -/
theorem stays_of_locked (gone : loop.agent.vaultService = none)
    (refused : ∀ masterPassword, request = .api (.unlock masterPassword) →
      Refused primitives loop masterPassword)
    (served : DesktopSystem.serve primitives library loop request checkedAt env
      waits = some (next, received)) : Stays [checkedAt] loop next := by
  obtain ⟨_, fits, rfl, agentEq, filesEq, _⟩ := serve_eq served
  rw [AgentServer.checkIdleTimeout_of_none gone] at agentEq filesEq
  have performed := @perform_locked primitives library env loop.agent
    (.start loop.files) (parseCommand (some request.command) request.payload)
    (refusalText primitives env loop) gone (by
      intro masterPassword asked
      obtain ⟨typed, same, rfl⟩ := parsed_unlock fits asked
      obtain ⟨text, failed⟩ := refused typed same env
      simp only [Storage.start, refusalText, failed])
  rw [performed] at agentEq filesEq
  refine ⟨?_, ?_, filesEq, ?_, ?_⟩
  · rw [agentEq]
  · rw [agentEq]
  · intro _
    rw [agentEq]
    exact gone
  · intro _ _ _ _
    rw [agentEq]
    exact gone

/-! ## Answers -/

/-- The answer leaves the dashboard at rest: it tells of no lock, opens no entry
that has a TOTP secret, and nothing but status polls follows it. -/
structure AnswerAtRest (call : ApiCall) (answer : Answer) : Prop where
  unlocked : ∀ told, call.tellsUnlocked answer = some told → told = true
  noSecret : ∀ entry, answer = .detail entry → entry.totpSecret.val = []
  polls : ∀ next ∈ call.follow answer, next = .getStatus .nothing

/-- A call on its way whose answer will leave the dashboard at rest, or tell of
a lock. -/
structure CallAtRest (primitives : Primitives) (loop : AgentLoop)
    (call : ApiCall) : Prop where
  harmless : (DesktopRequest.api call).Harmless primitives loop
  polls : ∀ next, call = .getStatus next → next = .nothing

/-- The status that the client sees is the one in the packet. -/
theorem exchangePacket_status {failure : IoError} {command : CommandOpcode}
    {payload resp : SecureBytes} {response : Response}
    {status : DesktopClient.Status}
    (exchanged : DesktopClient.exchangePacket (answeredWith response.bytes)
      failure command payload = .ok (status, resp)) :
    DesktopClient.Status.ofByte response.status = .ok status := by
  have rest : response.bytes.drop 4 = response.status :: response.payload := rfl
  simp only [DesktopClient.exchangePacket, answeredWith, Bool.and_self,
    Bool.not_true, Bool.false_eq_true, if_false, rest] at exchanged
  split at exchanged
  · cases exchanged
  · split at exchanged
    · cases exchanged
    · split at exchanged
      · cases exchanged
      · cases known : DesktopClient.Status.ofByte response.status with
        | error error =>
            rw [known] at exchanged
            cases exchanged
        | ok found =>
            rw [known] at exchanged
            simp only [bind, Except.bind] at exchanged
            split at exchanged
            · cases exchanged
            · cases exchanged
              rfl

/-- The promise of an unlock that was refused is rejected. -/
theorem receive_refusal {masterPassword : Utf8String} {text : SecureBytes} :
    (ApiCall.unlock masterPassword).receive
      (AgentServer.refusal .error text).bytes = .rejected := by
  simp only [ApiCall.receive, DesktopClient.unlock]
  cases exchanged : DesktopClient.exchangePacket
      (answeredWith (AgentServer.refusal .error text).bytes)
      (.unexpectedEof "failed to fill whole buffer") .unlock
      (DesktopClient.appendString [] masterPassword) with
  | error error => rfl
  | ok answer =>
      obtain ⟨status, resp⟩ := answer
      obtain rfl : DesktopClient.Status.error = status :=
        Except.ok.inj (exchangePacket_status exchanged)
      rfl

theorem AnswerAtRest.rejected {call : ApiCall}
    (atRest : CallAtRest primitives loop call) :
    AnswerAtRest call .rejected := by
  obtain ⟨harmless, polls⟩ := atRest
  cases harmless with
  | @status waiting =>
      obtain rfl := polls waiting rfl
      exact ⟨nofun, nofun, nofun⟩
  | lock => exact ⟨nofun, nofun, nofun⟩
  | unlock refused => exact ⟨nofun, nofun, nofun⟩

/-- The answer to such a call leaves the dashboard at rest, unless the session
is gone. -/
theorem receive_atRest {call : ApiCall}
    (atRest : CallAtRest primitives loop call)
    (served : DesktopSystem.serve primitives library loop (.api call) checkedAt
      env waits = some (next, received)) :
    next.agent.vaultService = none ∨
      AnswerAtRest call (call.receive received) := by
  have whenRejected := AnswerAtRest.rejected atRest
  obtain ⟨harmless, polls⟩ := atRest
  cases harmless with
  | @status waiting =>
      obtain rfl := polls waiting rfl
      obtain ⟨_, _, rfl⟩ := serve_status served
      obtain ⟨status, shown, honest⟩ := getStatus_statusResponse next.agent
        env.now (.unexpectedEof "failed to fill whole buffer")
      simp only [ApiCall.receive, shown, Answer.ofResult]
      cases session : next.agent.vaultService with
      | none => exact .inl rfl
      | some service =>
          right
          refine ⟨?_, nofun, nofun⟩
          rintro told ⟨⟩
          rw [honest, session]
          rfl
  | lock =>
      left
      rw [(serve_lock served).1]
      rfl
  | unlock refused =>
      obtain ⟨_, _, text, rfl⟩ := serve_unlock refused served
      right
      rw [receive_refusal]
      exact whenRejected

/-! ## A desktop at rest -/

/-- The dashboard shows an unlocked agent, the entry in the detail view, if
any, has no TOTP secret, and no search is about to be sent. -/
structure Dashboard.Quiet (dashboard : Dashboard) : Prop where
  noSecret : ∀ entry, dashboard.selectedDetail = some entry →
    entry.totpSecret.val = []
  noSearch : dashboard.searchPending = false
  shown : dashboard.isUnlocked = some true

theorem totpService_eq_none {dashboard : Dashboard}
    (quiet : dashboard.Quiet) : dashboard.totpService = none := by
  unfold Dashboard.totpService
  split
  · rfl
  · split
    · rfl
    · next entry selected =>
        rw [quiet.noSecret entry selected]
        rfl

/-- The dashboard is at rest, and nothing that is under way disturbs it or the
idle timer of the agent. -/
structure DesktopSystem.Quiet (primitives : Primitives)
    (system : DesktopSystem) : Prop where
  view : system.dashboard.toDashboard.Quiet
  pending : ∀ call ∈ system.dashboard.pending,
    CallAtRest primitives system.loop call
  answered : ∀ reply ∈ system.answered, AnswerAtRest reply.1 reply.2
  unawaited : ∀ request ∈ system.unawaited,
    request.Harmless primitives system.loop

namespace VaultDashboard

variable {dashboard : VaultDashboard} {call : ApiCall} {answer : Answer}

/-- A response opens no entry but the one it brings. -/
theorem settle_selectedDetail {entry : EntryDetail}
    (shown : (dashboard.settle call answer).selectedDetail = some entry) :
    dashboard.selectedDetail = some entry ∨ answer = .detail entry := by
  cases call with
  | getStatus waiting =>
      left
      cases answer <;>
        simpa [settle, Dashboard.setStatus, Dashboard.setOffline] using shown
  | listEntries query waiting =>
      left
      cases answer <;> simpa [settle, setEntries] using shown
  | getEntry service closesModal =>
      cases answer with
      | detail detail =>
          right
          obtain rfl : detail = entry := Option.some.inj shown
          rfl
      | _ => cases shown
  | _ =>
      left
      cases answer <;>
        first
          | exact shown
          | cases shown

/-- A response that tells of nothing new schedules no search. -/
theorem settle_searchPending
    (known : ∀ told, call.tellsUnlocked answer = some told →
      dashboard.isUnlocked = some told) :
    (dashboard.settle call answer).searchPending =
      dashboard.searchPending := by
  cases call with
  | getStatus waiting =>
      cases answer with
      | status status =>
          have same := known status.isUnlocked rfl
          simp only [settle, afterStatus_toDashboard, Dashboard.setStatus]
          exact if_pos same
      | _ => simp only [settle, afterStatus_toDashboard, Dashboard.setOffline]
  | listEntries query waiting =>
      cases answer <;> simp [settle, setEntries]
  | _ => cases answer <;> rfl

theorem settle_quiet (quiet : dashboard.toDashboard.Quiet)
    (atRest : AnswerAtRest call answer) :
    (dashboard.settle call answer).toDashboard.Quiet where
  noSecret := by
    intro entry shown
    rcases settle_selectedDetail shown with before | brought
    · exact quiet.noSecret entry before
    · exact atRest.noSecret entry brought
  noSearch := by
    rw [settle_searchPending, quiet.noSearch]
    intro told telling
    rw [atRest.unlocked told telling]
    exact quiet.shown
  shown := by
    rw [settle_isUnlocked]
    cases telling : call.tellsUnlocked answer with
    | none => exact quiet.shown
    | some told =>
        rw [atRest.unlocked told telling]
        rfl

end VaultDashboard

/-- No call that follows a response is an unlock. -/
theorem unlock_not_mem_follow {call : ApiCall} {answer : Answer}
    {masterPassword : Utf8String} :
    ApiCall.unlock masterPassword ∉ call.follow answer := by
  intro member
  cases call with
  | getStatus waiting =>
      cases answer <;> cases waiting <;>
        simp [ApiCall.follow, AfterStatus.follow] at member
  | listEntries query waiting =>
      cases waiting <;> simp [ApiCall.follow, AfterEntries.follow] at member
  | _ => cases answer <;> simp [ApiCall.follow] at member

/-! ## One step -/

namespace DesktopSystem

/-- An attempt to unlock with that password has not reached the agent. -/
def Unlocking (system : DesktopSystem) (masterPassword : Utf8String) : Prop :=
  .unlock masterPassword ∈ system.dashboard.pending ∨
    .api (.unlock masterPassword) ∈ system.unawaited

variable {system after : DesktopSystem} {event : DesktopEvent} {reply : Unit}

/-- Without the user there are no new attempts. -/
theorem unlocking_of_step {masterPassword : Utf8String}
    (stepped : system.step primitives library event = some (after, reply))
    (unlocking : after.Unlocking masterPassword) :
    system.Unlocking masterPassword := by
  cases event with
  | idleRound checkedAt =>
      obtain ⟨_, _, ⟨⟩⟩ := Option.map_eq_some_iff.mp stepped
      exact unlocking
  | statusTimer =>
      cases stepped
      simpa [Unlocking, VaultDashboard.fetchStatus, VaultDashboard.issue]
        using unlocking
  | searchTimer =>
      obtain ⟨_, moved, ⟨⟩⟩ := Option.map_eq_some_iff.mp stepped
      simp only [VaultDashboard.step] at moved
      split at moved
      · cases moved
        simpa [Unlocking, VaultDashboard.fetchEntries, VaultDashboard.issue]
          using unlocking
      · cases moved
  | totpTimer =>
      obtain ⟨_, _, ⟨⟩⟩ := Option.map_eq_some_iff.mp stepped
      simpa [Unlocking] using unlocking
  | handle index checkedAt env waits =>
      simp only [step] at stepped
      split at stepped
      · cases stepped
      · obtain ⟨_, _, ⟨⟩⟩ := Option.map_eq_some_iff.mp stepped
        exact unlocking.imp_left List.mem_of_mem_eraseIdx
  | handleUnawaited index checkedAt env waits =>
      simp only [step] at stepped
      split at stepped
      · cases stepped
      · obtain ⟨_, _, ⟨⟩⟩ := Option.map_eq_some_iff.mp stepped
        exact unlocking.imp_right List.mem_of_mem_eraseIdx
  | fail index sent =>
      simp only [step] at stepped
      split at stepped
      · cases stepped
      · next call found =>
          cases stepped
          rcases unlocking with waiting | left
          · exact .inl (List.mem_of_mem_eraseIdx waiting)
          · rcases List.mem_append.mp left with before | moved
            · exact .inr before
            · cases sent with
              | false => cases moved
              | true =>
                  obtain ⟨⟩ := List.mem_singleton.mp moved
                  exact .inl (List.mem_of_getElem? found)
  | arrive index =>
      simp only [step] at stepped
      split at stepped
      · cases stepped
      · cases stepped
        rcases unlocking with waiting | left
        · rw [VaultDashboard.settle_pending] at waiting
          rcases List.mem_append.mp waiting with before | follows
          · exact .inl before
          · exact absurd follows unlock_not_mem_follow
        · exact .inr left

/-- What stays so while the user does nothing: either the session is gone, and
no attempt to unlock that is still under way succeeds, or everything is at
rest. -/
structure Resting (primitives : Primitives) (system : DesktopSystem) :
    Prop where
  refused : ∀ masterPassword, system.Unlocking masterPassword →
    Refused primitives system.loop masterPassword
  calm : system.loop.agent.vaultService = none ∨ system.Quiet primitives

theorem Quiet.resting (quiet : system.Quiet primitives) :
    system.Resting primitives where
  refused := by
    intro masterPassword unlocking
    rcases unlocking with waiting | left
    · cases (quiet.pending _ waiting).harmless with
      | unlock refused => exact refused
    · cases quiet.unawaited _ left with
      | unlock refused => exact refused
  calm := .inr quiet

/-- Every request under way leaves the timer alone. -/
theorem Resting.stays_of_serve (resting : system.Resting primitives)
    {request : DesktopRequest}
    (underWay : (∃ call ∈ system.dashboard.pending, request = .api call) ∨
      request ∈ system.unawaited)
    (served : serve primitives library system.loop request checkedAt env
      waits = some (next, received)) :
    Stays [checkedAt] system.loop next := by
  rcases resting.calm with gone | quiet
  · refine stays_of_locked gone ?_ served
    rintro masterPassword rfl
    refine resting.refused masterPassword ?_
    rcases underWay with ⟨call, waiting, same⟩ | left
    · cases same
      exact .inl waiting
    · exact .inr left
  · refine stays_of_harmless ?_ served
    rcases underWay with ⟨call, waiting, rfl⟩ | left
    · exact (quiet.pending call waiting).harmless
    · exact quiet.unawaited request left

/-- A step is an idle check, if that much, for the agent. -/
theorem Resting.stays (resting : system.Resting primitives)
    (stepped : system.step primitives library event = some (after, reply)) :
    Stays event.checkedAt.toList system.loop after.loop := by
  cases event with
  | idleRound checkedAt =>
      obtain ⟨_, round, ⟨⟩⟩ := Option.map_eq_some_iff.mp stepped
      obtain ⟨_, agentEq, filesEq, _⟩ := AgentLoop.step_round round
      exact stays_checkIdleTimeout (.inl agentEq) filesEq
  | statusTimer =>
      cases stepped
      exact .refl _
  | searchTimer =>
      obtain ⟨_, _, ⟨⟩⟩ := Option.map_eq_some_iff.mp stepped
      exact .refl _
  | totpTimer =>
      obtain ⟨_, _, ⟨⟩⟩ := Option.map_eq_some_iff.mp stepped
      exact .refl _
  | handle index checkedAt env waits =>
      simp only [step] at stepped
      split at stepped
      · cases stepped
      · next call found =>
          obtain ⟨_, served, ⟨⟩⟩ := Option.map_eq_some_iff.mp stepped
          exact resting.stays_of_serve
            (.inl ⟨call, List.mem_of_getElem? found, rfl⟩) served
  | handleUnawaited index checkedAt env waits =>
      simp only [step] at stepped
      split at stepped
      · cases stepped
      · next request found =>
          obtain ⟨_, served, ⟨⟩⟩ := Option.map_eq_some_iff.mp stepped
          exact resting.stays_of_serve (.inr (List.mem_of_getElem? found))
            served
  | fail index sent =>
      simp only [step] at stepped
      split at stepped
      · cases stepped
      · cases stepped
        exact .refl _
  | arrive index =>
      simp only [step] at stepped
      split at stepped
      · cases stepped
      · cases stepped
        exact .refl _

theorem CallAtRest.of_files {call : ApiCall}
    (atRest : CallAtRest primitives loop call)
    (sameFiles : next.files = loop.files) : CallAtRest primitives next call :=
  ⟨atRest.harmless.of_files sameFiles, atRest.polls⟩

/-- A desktop at rest stays so in a step, unless the session goes. -/
theorem Quiet.step (quiet : system.Quiet primitives)
    (stepped : system.step primitives library event = some (after, reply)) :
    after.loop.agent.vaultService = none ∨ after.Quiet primitives := by
  have sameFiles := (quiet.resting.stays stepped).files
  obtain ⟨view, pending, answered, unawaited⟩ := quiet
  have pendingLater : ∀ call ∈ system.dashboard.pending,
      CallAtRest primitives after.loop call :=
    fun call waiting => CallAtRest.of_files (pending call waiting) sameFiles
  have unawaitedLater : ∀ request ∈ system.unawaited,
      request.Harmless primitives after.loop :=
    fun request left => (unawaited request left).of_files sameFiles
  cases event with
  | idleRound checkedAt =>
      obtain ⟨_, _, ⟨⟩⟩ := Option.map_eq_some_iff.mp stepped
      exact .inr ⟨view, pendingLater, answered, unawaitedLater⟩
  | statusTimer =>
      cases stepped
      refine .inr ⟨⟨view.noSecret, view.noSearch, view.shown⟩, ?_, answered,
        unawaited⟩
      intro call member
      rcases List.mem_append.mp member with before | polled
      · exact pending call before
      · obtain rfl := List.mem_singleton.mp polled
        exact ⟨.status, by rintro _ ⟨⟩; rfl⟩
  | searchTimer =>
      obtain ⟨_, moved, _⟩ := Option.map_eq_some_iff.mp stepped
      simp only [VaultDashboard.step, view.noSearch] at moved
      cases moved
  | totpTimer =>
      obtain ⟨_, polls, _⟩ := Option.map_eq_some_iff.mp stepped
      rw [totpService_eq_none view] at polls
      cases polls
  | handle index checkedAt env waits =>
      simp only [DesktopSystem.step] at stepped
      split at stepped
      · cases stepped
      · next call found =>
          obtain ⟨_, served, ⟨⟩⟩ := Option.map_eq_some_iff.mp stepped
          have member := List.mem_of_getElem? found
          rcases receive_atRest (pending call member) served with gone | atRest
          · exact .inl gone
          · refine .inr ⟨⟨view.noSecret, view.noSearch, view.shown⟩, ?_, ?_,
              unawaitedLater⟩
            · intro other waiting
              exact pendingLater other (List.mem_of_mem_eraseIdx waiting)
            · intro reply came
              rcases List.mem_append.mp came with before | now
              · exact answered reply before
              · obtain rfl := List.mem_singleton.mp now
                exact atRest
  | handleUnawaited index checkedAt env waits =>
      simp only [DesktopSystem.step] at stepped
      split at stepped
      · cases stepped
      · obtain ⟨_, _, ⟨⟩⟩ := Option.map_eq_some_iff.mp stepped
        refine .inr ⟨view, pendingLater, answered, ?_⟩
        intro request left
        exact unawaitedLater request (List.mem_of_mem_eraseIdx left)
  | fail index sent =>
      simp only [DesktopSystem.step] at stepped
      split at stepped
      · cases stepped
      · next call found =>
          cases stepped
          have atRest := pending call (List.mem_of_getElem? found)
          refine .inr ⟨⟨view.noSecret, view.noSearch, view.shown⟩, ?_, ?_, ?_⟩
          · intro other waiting
            exact pending other (List.mem_of_mem_eraseIdx waiting)
          · intro reply came
            rcases List.mem_append.mp came with before | now
            · exact answered reply before
            · obtain rfl := List.mem_singleton.mp now
              exact AnswerAtRest.rejected atRest
          · intro request left
            rcases List.mem_append.mp left with before | moved
            · exact unawaited request before
            · cases sent with
              | false => cases moved
              | true =>
                  obtain rfl := List.mem_singleton.mp moved
                  exact atRest.harmless
  | arrive index =>
      simp only [DesktopSystem.step] at stepped
      split at stepped
      · cases stepped
      · next call answer found =>
          cases stepped
          have atRest := answered _ (List.mem_of_getElem? found)
          refine .inr ⟨VaultDashboard.settle_quiet view atRest, ?_, ?_,
            unawaited⟩
          · intro other waiting
            rw [VaultDashboard.settle_pending] at waiting
            rcases List.mem_append.mp waiting with before | follows
            · exact pending other before
            · obtain rfl := atRest.polls other follows
              exact ⟨.status, by rintro _ ⟨⟩; rfl⟩
          · intro reply later
            exact answered reply (List.mem_of_mem_eraseIdx later)

theorem Resting.step (resting : system.Resting primitives)
    (stepped : system.step primitives library event = some (after, reply)) :
    after.Resting primitives := by
  have stays := resting.stays stepped
  refine ⟨?_, ?_⟩
  · intro masterPassword unlocking
    exact (resting.refused masterPassword
      (unlocking_of_step stepped unlocking)).of_files stays.files
  · rcases resting.calm with gone | quiet
    · exact .inl (stays.locked gone)
    · exact quiet.step stepped

/-! ## Runs -/

theorem Resting.run {last : DesktopSystem} {events : List DesktopEvent}
    {replies : List Unit} (resting : system.Resting primitives)
    (finished : system.run primitives library events = some (last, replies)) :
    Stays (events.filterMap DesktopEvent.checkedAt) system.loop last.loop := by
  induction events generalizing system replies with
  | nil =>
      cases finished
      exact .refl _
  | cons event events inductionHypothesis =>
      obtain ⟨middle, reply, later, stepped, rest, _⟩ := Run.run_cons finished
      have whole := (resting.stays stepped).trans
        (inductionHypothesis (resting.step stepped) rest)
      cases check : event.checkedAt with
      | none =>
          rw [check] at whole
          rwa [List.filterMap_cons_none check]
      | some checkedAt =>
          rw [check] at whole
          rwa [List.filterMap_cons_some check]

end DesktopSystem

/-- While the user does nothing, the entry in the detail view has no TOTP secret
and nothing else is under way, no request of the desktop moves the idle timer of
the agent past `t0`, and the first idle check at or after `t0` plus the idle
time drops the session. -/
theorem desktop_polling_keeps_auto_lock {start last : DesktopSystem}
    {events : List DesktopEvent} {replies : List Unit} {t0 : Nat}
    (timed : start.loop.agent.idleTimeoutSeconds ≠ 0)
    (active : start.loop.agent.lastActivity ≤ t0)
    (quiet : start.Quiet primitives)
    (finished : start.run primitives library events = some (last, replies)) :
    last.loop.agent.lastActivity ≤ t0 ∧
      ∀ checkedAt ∈ events.filterMap DesktopEvent.checkedAt,
        t0 + start.loop.agent.idleTimeoutSeconds.toNat *
            nanosecondsPerSecond ≤ checkedAt →
        last.loop.agent.vaultService = none := by
  have stays := quiet.resting.run finished
  refine ⟨by rw [stays.timer]; exact active, ?_⟩
  intro checkedAt member late
  refine stays.due timed checkedAt member ?_
  unfold AgentServer.Expired elapsedSeconds
  rw [Nat.le_div_iff_mul_le (by decide)]
  omega

/-- The poll of a code counts as activity: it starts the idle timer anew
whenever it finds a session. -/
theorem getTotp_restarts_timer {service : Utf8String} {self : VaultService}
    (kept : (loop.agent.checkIdleTimeout checkedAt).vaultService = some self)
    (served : DesktopSystem.serve primitives library loop (.getTotp service)
      checkedAt env waits = some (next, received)) :
    next.agent.lastActivity = env.now := by
  obtain ⟨_, fits, rfl, agentEq, _, _⟩ := serve_eq served
  rw [agentEq]
  simp only [DesktopRequest.command, DesktopRequest.payload, parseCommand,
    parseString_of_fits fits, Function.comp_apply, AgentServer.perform,
    AgentServer.serve_of_some kept]

end Polling

namespace Symbolic

/-- A vault with one account that has a TOTP secret. -/
def totpVault (totpSecret : SecureString) : Vault :=
  Vault.empty.store ⟨service, [0x75], [0x41], totpSecret, 7⟩

/-- The dashboard of an unlocked agent, with that account open. -/
def dashboard (totpSecret : Utf8String) : VaultDashboard where
  status := some ⟨true, 3, 1⟩
  agentOffline := false
  selectedDetail :=
    some ⟨⟨service, rfl⟩, ⟨[0x75], rfl⟩, ⟨[0x41], rfl⟩, totpSecret⟩
  searchQuery := ⟨[], rfl⟩
  searchPending := false
  entries := [⟨⟨service, rfl⟩, ⟨[0x75], rfl⟩⟩]
  selectedService := some ⟨service, rfl⟩
  loadingEntries := false
  loadingDetail := false
  isAddModalOpen := false
  pending := []

/-- An agent with an idle time of three seconds, active at time zero, and the
desktop. -/
def desktop (totpSecret : Utf8String) : DesktopSystem where
  loop := ⟨unlockedAgent 3 (totpVault totpSecret.val) 0,
    files (totpVault totpSecret.val) masterPassword⟩
  dashboard := dashboard totpSecret
  answered := []
  unawaited := []

def withSecret : DesktopSystem := desktop ⟨testSecret, by decide +kernel⟩

def withoutSecret : DesktopSystem := desktop ⟨[], rfl⟩

/-- The request reaches the agent a tenth of a second after an idle check. -/
def tenthLater : AgentServer.Waits := ⟨100000000, [0, 0, 0], 0, 0⟩

/-- The detail view polls a code, which is handled at that time. -/
def totpPoll (checkedAt : Nat) (time : UInt64) : List DesktopEvent :=
  [.totpTimer,
    .handleUnawaited 0 checkedAt (serveEnv (checkedAt + 100000000) time)
      tenthLater]

/-- The dashboard polls the status, and the answer arrives. -/
def statusPoll (checkedAt : Nat) (time : UInt64) : List DesktopEvent :=
  [.statusTimer,
    .handle 0 checkedAt (serveEnv (checkedAt + 100000000) time) tenthLater,
    .arrive 0]

/-- Three and a half seconds without input: the detail view polls a code every
second, the dashboard its status after two. -/
def totpEvents : List DesktopEvent :=
  totpPoll 900000000 31 ++ (totpPoll 1900000000 32 ++
    (statusPoll 2000000000 32 ++ (totpPoll 2900000000 33 ++
      [.idleRound 3500000000])))

/-- The same without the polls of the detail view. -/
def statusEvents : List DesktopEvent :=
  statusPoll 2000000000 32 ++ [.idleRound 3500000000]

/-- The idle timer and whether there is a session. -/
def timer (system : DesktopSystem) : Nat × Bool :=
  (system.loop.agent.lastActivity, system.loop.agent.vaultService.isSome)

theorem statusEvents_run :
    ∃ last replies, withoutSecret.run primitives library statusEvents =
      some (last, replies) :=
  have ran : (withoutSecret.run primitives library statusEvents).isSome :=
    by decide +kernel
  ⟨_, _, (Option.some_get ran).symm⟩

end Symbolic

open Symbolic in
/-- With the secret, the last poll has moved the timer to second three, and the
check half a second later, past the idle time of three seconds without input,
keeps the session. -/
theorem totp_poll_defeats_auto_lock :
    withSecret.loop.agent.lastActivity = 0 ∧
      3500000000 ∈ totpEvents.filterMap DesktopEvent.checkedAt ∧
      withSecret.loop.agent.idleTimeoutSeconds.toNat * nanosecondsPerSecond ≤
        3500000000 ∧
      (withSecret.run primitives library totpEvents).map
        (fun ended => timer ended.1) = some (3000000000, true) :=
  ⟨rfl, by decide, by decide, by decide +kernel⟩

open Symbolic in
theorem desktop_polling_keeps_auto_lock_status :
    ∃ last replies, withoutSecret.run primitives library statusEvents =
        some (last, replies) ∧
      last.loop.agent.lastActivity ≤ 0 ∧
      last.loop.agent.vaultService = none := by
  obtain ⟨last, replies, finished⟩ := statusEvents_run
  obtain ⟨settled, dropped⟩ := @desktop_polling_keeps_auto_lock primitives
    library withoutSecret last statusEvents replies 0 (by decide)
    (Nat.le_refl 0)
    ⟨⟨by
      intro entry selected
      cases selected
      rfl, rfl, rfl⟩, nofun, nofun, nofun⟩
    finished
  exact ⟨last, replies, finished, settled,
    dropped 3500000000 (by decide) (by decide)⟩

end DuckPass
