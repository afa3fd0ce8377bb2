/-
Module: DuckPass.Proofs.DashboardCells
Purpose: What one step of `VaultDashboard` does to the entry in the detail
  view and to the list of entries: which calls in flight are still to write
  them, and which responses do.
Trusted boundary: as for `DuckPass.System.VaultDashboard`
Main exports: Cell, ApiCall.writes, ApiCall.givesUp, ApiCall.listed,
  VaultDashboard.Written, VaultDashboard.Kept, VaultDashboard.Effect,
  VaultDashboard.settle_cell, VaultDashboard.step_cases,
  VaultDashboard.drain
-/
import DuckPass.Lib.InFlight
import DuckPass.Lib.Run
import DuckPass.System.VaultDashboard

namespace DuckPass

open DesktopClient (AgentStatus EntrySummary EntryDetail)
open InFlight

/-! ## Who writes what -/

/-- The parts of the state that show a session. -/
inductive Cell where
  | detail
  | entries

/-- Whether what waits for the status goes on to write the cell. -/
def AfterStatus.writes : AfterStatus → Cell → Bool
  | initialLoad, .entries => true
  | entries, .entries => true
  | select _, .detail => true
  | _, _ => false

def AfterEntries.writes : AfterEntries → Cell → Bool
  | statusAndSelect _, .detail => true
  | _, _ => false

/-- Whether the response, or what follows it, may write the cell. -/
def ApiCall.writes : Cell → ApiCall → Bool
  | cell, getStatus next => next.writes cell
  | .detail, listEntries _ next => next.writes .detail
  | .entries, listEntries _ _ => true
  | .detail, getEntry _ _ => true
  | .entries, getEntry _ _ => false
  | .detail, unlock _ => false
  | .entries, unlock _ => true
  | _, lock | _, deleteEntry _ _ | _, addEntry _ _ => true

/-- The response after which the cell is not written, though the call might
have led to it. -/
def ApiCall.givesUp : ApiCall → Answer → Cell → Bool
  | getStatus .initialLoad, .status status, .entries => !status.isUnlocked
  | getStatus .initialLoad, .rejected, .entries => true
  | unlock _, .rejected, .entries => true
  | lock, .rejected, _ => true
  | deleteEntry _ _, .rejected, _ => true
  | addEntry _ _, .rejected, _ => true
  | _, _, _ => false

/-- What `fetchEntries` makes of a response. -/
def ApiCall.listed : ApiCall → Answer → Option (List EntrySummary)
  | listEntries _ _, .entries entries => some entries
  | listEntries _ _, _ => some []
  | _, _ => none

/-- What the status response says of the agent. -/
def ApiCall.tellsUnlocked : ApiCall → Answer → Option Bool
  | getStatus _, .status status => some status.isUnlocked
  | _, _ => none

/-! The calls that follow. -/

def AfterStatus.follow (status : Option AgentStatus) :
    AfterStatus → List ApiCall
  | nothing => []
  | initialLoad =>
      if status.map AgentStatus.isUnlocked = some true then
        [.listEntries emptyText .nothing]
      else []
  | entries => [.listEntries emptyText .nothing]
  | select service => [.getEntry service true]

def AfterEntries.follow : AfterEntries → List ApiCall
  | nothing => []
  | status => [.getStatus .nothing]
  | statusAndSelect service => [.getStatus (.select service)]

/-- The calls that the handler sends when the response has come. -/
def ApiCall.follow : ApiCall → Answer → List ApiCall
  | getStatus next, .status status => next.follow (some status)
  | getStatus next, _ => next.follow none
  | listEntries _ next, _ => next.follow
  | unlock _, .done => [.getStatus .entries]
  | lock, .done => [.getStatus .nothing]
  | deleteEntry _ searchQuery, .done => [.listEntries searchQuery .status]
  | addEntry entry searchQuery, .done =>
      [.listEntries searchQuery (.statusAndSelect entry.service)]
  | _, _ => []

/-- How many calls come one after the other, this one first, if they are all
rejected. -/
def ApiCall.rounds : ApiCall → Nat
  | .getStatus .entries | .getStatus (.select _) => 2
  | .listEntries _ .status => 2
  | .listEntries _ (.statusAndSelect _) => 3
  | _ => 1

namespace VaultDashboard

/-- The response has written the cell. -/
def Written (call : ApiCall) (answer : Answer)
    (before after : VaultDashboard) : Cell → Prop
  | .detail =>
      after.selectedDetail = none ∨
        (∃ service closesModal detail,
          call = .getEntry service closesModal ∧ answer = .detail detail ∧
            after.selectedDetail = some detail) ∧
          after.selectedService = before.selectedService
  | .entries =>
      call.listed answer = some after.entries ∨
        call = .lock ∧ answer = .done ∧ after.entries = []

/-- The cell, and the selection that belongs to it, are as before. -/
def Kept (before after : VaultDashboard) : Cell → Prop
  | .detail => after.selectedDetail = before.selectedDetail ∧
      after.selectedService = before.selectedService
  | .entries => after.entries = before.entries

variable {dashboard next : VaultDashboard} {call : ApiCall} {answer : Answer}
  {event : DashboardEvent} {status : Option AgentStatus}

/-! ## What follows a response -/

section Following

variable (dashboard status)

@[simp] theorem afterStatus_pending (waiting : AfterStatus) :
    (dashboard.afterStatus status waiting).pending =
      dashboard.pending ++ waiting.follow status := by
  cases waiting with
  | nothing => exact (List.append_nil _).symm
  | initialLoad =>
      simp only [afterStatus, AfterStatus.follow]
      split
      · rfl
      · exact (List.append_nil _).symm
  | entries => rfl
  | select service => rfl

@[simp] theorem afterStatus_toDashboard (waiting : AfterStatus) :
    (dashboard.afterStatus status waiting).toDashboard =
      dashboard.toDashboard := by
  cases waiting with
  | initialLoad =>
      simp only [afterStatus]
      split <;> rfl
  | _ => rfl

@[simp] theorem afterStatus_entries (waiting : AfterStatus) :
    (dashboard.afterStatus status waiting).entries =
      dashboard.entries := by
  cases waiting with
  | initialLoad =>
      simp only [afterStatus]
      split <;> rfl
  | _ => rfl

@[simp] theorem afterEntries_pending (waiting : AfterEntries) :
    (dashboard.afterEntries waiting).pending =
      dashboard.pending ++ waiting.follow := by
  cases waiting with
  | nothing => exact (List.append_nil _).symm
  | _ => rfl

@[simp] theorem afterEntries_toDashboard (waiting : AfterEntries) :
    (dashboard.afterEntries waiting).toDashboard =
      dashboard.toDashboard := by
  cases waiting <;> rfl

@[simp] theorem afterEntries_selectedService (waiting : AfterEntries) :
    (dashboard.afterEntries waiting).selectedService =
      dashboard.selectedService := by
  cases waiting <;> rfl

@[simp] theorem afterEntries_entries (waiting : AfterEntries) :
    (dashboard.afterEntries waiting).entries = dashboard.entries := by
  cases waiting <;> rfl

end Following

/-! ## A response -/

/-- What an answer leaves on its way is the rest and what follows it. -/
theorem settle_pending :
    (dashboard.settle call answer).pending =
      dashboard.pending ++ call.follow answer := by
  cases call with
  | getStatus waiting =>
      cases answer <;> simp [settle, ApiCall.follow]
  | listEntries query waiting =>
      cases answer <;> simp [settle, ApiCall.follow, setEntries]
  | getEntry service closesModal =>
      cases answer <;> simp [settle, ApiCall.follow, setDetail]
  | unlock masterPassword =>
      cases answer <;> simp [settle, ApiCall.follow, fetchStatus, issue]
  | lock =>
      cases answer <;>
        simp [settle, ApiCall.follow, fetchStatus, issue, deselect]
  | deleteEntry service searchQuery =>
      cases answer <;>
        simp [settle, ApiCall.follow, fetchEntries, issue, deselect]
  | addEntry entry searchQuery =>
      cases answer <;> simp [settle, ApiCall.follow, fetchEntries, issue]

/-- Only a status response changes what is known of the agent. -/
theorem settle_isUnlocked :
    (dashboard.settle call answer).isUnlocked =
      (call.tellsUnlocked answer).elim dashboard.isUnlocked some := by
  cases call with
  | getStatus waiting =>
      cases answer <;> simp only [settle, afterStatus_toDashboard] <;> rfl
  | listEntries query waiting =>
      cases answer <;> simp only [settle, afterEntries_toDashboard] <;> rfl
  | _ => cases answer <;> rfl

/-- What a response does to a cell: a call that is to write it goes out, or
the response writes it, or it is as before, and the call was not to write it
or has given it up. -/
inductive Effect (call : ApiCall) (answer : Answer)
    (before after : VaultDashboard) (cell : Cell) : Prop where
  | follows
      (awaited : Awaited (ApiCall.writes cell) (call.follow answer))
  | writes (ours : call.writes cell = true)
      (written : Written call answer before after cell)
  | keeps (kept : Kept before after cell)
      (ends : call.writes cell = true → call.givesUp answer cell = true)

theorem Kept.refl (dashboard : VaultDashboard) (cell : Cell) :
    Kept dashboard dashboard cell := by
  cases cell with
  | detail => exact ⟨rfl, rfl⟩
  | entries => exact rfl

/-- The handlers of a lock, an unlock, a deletion and an addition do nothing
when their call fails. -/
theorem effect_rejected {cell : Cell}
    (same : dashboard.settle call .rejected = dashboard)
    (ends : call.writes cell = true →
      call.givesUp .rejected cell = true) :
    Effect call .rejected dashboard (dashboard.settle call .rejected) cell := by
  rw [same]
  exact .keeps (Kept.refl dashboard cell) ends

/-- The detail view after a response. -/
theorem settle_detail (admitted : call.admits answer = true) :
    Effect call answer dashboard (dashboard.settle call answer) .detail := by
  cases call with
  | getStatus waiting =>
      cases waiting with
      | select service =>
          cases answer <;> exact .follows (awaited_singleton.mpr rfl)
      | initialLoad =>
          refine .keeps ?_ nofun
          cases answer <;> simp only [settle, afterStatus] <;> split <;>
            exact ⟨rfl, rfl⟩
      | _ => cases answer <;> exact .keeps ⟨rfl, rfl⟩ nofun
  | listEntries query waiting =>
      cases waiting with
      | statusAndSelect service =>
          cases answer <;> exact .follows (awaited_singleton.mpr rfl)
      | _ => cases answer <;> exact .keeps ⟨rfl, rfl⟩ nofun
  | getEntry service closesModal =>
      cases answer with
      | detail detail =>
          exact .writes rfl
            (.inr ⟨⟨service, closesModal, detail, rfl, rfl, rfl⟩, rfl⟩)
      | _ => exact .writes rfl (.inl rfl)
  | unlock masterPassword =>
      cases answer <;> exact .keeps ⟨rfl, rfl⟩ nofun
  | lock =>
      cases answer with
      | done => exact .writes rfl (.inl rfl)
      | rejected => exact effect_rejected rfl fun _ => rfl
      | _ => cases admitted
  | deleteEntry service searchQuery =>
      cases answer with
      | done => exact .writes rfl (.inl rfl)
      | rejected => exact effect_rejected rfl fun _ => rfl
      | _ => cases admitted
  | addEntry entry searchQuery =>
      cases answer with
      | done => exact .follows (awaited_singleton.mpr rfl)
      | rejected => exact effect_rejected rfl fun _ => rfl
      | _ => cases admitted

/-- The list of entries after a response. -/
theorem settle_entries (admitted : call.admits answer = true) :
    Effect call answer dashboard (dashboard.settle call answer) .entries := by
  cases call with
  | getStatus waiting =>
      cases waiting with
      | initialLoad =>
          cases answer with
          | status status =>
              cases unlocked : status.isUnlocked with
              | true =>
                  refine .follows ?_
                  simp [ApiCall.follow, AfterStatus.follow, unlocked,
                    ApiCall.writes]
              | false =>
                  refine .keeps ?_ fun _ => ?_
                  · simp [settle, Kept]
                  · simp [ApiCall.givesUp, unlocked]
          | rejected =>
              refine .keeps ?_ fun _ => rfl
              simp [settle, Kept]
          | _ => cases admitted
      | entries =>
          cases answer <;> exact .follows (awaited_singleton.mpr rfl)
      | _ => cases answer <;> exact .keeps rfl nofun
  | listEntries query waiting =>
      refine .writes rfl (.inl ?_)
      cases answer <;> simp [settle, ApiCall.listed, setEntries]
  | getEntry service closesModal =>
      cases answer <;> exact .keeps rfl nofun
  | lock =>
      cases answer with
      | done => exact .writes rfl (.inr ⟨rfl, rfl, rfl⟩)
      | rejected => exact effect_rejected rfl fun _ => rfl
      | _ => cases admitted
  | _ =>
      cases answer with
      | done => exact .follows (awaited_singleton.mpr rfl)
      | rejected => exact effect_rejected rfl fun _ => rfl
      | _ => cases admitted

/-- What an answer does to a cell of the dashboard. -/
theorem settle_cell (admitted : call.admits answer = true) (cell : Cell) :
    Effect call answer dashboard (dashboard.settle call answer) cell := by
  cases cell with
  | detail => exact settle_detail admitted
  | entries => exact settle_entries admitted

/-! A response that gives a cell up leaves it, and leads to no call. -/

/-- An answer that gives a cell up is refused, or tells of a lock. -/
theorem givesUp_cases {cell : Cell}
    (ends : call.givesUp answer cell = true) :
    (∀ dashboard : VaultDashboard, dashboard.settle call answer = dashboard) ∧
        call.follow answer = [] ∧ call.tellsUnlocked answer = none ∨
      call = .getStatus .initialLoad ∧ cell = .entries ∧
        (answer = .rejected ∨
          ∃ status, answer = .status status ∧ status.isUnlocked = false) := by
  cases call with
  | getStatus waiting =>
      cases waiting with
      | initialLoad =>
          cases cell with
          | detail => cases answer <;> cases ends
          | entries =>
              refine .inr ⟨rfl, rfl, ?_⟩
              cases answer with
              | status status =>
                  exact .inr
                    ⟨status, rfl, by simpa [ApiCall.givesUp] using ends⟩
              | rejected => exact .inl rfl
              | _ => cases ends
      | _ => cases answer <;> cases ends
  | listEntries query waiting => cases ends
  | getEntry service closesModal => cases ends
  | _ =>
      cases answer with
      | rejected => exact .inl ⟨fun _ => rfl, rfl, rfl⟩
      | _ => cases ends

/-- Nothing follows it. -/
theorem follow_of_givesUp {cell : Cell}
    (ends : call.givesUp answer cell = true) : call.follow answer = [] := by
  obtain ⟨-, follow, -⟩ | ⟨rfl, -, rfl | ⟨status, rfl, locked⟩⟩ :=
    givesUp_cases ends
  · exact follow
  · rfl
  · simp [ApiCall.follow, AfterStatus.follow, locked]

/-- It leaves the cell alone. -/
theorem kept_of_givesUp {cell : Cell}
    (ends : call.givesUp answer cell = true) :
    Kept dashboard (dashboard.settle call answer) cell := by
  obtain ⟨same, -⟩ | ⟨rfl, rfl, rfl | ⟨status, rfl, -⟩⟩ :=
    givesUp_cases ends
  · rw [same]
    exact Kept.refl dashboard cell
  · simp [Kept, settle]
  · simp [Kept, settle]

/-- It does not tell of a session. -/
theorem tells_of_givesUp {cell : Cell}
    (ends : call.givesUp answer cell = true) :
    call.tellsUnlocked answer ≠ some true := by
  obtain ⟨-, -, silent⟩ | ⟨rfl, -, rfl | ⟨status, rfl, locked⟩⟩ :=
    givesUp_cases ends
  · rw [silent]
    exact nofun
  · exact nofun
  · exact fun unlocked =>
      Bool.false_ne_true (locked.symm.trans (Option.some.inj unlocked))

/-! ## A step -/

/-- A step that no response belongs to: calls may go out, and a selection is
followed by the call for its entry. -/
structure Asks (before after : VaultDashboard) (sent : List ApiCall) :
    Prop where
  pending : after.pending = before.pending ++ sent
  isUnlocked : after.isUnlocked = before.isUnlocked
  entries : after.entries = before.entries
  selectedDetail : after.selectedDetail = before.selectedDetail
  selectedService : after.selectedService = before.selectedService ∨
    Awaited (ApiCall.writes .detail) sent

/-- A step that asks nothing and touches nothing. -/
theorem asks_none (pending : next.pending = dashboard.pending)
    (isUnlocked : next.isUnlocked = dashboard.isUnlocked)
    (entries : next.entries = dashboard.entries)
    (selectedDetail : next.selectedDetail = dashboard.selectedDetail)
    (selectedService : next.selectedService = dashboard.selectedService) :
    Asks dashboard next [] :=
  ⟨by rw [pending, List.append_nil], isUnlocked, entries, selectedDetail,
    .inl selectedService⟩

/-- The step settles a call that is in flight, or it only asks. -/
theorem step_cases (stepped : dashboard.step event = some (next, ())) :
    (∃ index answer call, event = .settled index answer ∧
      dashboard.pending[index]? = some call ∧ call.admits answer = true ∧
      next = (dashboard.remove index).settle call answer) ∨
    (∀ index answer, event ≠ .settled index answer) ∧
      ∃ sent, Asks dashboard next sent := by
  cases event with
  | settled index answer =>
      left
      simp only [step] at stepped
      split at stepped
      · cases stepped
      · rename_i call found
        split at stepped
        · rename_i admitted
          cases stepped
          exact ⟨index, answer, call, rfl, found, admitted, rfl⟩
        · cases stepped
  | poll =>
      cases stepped
      exact .inr ⟨nofun, [_], rfl, rfl, rfl, rfl, .inl rfl⟩
  | searchTimer =>
      simp only [step] at stepped
      split at stepped
      · cases stepped
        exact .inr ⟨nofun, [_], rfl, rfl, rfl, rfl, .inl rfl⟩
      · cases stepped
  | search query =>
      simp only [step] at stepped
      split at stepped
      · cases stepped
        refine .inr ⟨nofun, [], ?_⟩
        unfold setSearchQuery
        split <;> exact asks_none rfl rfl rfl rfl rfl
      · cases stepped
  | select service =>
      simp only [step] at stepped
      split at stepped
      · cases stepped
        exact .inr ⟨nofun, [_], rfl, rfl, rfl, rfl,
          .inr (awaited_singleton.mpr rfl)⟩
      · cases stepped
  | addNew =>
      simp only [step] at stepped
      split at stepped
      · cases stepped
        exact .inr ⟨nofun, [], asks_none rfl rfl rfl rfl rfl⟩
      · cases stepped
  | closeModal =>
      cases stepped
      exact .inr ⟨nofun, [], asks_none rfl rfl rfl rfl rfl⟩
  | addSubmit entry =>
      simp only [step] at stepped
      split at stepped
      · cases stepped
        exact .inr ⟨nofun, [_], rfl, rfl, rfl, rfl, .inl rfl⟩
      · cases stepped
  | delete =>
      obtain ⟨service, -, moved⟩ := Option.map_eq_some_iff.mp stepped
      cases moved
      exact .inr ⟨nofun, [_], rfl, rfl, rfl, rfl, .inl rfl⟩
  | lock =>
      simp only [step] at stepped
      split at stepped
      · cases stepped
        exact .inr ⟨nofun, [_], rfl, rfl, rfl, rfl, .inl rfl⟩
      · cases stepped
  | unlock masterPassword =>
      simp only [step] at stepped
      split at stepped
      · cases stepped
        exact .inr ⟨nofun, [_], rfl, rfl, rfl, rfl, .inl rfl⟩
      · cases stepped

/-! ## Rejecting what is in flight -/

/-- Being left alone goes both ways. -/
theorem Kept.symm {cell : Cell} (kept : Kept dashboard next cell) :
    Kept next dashboard cell := by
  cases cell with
  | detail => exact ⟨kept.1.symm, kept.2.symm⟩
  | entries => exact Eq.symm kept

/-- A cell that two steps leave alone is left alone. -/
theorem Kept.trans {last : VaultDashboard} {cell : Cell}
    (first : Kept dashboard next cell) (second : Kept next last cell) :
    Kept dashboard last cell := by
  cases cell with
  | detail => exact ⟨second.1.trans first.1, second.2.trans first.2⟩
  | entries => exact Eq.trans second first

/-- A refused request is followed by fewer. -/
theorem rounds_follow (call : ApiCall) :
    ((call.follow .rejected).map ApiCall.rounds).sum < call.rounds := by
  cases call with
  | getStatus waiting =>
      cases waiting <;>
        simp [ApiCall.follow, AfterStatus.follow, ApiCall.rounds]
  | listEntries query waiting =>
      cases waiting <;>
        simp [ApiCall.follow, AfterEntries.follow, ApiCall.rounds]
  | _ => exact Nat.zero_lt_one

/-- What follows a refused request writes no cell that it did not write itself.
-/
theorem not_awaited_follow {cell : Cell}
    (silent : call.writes cell = false) :
    ¬ Awaited (ApiCall.writes cell) (call.follow .rejected) := by
  cases call with
  | getStatus waiting =>
      cases waiting <;> cases cell <;>
        simp_all [ApiCall.writes, AfterStatus.writes, ApiCall.follow,
          AfterStatus.follow, AfterEntries.writes]
  | listEntries query waiting =>
      cases waiting <;> cases cell <;>
        simp_all [ApiCall.writes, AfterStatus.writes, ApiCall.follow,
          AfterEntries.follow, AfterEntries.writes]
  | _ => exact not_awaited_nil

/-- Every request may be refused. -/
theorem admits_rejected : call.admits .rejected = true := by
  cases call <;> rfl

theorem tellsUnlocked_rejected : call.tellsUnlocked .rejected = none := by
  cases call <;> rfl

/-- The first call in flight is rejected. -/
theorem step_rejected {rest : List ApiCall}
    (pending : dashboard.pending = call :: rest) :
    dashboard.step (.settled 0 .rejected) =
      some ((dashboard.remove 0).settle call .rejected, ()) := by
  simp only [step, pending, List.getElem?_cons_zero]
  rw [if_pos admits_rejected]

/-- The first call in flight, which is not to write the cell, is rejected. -/
def Rejects (cell : Cell) (dashboard : VaultDashboard)
    (event : DashboardEvent) : Prop :=
  event = .settled 0 .rejected ∧ ∃ call, dashboard.pending[0]? = some call ∧
    call.writes cell = false

/-- Where nothing in flight is to write a cell, everything in flight may come
to its end with the cell as it is. -/
theorem drain {cell : Cell}
    (silent : ¬ Awaited (ApiCall.writes cell) dashboard.pending) :
    ∃ events last replies,
      Run.run step dashboard events = some (last, replies) ∧
        Run.Along step (Rejects cell) dashboard events ∧
          last.pending = [] ∧ Kept dashboard last cell ∧
            last.isUnlocked = dashboard.isUnlocked := by
  generalize rounds : (dashboard.pending.map ApiCall.rounds).sum = bound
  induction bound using Nat.strong_induction_on generalizing dashboard with
  | _ bound inductionHypothesis =>
      cases pending : dashboard.pending with
      | nil =>
          exact ⟨[], dashboard, [], rfl, trivial, pending,
            Kept.refl dashboard cell, rfl⟩
      | cons call rest =>
          have idle : ¬ call.writes cell = true := fun writes =>
            silent ⟨call, by rw [pending]; exact List.mem_cons_self, writes⟩
          have later : ¬ Awaited (ApiCall.writes cell) rest := by
            rintro ⟨other, member, writes⟩
            exact silent ⟨other,
              by rw [pending]; exact List.mem_cons_of_mem call member, writes⟩
          have quiet := not_awaited_follow (Bool.eq_false_iff.mpr idle)
          let next := (dashboard.remove 0).settle call .rejected
          have left : next.pending = rest ++ call.follow .rejected := by
            rw [settle_pending]
            simp [remove, pending]
          have kept : Kept dashboard next cell := by
            cases @settle_cell (dashboard.remove 0) _ _ admits_rejected
              cell with
            | follows awaited => exact absurd awaited quiet
            | writes ours written => exact absurd ours idle
            | keeps kept ends => exact kept
          have unlocked : next.isUnlocked = dashboard.isUnlocked := by
            rw [settle_isUnlocked, tellsUnlocked_rejected]
            rfl
          have fewer : (next.pending.map ApiCall.rounds).sum < bound := by
            have less := rounds_follow call
            rw [← rounds, left, pending, List.map_append, List.sum_append,
              List.map_cons, List.sum_cons]
            omega
          have still : ¬ Awaited (ApiCall.writes cell) next.pending := by
            rw [left, awaited_append]
            exact fun awaited => awaited.elim later quiet
          obtain ⟨events, last, replies, ran, along, done, same, told⟩ :=
            inductionHypothesis _ fewer still rfl
          refine ⟨.settled 0 .rejected :: events, last, () :: replies, ?_,
            Run.along_cons ⟨rfl, call, ?_, Bool.eq_false_iff.mpr idle⟩
              (step_rejected pending) along,
            done, kept.trans same, told.trans unlocked⟩
          rotate_left
          · rw [pending, List.getElem?_cons_zero]
          rw [Run.run, step_rejected pending]
          dsimp only
          rw [ran]

end VaultDashboard

end DuckPass
