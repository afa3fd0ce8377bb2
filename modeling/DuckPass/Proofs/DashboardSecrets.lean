/-
Module: DuckPass.Proofs.DashboardSecrets
Purpose: What `VaultDashboard` still holds when the agent is locked.  The
  poll that tells of a lock clears nothing, and a response that comes after it
  brings back what it carries.
Trusted boundary: as for `DuckPass.System.VaultDashboard`
Main exports: VaultDashboard.Locked, VaultDashboard.Held,
  VaultDashboard.Exposes, VaultDashboard.Guarded, VaultDashboard.Concealed,
  locked_dashboard_holds_nothing
-/
import DuckPass.Lib.Run
import DuckPass.Proofs.DashboardCells

namespace DuckPass

open DesktopClient (AgentStatus EntrySummary EntryDetail)
open InFlight

namespace VaultDashboard

/-- The latest status response says `is_unlocked = false`. -/
def Locked (dashboard : VaultDashboard) : Prop :=
  dashboard.isUnlocked = some false

/-- The cell holds something of a session. -/
def Held (dashboard : VaultDashboard) : Cell → Prop
  | .detail => dashboard.selectedDetail ≠ none
  | .entries => dashboard.entries ≠ []

/-! ## Responses that expose -/

/-- The response tells of a lock while the cell holds something, and the
handler that waits for it does not load the cell anew; or it brings something
into the cell of a dashboard that knows of a lock. -/
def Exposes (dashboard : VaultDashboard) (cell : Cell) :
    ApiCall → Answer → Prop
  | .getStatus waiting, .status status =>
      status.isUnlocked = false ∧ dashboard.Held cell ∧
        ¬ Awaited (ApiCall.writes cell) (waiting.follow (some status))
  | .getEntry _ _, .detail _ => cell = .detail ∧ dashboard.Locked
  | .listEntries _ _, .entries entries =>
      cell = .entries ∧ dashboard.Locked ∧ entries ≠ []
  | _, _ => False

/-- A response that exposes a cell, or fails to clear a cell that a lock has
exposed, comes while another call that is to write the cell is still in
flight. -/
def Guarded (dashboard : VaultDashboard) : DashboardEvent → Prop
  | .settled index answer =>
      ∀ call, dashboard.pending[index]? = some call → ∀ cell,
        dashboard.Exposes cell call answer ∨
            call.givesUp answer cell = true ∧ dashboard.Locked ∧
              dashboard.Held cell →
          Awaited (ApiCall.writes cell) (dashboard.pending.eraseIdx index)
  | _ => True

/-- Until a response tells of a lock, nothing is exposed. -/
theorem guarded_of_unlocked {dashboard : VaultDashboard} {index : Nat}
    {answer : Answer} (unlocked : dashboard.isUnlocked ≠ some false)
    (tells : ∀ status, answer = .status status → status.isUnlocked = true) :
    dashboard.Guarded (.settled index answer) := by
  intro call found cell exposes
  exfalso
  obtain exposes | ⟨-, locked, -⟩ := exposes
  · cases call with
    | getStatus waiting =>
        cases answer with
        | status status =>
            exact Bool.false_ne_true (exposes.1.symm.trans (tells status rfl))
        | _ => cases exposes
    | getEntry service closesModal =>
        cases answer with
        | detail detail => exact unlocked exposes.2
        | _ => cases exposes
    | listEntries query waiting =>
        cases answer with
        | entries entries => exact unlocked exposes.2.1
        | _ => cases exposes
    | _ => cases exposes
  · exact unlocked locked

/-- Nor by a status, while nothing is held. -/
theorem guarded_of_empty {dashboard : VaultDashboard} {index : Nat}
    {status : AgentStatus} (noDetail : dashboard.selectedDetail = none)
    (noEntries : dashboard.entries = []) :
    dashboard.Guarded (.settled index (.status status)) := by
  have empty (cell : Cell) : ¬ dashboard.Held cell := by
    cases cell with
    | detail => exact not_not.mpr noDetail
    | entries => exact not_not.mpr noEntries
  intro call found cell exposes
  exfalso
  obtain exposes | ⟨-, -, held⟩ := exposes
  · cases call with
    | getStatus waiting => exact empty cell exposes.2.1
    | _ => cases exposes
  · exact empty cell held

/-! ## Runs -/

/-- Once the dashboard knows of a lock, a call that is to write it is in
flight for every cell that holds something. -/
def Covered (dashboard : VaultDashboard) : Prop :=
  ∀ cell, dashboard.Locked → dashboard.Held cell →
    Awaited (ApiCall.writes cell) dashboard.pending

variable {dashboard next : VaultDashboard} {event : DashboardEvent}
  {call : ApiCall} {answer : Answer} {cell : Cell}

theorem covered_initial : Covered initial := by
  intro cell locked
  cases locked

theorem Held.of_kept (kept : Kept dashboard next cell)
    (held : next.Held cell) : dashboard.Held cell := by
  cases cell with
  | detail =>
      intro none
      exact held (kept.1.trans none)
  | entries =>
      intro none
      exact held (Eq.trans kept none)

theorem Held.of_asks {sent : List ApiCall} (asks : Asks dashboard next sent)
    (held : next.Held cell) : dashboard.Held cell := by
  cases cell with
  | detail =>
      intro none
      exact held (asks.selectedDetail.trans none)
  | entries =>
      intro none
      exact held (asks.entries.trans none)

theorem tells_eq_some {told : Bool}
    (telling : call.tellsUnlocked answer = some told) :
    ∃ waiting status, call = .getStatus waiting ∧ answer = .status status ∧
      status.isUnlocked = told := by
  cases call with
  | getStatus waiting =>
      cases answer with
      | status status =>
          exact ⟨waiting, status, rfl, rfl, Option.some.inj telling⟩
      | _ => cases telling
  | _ => cases telling

/-- A status response leaves what is held. -/
theorem held_settle_getStatus {waiting : AfterStatus} :
    (dashboard.settle (.getStatus waiting) answer).Held cell ↔
      dashboard.Held cell := by
  have shown : (dashboard.settle (.getStatus waiting) answer).selectedDetail =
      dashboard.selectedDetail := by
    cases answer <;> simp only [settle, afterStatus_toDashboard] <;> rfl
  have listed : (dashboard.settle (.getStatus waiting) answer).entries =
      dashboard.entries := by
    cases answer <;> simp only [settle, afterStatus_entries]
  cases cell with
  | detail => exact not_congr (by rw [shown])
  | entries => exact not_congr (by rw [listed])

/-- What a response has written is exposed by it. -/
theorem exposes_of_written (written : Written call answer dashboard next cell)
    (locked : dashboard.Locked) (held : next.Held cell) :
    dashboard.Exposes cell call answer := by
  cases cell with
  | detail =>
      obtain none | ⟨⟨service, closesModal, detail, rfl, rfl, -⟩, -⟩ := written
      · exact absurd none held
      · exact ⟨rfl, locked⟩
  | entries =>
      obtain listed | ⟨-, -, none⟩ := written
      · cases call with
        | listEntries query waiting =>
            cases answer with
            | entries entries =>
                obtain rfl : entries = next.entries := Option.some.inj listed
                exact ⟨rfl, locked, held⟩
            | _ => exact absurd (Option.some.inj listed).symm held
        | _ => cases listed
      · exact absurd none held

/-- A cell that is held under a lock after a response was held under it
before, or the response exposes it. -/
theorem exposes_of_settle (admitted : call.admits answer = true)
    (silent : ¬ Awaited (ApiCall.writes cell) (call.follow answer))
    (locked : (dashboard.settle call answer).Locked)
    (held : (dashboard.settle call answer).Held cell) :
    dashboard.Exposes cell call answer ∨
      (dashboard.Locked ∧ dashboard.Held cell) ∧
        (call.writes cell = true → call.givesUp answer cell = true) := by
  unfold Locked at locked
  rw [settle_isUnlocked] at locked
  cases telling : call.tellsUnlocked answer with
  | none =>
      rw [telling] at locked
      cases @settle_cell dashboard _ _ admitted cell with
      | follows awaited => exact absurd awaited silent
      | writes ours written =>
          exact .inl (exposes_of_written written locked held)
      | keeps kept ends =>
          exact .inr ⟨⟨locked, held.of_kept kept⟩, ends⟩
  | some told =>
      rw [telling] at locked
      obtain rfl : told = false := Option.some.inj locked
      obtain ⟨waiting, status, rfl, rfl, unlocked⟩ := tells_eq_some telling
      exact .inl ⟨unlocked, held_settle_getStatus.mp held, silent⟩

/-- A response under the condition leaves a call in flight for every cell
that is held under a lock. -/
theorem covered_settle (covered : Covered dashboard) {index : Nat}
    (found : dashboard.pending[index]? = some call)
    (admitted : call.admits answer = true)
    (guarded : dashboard.Guarded (.settled index answer)) :
    Covered ((dashboard.remove index).settle call answer) := by
  intro cell locked held
  rw [settle_pending, awaited_append]
  by_cases follows : Awaited (ApiCall.writes cell) (call.follow answer)
  · exact .inr follows
  · left
    obtain exposed | ⟨⟨before, had⟩, ends⟩ :=
      exposes_of_settle admitted follows locked held
    · exact guarded call found cell (.inl exposed)
    · obtain ours | later := (covered cell before had).answered found
      · exact guarded call found cell (.inr ⟨ends ours, before, had⟩)
      · exact later

theorem covered_step (covered : Covered dashboard)
    (guarded : dashboard.Guarded event)
    (stepped : dashboard.step event = some (next, ())) : Covered next := by
  obtain ⟨index, answer, call, rfl, found, admitted, rfl⟩ | ⟨-, sent, asks⟩ :=
    step_cases stepped
  · exact covered_settle covered found admitted guarded
  · intro cell locked held
    rw [asks.pending, awaited_append]
    exact .inl (covered cell (asks.isUnlocked.symm.trans locked)
      (held.of_asks asks))

/-! ## The claim of a run -/

/-- With no request in flight and the agent locked, nothing of a session is
left. -/
def Concealed (dashboard : VaultDashboard) : Prop :=
  dashboard.pending = [] → dashboard.Locked →
    dashboard.selectedDetail = none ∧ dashboard.entries = []

theorem concealed_of_covered (covered : Covered dashboard) :
    Concealed dashboard := by
  intro idle locked
  have empty (cell : Cell) : ¬ dashboard.Held cell := by
    intro held
    have awaited := covered cell locked held
    rw [idle] at awaited
    exact not_awaited_nil awaited
  exact ⟨not_not.mp (empty .detail), not_not.mp (empty .entries)⟩

/-- The run of the component from its first render. -/
def run (events : List DashboardEvent) :
    Option (VaultDashboard × List Unit) :=
  Run.run step initial events

/-! ## The other direction -/

/-- The agent is locked, and nothing in flight is to write the cell that is
held. -/
structure Exposed (dashboard : VaultDashboard) (cell : Cell) : Prop where
  locked : dashboard.Locked
  held : dashboard.Held cell
  silent : ¬ Awaited (ApiCall.writes cell) dashboard.pending

theorem exposed_of_exposes (exposes : dashboard.Exposes cell call answer)
    (silent : ¬ Awaited (ApiCall.writes cell) dashboard.pending) :
    (dashboard.settle call answer).Exposed cell := by
  have told : (dashboard.settle call answer).isUnlocked =
      (call.tellsUnlocked answer).elim dashboard.isUnlocked some :=
    settle_isUnlocked
  have pending : (dashboard.settle call answer).pending =
      dashboard.pending ++ call.follow answer := settle_pending
  suffices ended : (dashboard.settle call answer).Locked ∧
      (dashboard.settle call answer).Held cell ∧
        ¬ Awaited (ApiCall.writes cell) (call.follow answer) by
    refine ⟨ended.1, ended.2.1, ?_⟩
    rw [pending, awaited_append]
    exact fun awaited => awaited.elim silent ended.2.2
  cases call with
  | getStatus waiting =>
      cases answer with
      | status status =>
          obtain ⟨locked, held, quiet⟩ := exposes
          exact ⟨told.trans (congrArg some locked),
            held_settle_getStatus.mpr held, quiet⟩
      | _ => cases exposes
  | listEntries query waiting =>
      cases answer with
      | entries entries =>
          obtain ⟨rfl, locked, some⟩ := exposes
          refine ⟨told.trans locked, ?_, ?_⟩
          · simpa [Held, settle, setEntries] using some
          · cases waiting <;> simp [ApiCall.follow, AfterEntries.follow,
              ApiCall.writes, AfterStatus.writes]
      | _ => cases exposes
  | getEntry service closesModal =>
      cases answer with
      | detail detail =>
          obtain ⟨rfl, locked⟩ := exposes
          exact ⟨told.trans locked, Option.some_ne_none detail,
            not_awaited_nil⟩
      | _ => cases exposes
  | _ => cases exposes

theorem exposed_of_givesUp (ends : call.givesUp answer cell = true)
    (locked : dashboard.Locked) (held : dashboard.Held cell)
    (silent : ¬ Awaited (ApiCall.writes cell) dashboard.pending) :
    (dashboard.settle call answer).Exposed cell where
  locked := by
    unfold Locked
    rw [settle_isUnlocked]
    cases told : call.tellsUnlocked answer with
    | none => exact locked
    | some unlocked =>
        have known := tells_of_givesUp ends
        rw [told] at known
        cases unlocked with
        | true => exact absurd rfl known
        | false => rfl
  held := held.of_kept (kept_of_givesUp ends).symm
  silent := by
    rw [settle_pending, follow_of_givesUp ends, List.append_nil]
    exact silent

/-- After a response that does not meet the condition, everything in flight
may come to its end with the agent locked and something still held. -/
theorem exposed_of_not_guarded (unguarded : ¬ dashboard.Guarded event)
    (stepped : dashboard.step event = some (next, ())) :
    ∃ events last replies,
      Run.run step next events = some (last, replies) ∧
        ¬ Concealed last := by
  obtain ⟨index, answer, call, rfl, found, admitted, rfl⟩ | ⟨other, -⟩ :=
    step_cases stepped
  · have exposed : ∃ cell,
        ((dashboard.remove index).settle call answer).Exposed cell := by
      by_contra none
      refine unguarded fun found' same cell exposes => ?_
      obtain rfl : found' = call := Option.some.inj (same.symm.trans found)
      by_contra silent
      refine none ⟨cell, ?_⟩
      obtain exposes | ⟨ends, locked, held⟩ := exposes
      · exact @exposed_of_exposes (dashboard.remove index) _ _ _ exposes
          silent
      · exact @exposed_of_givesUp (dashboard.remove index) _ _ _ ends locked
          held silent
    obtain ⟨cell, locked, held, silent⟩ := exposed
    obtain ⟨events, last, replies, ran, -, idle, kept, told⟩ := drain silent
    refine ⟨events, last, replies, ran, fun concealed => ?_⟩
    obtain ⟨noDetail, noEntries⟩ := concealed idle (told.trans locked)
    have still : last.Held cell := held.of_kept kept.symm
    cases cell with
    | detail => exact still noDetail
    | entries => exact still noEntries
  · exfalso
    cases event with
    | settled index answer => exact other index answer rfl
    | _ => exact unguarded trivial

end VaultDashboard

open VaultDashboard

/-- In every run whose responses meet the condition, a locked desktop shows
no secrets. -/
theorem locked_dashboard_holds_nothing {events : List DashboardEvent}
    {last : VaultDashboard} {replies : List Unit}
    (guarded : Run.Along step Guarded initial events)
    (ran : VaultDashboard.run events = some (last, replies)) :
    Concealed last :=
  concealed_of_covered (Run.invariant
    (fun covered guarded stepped => covered_step covered guarded stepped)
    covered_initial guarded ran)

/-! An entry is opened, and then the agent is locked. -/

def openedService : Utf8String := ⟨[103], rfl⟩

def openedEntry : EntryDetail :=
  ⟨openedService, ⟨[116], rfl⟩, ⟨[111], rfl⟩, emptyText⟩

/-- The agent is unlocked, and the entry is selected from the list. -/
def opening : List DashboardEvent :=
  [.settled 0 (.status ⟨true, 60, 1⟩),
    .settled 0 (.entries [⟨openedService, openedEntry.username⟩]),
    .select openedService, .settled 0 (.detail openedEntry)]

/-- The lock button is pressed: nothing is left. -/
theorem locked_dashboard_holds_nothing_button :
    Concealed (Run.reached step initial
      (opening ++ [.lock, .settled 0 .done,
        .settled 0 (.status ⟨false, 0, 0⟩)])) := by
  refine @locked_dashboard_holds_nothing _ _ (List.replicate 7 ()) ?_
    (Run.run_reached rfl)
  refine .intro (guarded_of_unlocked nofun ?_) (.intro
    (guarded_of_unlocked nofun nofun) (.intro trivial (.intro
      (guarded_of_unlocked nofun nofun) (.intro trivial (.intro
        (guarded_of_unlocked nofun nofun) (.intro
          (guarded_of_empty rfl rfl) trivial))))))
  rintro status ⟨⟩
  rfl

/-- The idle timer of the agent locks the session, and a poll tells of it:
the password is still there. -/
theorem locked_dashboard_shows_entry :
    ¬ ∀ events last replies,
      VaultDashboard.run events = some (last, replies) → Concealed last := by
  intro concealed
  have ended := concealed
    (opening ++ [.poll, .settled 0 (.status ⟨false, 0, 0⟩)]) _
    (List.replicate 6 ()) (Run.run_reached rfl)
  exact nomatch (ended rfl rfl).1

end DuckPass
