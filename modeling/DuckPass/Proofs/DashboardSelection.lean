/-
Module: DuckPass.Proofs.DashboardSelection
Purpose: Whether `VaultDashboard` shows what was asked for last.  A response
  is shown whatever has been asked for since, so it matters in which order
  the responses come.
Trusted boundary: as for `DuckPass.System.VaultDashboard`
Main exports: Viewed, Viewed.step, Viewed.Disturbs, Viewed.InOrder,
  Viewed.ShowsLastAsked, dashboard_shows_last_asked
-/
import DuckPass.Lib.Run
import DuckPass.Proofs.AgentRefinement
import DuckPass.Proofs.DashboardCells

namespace DuckPass

open DesktopClient (AgentStatus EntrySummary EntryDetail)
open InFlight VaultDashboard

/-! ## The answer of the agent -/

/-- The entry that the agent sends is the one of the service asked for. -/
theorem AgentPeer.desktopGetEntry_service {peer : AgentPeer}
    {self : VaultService} {service : Utf8String} {detail : EntryDetail}
    (unlocked : peer.agent.vaultService = some self)
    (fits : peer.Fits .getEntry (DesktopClient.appendString [] service))
    (valid : ∀ entry, self.getEntry service.val = some entry →
      (EntryData.ofEntry entry).Utf8) {failure : IoError}
    (answered : DesktopClient.getEntry peer.connection failure service =
      .ok detail) : detail.service = service := by
  have through := desktopGetEntry_through_agent unlocked fits valid failure
  rw [answered] at through
  obtain ⟨entry, found, same⟩ :=
    Option.map_eq_some_iff.mp (Eq.symm through)
  have named : entry.service = service.val :=
    Vault.service_of_getEntry found
  exact Subtype.ext ((congrArg EntryData.service same).symm.trans named)

/-! ## What was asked for last -/

def ApiCall.isList : ApiCall → Bool
  | listEntries _ _ => true
  | _ => false

/-- The dashboard, and what its list is to show: the outcome of the newest
call of `listEntries`, `none` while that is in flight.  A lock empties it. -/
structure Viewed where
  dashboard : VaultDashboard
  due : Option (List EntrySummary)

namespace Viewed

/-- The newest call of `listEntries` is the last one in flight, if it is in
flight at all. -/
def dueAfter (viewed : Viewed) :
    DashboardEvent → Option (List EntrySummary)
  | .searchTimer => none
  | .settled index answer =>
      match viewed.dashboard.pending[index]? with
      | none => viewed.due
      | some call =>
          if (call.follow answer).any ApiCall.isList then none
          else
            match call.listed answer with
            | some entries =>
                if viewed.due = none ∧
                    (viewed.dashboard.pending.drop (index + 1)).any
                      ApiCall.isList = false then some entries
                else viewed.due
            | none =>
                if call = .lock ∧ answer = .done then
                  viewed.due.map fun _ => []
                else viewed.due
  | _ => viewed.due

def step (viewed : Viewed) (event : DashboardEvent) :
    Option (Viewed × Unit) :=
  match viewed.dashboard.step event with
  | none => none
  | some (next, _) => some (⟨next, viewed.dueAfter event⟩, ())

def initial : Viewed := ⟨VaultDashboard.initial, some []⟩

def run (events : List DashboardEvent) : Option (Viewed × List Unit) :=
  Run.run step initial events

/-- With no request in flight, the detail view is empty or shows the selected
service, the list shows the outcome of the newest call, and the delete button
is for the selected service. -/
def ShowsLastAsked (viewed : Viewed) : Prop :=
  viewed.dashboard.pending = [] →
    (∀ detail, viewed.dashboard.selectedDetail = some detail →
      viewed.dashboard.selectedService = some detail.service) ∧
    viewed.due = some viewed.dashboard.entries ∧
    ∀ service, viewed.dashboard.deleteTarget = some service →
      viewed.dashboard.selectedService = some service

/-! ## Responses out of order -/

/-- The cell does not show what was asked for last. -/
def Misplaced (viewed : Viewed) : Cell → Prop
  | .detail => ∃ detail, viewed.dashboard.selectedDetail = some detail ∧
      viewed.dashboard.selectedService ≠ some detail.service
  | .entries => viewed.due ≠ some viewed.dashboard.entries

/-- The response brings the entry of a service that is not selected, or
another list than the newest call has brought already. -/
def Disturbs (viewed : Viewed) (cell : Cell) : ApiCall → Answer → Prop
  | .getEntry _ _, .detail detail =>
      cell = .detail ∧
        viewed.dashboard.selectedService ≠ some detail.service
  | call, answer =>
      cell = .entries ∧ ∃ entries shown, call.listed answer = some entries ∧
        viewed.due = some shown ∧ entries ≠ shown

/-- A response that disturbs a cell, or fails to write a cell that has been
disturbed, comes while another call that is to write the cell is still in
flight. -/
def InOrder (viewed : Viewed) : DashboardEvent → Prop
  | .settled index answer =>
      ∀ call, viewed.dashboard.pending[index]? = some call → ∀ cell,
        viewed.Disturbs cell call answer ∨
            call.givesUp answer cell = true ∧ viewed.Misplaced cell →
          Awaited (ApiCall.writes cell)
            (viewed.dashboard.pending.eraseIdx index)
  | _ => True

/-! ## Runs -/

/-- A call that is to write it is in flight for every cell that does not show
what was asked for last, and a call of `listEntries` while its outcome is not
known. -/
structure Awaits (viewed : Viewed) : Prop where
  cell : ∀ cell, viewed.Misplaced cell →
    Awaited (ApiCall.writes cell) viewed.dashboard.pending
  list : viewed.due = none →
    Awaited ApiCall.isList viewed.dashboard.pending

theorem awaits_initial : Awaits initial where
  cell
    | .detail, ⟨_, selected, _⟩ => nomatch selected
    | .entries, misplaced => absurd rfl misplaced
  list := nofun

theorem writes_of_isList {pending : List ApiCall}
    (list : Awaited ApiCall.isList pending) :
    Awaited (ApiCall.writes .entries) pending := by
  obtain ⟨call, member, isList⟩ := list
  cases call with
  | listEntries query waiting => exact ⟨_, member, rfl⟩
  | _ => cases isList

section Settling

variable {viewed : Viewed} {index : Nat} {call : ApiCall} {answer : Answer}

theorem awaited_settle {kind : ApiCall → Bool}
    (awaited : Awaited kind (call.follow answer) ∨
      Awaited kind (viewed.dashboard.pending.eraseIdx index)) :
    Awaited kind
      ((viewed.dashboard.remove index).settle call answer).pending := by
  rw [settle_pending, awaited_append]
  exact awaited.symm

/-- A cell that a response leaves as it is stays awaited. -/
theorem awaits_kept {cell : Cell} (awaits : Awaits viewed)
    (found : viewed.dashboard.pending[index]? = some call)
    (inOrder : viewed.InOrder (.settled index answer))
    (ends : call.writes cell = true → call.givesUp answer cell = true)
    (misplaced : viewed.Misplaced cell) :
    Awaited (ApiCall.writes cell)
      (viewed.dashboard.pending.eraseIdx index) := by
  obtain ours | later := (awaits.cell cell misplaced).answered found
  · exact inOrder call found cell (.inr ⟨ends ours, misplaced⟩)
  · exact later

theorem awaits_detail (awaits : Awaits viewed)
    (found : viewed.dashboard.pending[index]? = some call)
    (admitted : call.admits answer = true)
    (inOrder : viewed.InOrder (.settled index answer))
    {due : Option (List EntrySummary)}
    (misplaced : Misplaced
      ⟨(viewed.dashboard.remove index).settle call answer, due⟩ .detail) :
    Awaited (ApiCall.writes .detail)
      ((viewed.dashboard.remove index).settle call answer).pending := by
  obtain ⟨detail, selected, other⟩ := misplaced
  apply awaited_settle
  cases @settle_detail (viewed.dashboard.remove index) _ _ admitted with
  | follows awaited => exact .inl awaited
  | writes ours written =>
      obtain none | ⟨⟨_, _, brought, rfl, rfl, shown⟩, same⟩ := written
      · exact nomatch selected.symm.trans none
      · obtain rfl : brought = detail :=
          Option.some.inj (shown.symm.trans selected)
        exact .inr (inOrder _ found .detail
          (.inl ⟨rfl, fun chosen => other (same.trans chosen)⟩))
  | keeps kept ends =>
      exact .inr (awaits_kept awaits found inOrder ends
        ⟨detail, kept.1.symm.trans selected,
          fun chosen => other (kept.2.trans chosen)⟩)

/-- A call after the answered one is still in flight. -/
theorem awaited_of_drop {kind : ApiCall → Bool} {pending : List ApiCall}
    (later : (pending.drop (index + 1)).any kind = true) :
    Awaited kind (pending.eraseIdx index) := by
  obtain ⟨other, member, ofKind⟩ := List.any_eq_true.mp later
  rw [List.eraseIdx_eq_take_drop_succ]
  exact ⟨other, List.mem_append_right _ member, ofKind⟩

/-- What becomes of the newest outcome: a new call makes it unknown, the
response is it or is older, a lock empties it, or nothing happens to it. -/
inductive DueCase (viewed : Viewed) (index : Nat) (call : ApiCall)
    (answer : Answer) : Prop where
  | asked (awaited : Awaited ApiCall.isList (call.follow answer))
  | newest (entries : List EntrySummary)
      (listed : call.listed answer = some entries)
      (due : viewed.dueAfter (.settled index answer) = some entries)
  | older (entries : List EntrySummary)
      (listed : call.listed answer = some entries)
      (due : viewed.dueAfter (.settled index answer) = viewed.due)
      (later : viewed.due = none → Awaited ApiCall.isList
        (viewed.dashboard.pending.eraseIdx index))
  | emptied (lock : call = .lock) (done : answer = .done)
      (due : viewed.dueAfter (.settled index answer) =
        viewed.due.map fun _ => [])
  | kept (unlisted : call.listed answer = none)
      (unlocked : ¬ (call = .lock ∧ answer = .done))
      (due : viewed.dueAfter (.settled index answer) = viewed.due)

theorem dueCase_of_found
    (found : viewed.dashboard.pending[index]? = some call) :
    DueCase viewed index call answer := by
  by_cases follows : (call.follow answer).any ApiCall.isList
  · obtain ⟨other, member, list⟩ := List.any_eq_true.mp follows
    exact .asked ⟨other, member, list⟩
  cases listed : call.listed answer with
  | some entries =>
      by_cases newest : viewed.due = none ∧
          (viewed.dashboard.pending.drop (index + 1)).any
            ApiCall.isList = false
      · refine .newest entries listed ?_
        simp only [dueAfter, found, if_neg follows, listed, if_pos newest]
      · refine .older entries listed ?_ fun unknown => awaited_of_drop ?_
        · simp only [dueAfter, found, if_neg follows, listed, if_neg newest]
        · exact Bool.not_eq_false _ ▸ fun last => newest ⟨unknown, last⟩
  | none =>
      by_cases locks : call = .lock ∧ answer = .done
      · refine .emptied locks.1 locks.2 ?_
        simp only [dueAfter, found, if_neg follows, listed, if_pos locks]
      · refine .kept listed locks ?_
        simp only [dueAfter, found, if_neg follows, listed, if_neg locks]

theorem settle_listed {dashboard : VaultDashboard}
    {entries : List EntrySummary}
    (listed : call.listed answer = some entries) :
    (dashboard.settle call answer).entries = entries := by
  cases call with
  | listEntries query waiting =>
      cases answer <;> cases listed <;> simp only [settle, setEntries,
        afterEntries_entries]
  | _ => cases listed

theorem disturbs_of_listed {entries shown : List EntrySummary}
    (listed : call.listed answer = some entries)
    (due : viewed.due = some shown) (other : entries ≠ shown) :
    viewed.Disturbs .entries call answer := by
  cases call with
  | listEntries query waiting => exact ⟨rfl, entries, shown, listed, due, other⟩
  | _ => cases listed

theorem awaits_entries (awaits : Awaits viewed)
    (found : viewed.dashboard.pending[index]? = some call)
    (admitted : call.admits answer = true)
    (inOrder : viewed.InOrder (.settled index answer))
    (misplaced : viewed.dueAfter (.settled index answer) ≠
      some ((viewed.dashboard.remove index).settle call answer).entries) :
    Awaited (ApiCall.writes .entries)
      ((viewed.dashboard.remove index).settle call answer).pending := by
  apply awaited_settle
  cases @dueCase_of_found viewed index call answer found with
  | asked awaited => exact .inl (writes_of_isList awaited)
  | newest entries listed due =>
      rw [settle_listed listed] at misplaced
      exact absurd due misplaced
  | older entries listed older later =>
      rw [settle_listed listed] at misplaced
      right
      cases due : viewed.due with
      | none => exact writes_of_isList (later due)
      | some shown =>
          rw [older, due] at misplaced
          refine inOrder call found .entries (.inl ?_)
          exact disturbs_of_listed listed due fun same =>
            misplaced (congrArg some same.symm)
  | emptied lock done emptied =>
      subst lock done
      cases due : viewed.due with
      | none =>
          obtain lock | later := (awaits.list due).answered found
          · cases lock
          · exact .inr (writes_of_isList later)
      | some shown =>
          rw [emptied, due] at misplaced
          exact absurd rfl misplaced
  | kept unlisted unlocked same =>
      cases @settle_entries (viewed.dashboard.remove index) _ _
        admitted with
      | follows awaited => exact .inl awaited
      | writes ours written =>
          obtain listed | ⟨lock, done, -⟩ := written
          · exact nomatch unlisted.symm.trans listed
          · exact absurd ⟨lock, done⟩ unlocked
      | keeps kept ends =>
          refine .inr (awaits_kept awaits found inOrder ends fun due =>
            misplaced ?_)
          rw [same, due]
          exact congrArg some (Eq.symm kept)

/-- A call of `listEntries` stays in flight until its outcome is known. -/
theorem awaits_list (awaits : Awaits viewed)
    (found : viewed.dashboard.pending[index]? = some call)
    (unknown : viewed.dueAfter (.settled index answer) = none) :
    Awaited ApiCall.isList
      ((viewed.dashboard.remove index).settle call answer).pending := by
  apply awaited_settle
  cases @dueCase_of_found viewed index call answer found with
  | asked awaited => exact .inl awaited
  | newest entries listed due => exact nomatch unknown.symm.trans due
  | older entries listed due later =>
      exact .inr (later (due.symm.trans unknown))
  | emptied lock done emptied =>
      subst lock
      have due := Option.map_eq_none_iff.mp (emptied.symm.trans unknown)
      obtain lock | later := (awaits.list due).answered found
      · cases lock
      · exact .inr later
  | kept unlisted unlocked same =>
      obtain list | later :=
        (awaits.list (same.symm.trans unknown)).answered found
      · cases call with
        | listEntries query waiting => cases answer <;> cases unlisted
        | _ => cases list
      · exact .inr later

end Settling

section Steps

variable {viewed next : Viewed} {event : DashboardEvent}

/-- A step that no response belongs to. -/
theorem awaits_asks (awaits : Awaits viewed) {sent : List ApiCall}
    (asks : Asks viewed.dashboard next.dashboard sent)
    (due : next.due = viewed.due ∨
      next.due = none ∧ Awaited ApiCall.isList sent) : Awaits next where
  cell := by
    intro cell misplaced
    rw [asks.pending, awaited_append]
    cases cell with
    | detail =>
        obtain ⟨detail, selected, other⟩ := misplaced
        obtain same | follows := asks.selectedService
        · exact .inl (awaits.cell .detail
            ⟨detail, asks.selectedDetail.symm.trans selected,
              fun chosen => other (same.trans chosen)⟩)
        · exact .inr follows
    | entries =>
        obtain same | ⟨-, list⟩ := due
        · refine .inl (awaits.cell .entries fun shown => misplaced ?_)
          rw [same, shown, asks.entries]
        · exact .inr (writes_of_isList list)
  list := by
    intro unknown
    rw [asks.pending, awaited_append]
    obtain same | ⟨-, list⟩ := due
    · exact .inl (awaits.list (same.symm.trans unknown))
    · exact .inr list

/-- The search timer sends a call of `listEntries`. -/
theorem sent_of_searchTimer {dashboard after : VaultDashboard}
    {sent : List ApiCall} (asks : Asks dashboard after sent)
    (stepped : dashboard.step .searchTimer = some (after, ())) :
    Awaited ApiCall.isList sent := by
  simp only [VaultDashboard.step] at stepped
  split at stepped
  · cases stepped
    obtain rfl : _ = sent := List.append_cancel_left asks.pending
    exact awaited_singleton.mpr rfl
  · cases stepped

theorem awaits_step (awaits : Awaits viewed) (inOrder : viewed.InOrder event)
    (stepped : viewed.step event = some (next, ())) : Awaits next := by
  unfold step at stepped
  split at stepped
  · cases stepped
  · rename_i after reply moved
    cases stepped
    obtain ⟨index, answer, call, rfl, found, admitted, rfl⟩ |
        ⟨other, sent, asks⟩ := VaultDashboard.step_cases moved
    · refine ⟨fun cell misplaced => ?_, awaits_list awaits found⟩
      cases cell with
      | detail => exact awaits_detail awaits found admitted inOrder misplaced
      | entries =>
          exact awaits_entries awaits found admitted inOrder misplaced
    · refine awaits_asks awaits asks ?_
      cases event with
      | settled index answer => exact absurd rfl (other index answer)
      | searchTimer => exact .inr ⟨rfl, sent_of_searchTimer asks moved⟩
      | _ => exact .inl rfl

theorem showsLastAsked_of_awaits (awaits : Awaits viewed) :
    viewed.ShowsLastAsked := by
  intro idle
  have placed (cell : Cell) : ¬ viewed.Misplaced cell := by
    intro misplaced
    have awaited := awaits.cell cell misplaced
    rw [idle] at awaited
    exact not_awaited_nil awaited
  have selected : ∀ detail, viewed.dashboard.selectedDetail = some detail →
      viewed.dashboard.selectedService = some detail.service :=
    fun detail shown => not_not.mp fun other =>
      placed .detail ⟨detail, shown, other⟩
  refine ⟨selected, not_not.mp (placed .entries), fun service target => ?_⟩
  unfold deleteTarget at target
  split at target
  · obtain ⟨detail, shown, rfl⟩ := Option.map_eq_some_iff.mp target
    exact selected detail shown
  · cases target

/-! ## The other direction -/

/-- What is shown of a cell, and what was asked for last, are as before. -/
def Kept (viewed next : Viewed) (cell : Cell) : Prop :=
  VaultDashboard.Kept viewed.dashboard next.dashboard cell ∧
    (cell = .entries → next.due = viewed.due)

theorem Misplaced.of_kept {cell : Cell} (kept : Kept viewed next cell)
    (misplaced : viewed.Misplaced cell) : next.Misplaced cell := by
  cases cell with
  | detail =>
      obtain ⟨detail, selected, other⟩ := misplaced
      exact ⟨detail, kept.1.1.trans selected,
        fun chosen => other (kept.1.2.symm.trans chosen)⟩
  | entries =>
      intro due
      refine misplaced ?_
      rw [← kept.2 rfl, due]
      exact congrArg some kept.1

theorem not_list_of_silent {pending : List ApiCall}
    (silent : ¬ Awaited (ApiCall.writes .entries) pending) :
    pending.any ApiCall.isList = false := by
  refine Bool.eq_false_iff.mpr fun list => silent (writes_of_isList ?_)
  obtain ⟨call, member, isList⟩ := List.any_eq_true.mp list
  exact ⟨call, member, isList⟩

/-- A rejected call that is not to write the list, and that lists nothing,
leaves what the list is to show. -/
theorem dueAfter_silent {index : Nat} {call : ApiCall} {answer : Answer}
    (found : viewed.dashboard.pending[index]? = some call)
    (quiet : ¬ Awaited (ApiCall.writes .entries) (call.follow answer))
    (unlisted : call.listed answer = none)
    (unlocked : ¬ (call = .lock ∧ answer = .done)) :
    viewed.dueAfter (.settled index answer) = viewed.due := by
  simp only [dueAfter, found, not_list_of_silent quiet, unlisted,
    Bool.false_eq_true, if_false, if_neg unlocked]

theorem due_of_rejects {cell : Cell}
    (rejects : Rejects cell viewed.dashboard event)
    (entries : cell = .entries) :
    viewed.dueAfter event = viewed.due := by
  subst entries
  obtain ⟨rfl, call, found, idle⟩ := rejects
  refine dueAfter_silent found (not_awaited_follow idle) ?_ (nofun ∘ And.right)
  cases call with
  | listEntries query waiting => cases idle
  | _ => rfl

/-- A run of the dashboard in which calls that are not to write a cell are
rejected is one of the viewed dashboard. -/
theorem run_rejects {cell : Cell} {dashboard last : VaultDashboard}
    {due : Option (List EntrySummary)} {events : List DashboardEvent}
    {replies : List Unit}
    (rejects : Run.Along VaultDashboard.step (Rejects cell) dashboard events)
    (ran : Run.run VaultDashboard.step dashboard events =
      some (last, replies)) :
    ∃ ended, Run.run step ⟨dashboard, due⟩ events =
        some (⟨last, ended⟩, replies) ∧
      (cell = .entries → ended = due) := by
  induction events generalizing dashboard due replies with
  | nil =>
      cases ran
      exact ⟨due, rfl, fun _ => rfl⟩
  | cons event events inductionHypothesis =>
      obtain ⟨next, reply, later, stepped, rest, rfl⟩ := Run.run_cons ran
      obtain ⟨now, ahead⟩ := Run.Along.cons rejects stepped
      obtain ⟨ended, ran', kept⟩ := @inductionHypothesis next
        (Viewed.dueAfter ⟨dashboard, due⟩ event) later ahead rest
      refine ⟨ended, ?_, fun entries => ?_⟩
      · have moved : step ⟨dashboard, due⟩ event =
            some (⟨next, Viewed.dueAfter ⟨dashboard, due⟩ event⟩, ()) := by
          unfold step
          rw [stepped]
        rw [Run.run, moved]
        dsimp only
        rw [ran']
      · exact (kept entries).trans
          (@due_of_rejects ⟨dashboard, due⟩ _ _ now entries)

/-- A response that disturbs a cell leaves it so, and what follows does not
write it. -/
theorem misplaced_of_disturbs {index : Nat} {call : ApiCall}
    {answer : Answer} {cell : Cell}
    (found : viewed.dashboard.pending[index]? = some call)
    (disturbs : viewed.Disturbs cell call answer) :
    Misplaced ⟨(viewed.dashboard.remove index).settle call answer,
        viewed.dueAfter (.settled index answer)⟩ cell ∧
      ¬ Awaited (ApiCall.writes cell) (call.follow answer) := by
  have brought : (∃ entries shown, cell = .entries ∧
      call.listed answer = some entries ∧ viewed.due = some shown ∧
        entries ≠ shown) ∨
      ∃ service closesModal detail, cell = .detail ∧
        call = .getEntry service closesModal ∧ answer = .detail detail ∧
          viewed.dashboard.selectedService ≠ some detail.service := by
    cases call with
    | getEntry service closesModal =>
        cases answer with
        | detail detail =>
            exact .inr ⟨_, _, _, disturbs.1, rfl, rfl, disturbs.2⟩
        | _ =>
            obtain ⟨-, entries, shown, listed, -⟩ := disturbs
            cases listed
    | _ =>
        obtain ⟨rfl, entries, shown, listed, due, other⟩ := disturbs
        exact .inl ⟨entries, shown, rfl, listed, due, other⟩
  obtain ⟨entries, shown, rfl, listed, due, other⟩ |
      ⟨service, closesModal, detail, rfl, rfl, rfl, other⟩ := brought
  · have quiet : ¬ Awaited (ApiCall.writes .entries) (call.follow answer) := by
      cases call with
      | listEntries query waiting =>
          cases waiting <;> simp [ApiCall.follow, AfterEntries.follow,
            ApiCall.writes, AfterStatus.writes]
      | _ => cases listed
    refine ⟨fun same => other ?_, quiet⟩
    have kept : viewed.dueAfter (.settled index answer) = some shown := by
      simp only [dueAfter, found, not_list_of_silent quiet, listed, due,
        Bool.false_eq_true, if_false, reduceCtorEq, false_and]
    rw [kept, settle_listed listed] at same
    exact (Option.some.inj same).symm
  · exact ⟨⟨detail, rfl, other⟩, not_awaited_nil⟩

/-- So does one that gives up a cell that has been disturbed. -/
theorem misplaced_of_givesUp {index : Nat} {call : ApiCall}
    {answer : Answer} {cell : Cell}
    (found : viewed.dashboard.pending[index]? = some call)
    (ends : call.givesUp answer cell = true)
    (misplaced : viewed.Misplaced cell) :
    Misplaced ⟨(viewed.dashboard.remove index).settle call answer,
        viewed.dueAfter (.settled index answer)⟩ cell ∧
      ¬ Awaited (ApiCall.writes cell) (call.follow answer) := by
  have none : call.follow answer = [] := follow_of_givesUp ends
  refine ⟨misplaced.of_kept ⟨kept_of_givesUp ends, fun _ => ?_⟩, ?_⟩
  · refine dueAfter_silent found (by rw [none]; exact not_awaited_nil) ?_ ?_
    · cases call with
      | listEntries query waiting => cases ends
      | _ => rfl
    · rintro ⟨rfl, rfl⟩
      cases ends
  · rw [none]
    exact not_awaited_nil

/-- After a response that does not meet the condition, everything in flight
may come to its end with something else shown than was asked for last. -/
theorem misplaced_of_not_inOrder (disordered : ¬ viewed.InOrder event)
    (stepped : viewed.step event = some (next, ())) :
    ∃ events last replies, Run.run step next events = some (last, replies) ∧
      ¬ last.ShowsLastAsked := by
  unfold step at stepped
  split at stepped
  · cases stepped
  rename_i after reply moved
  cases stepped
  obtain ⟨index, answer, call, rfl, found, admitted, rfl⟩ | ⟨other, -⟩ :=
    VaultDashboard.step_cases moved
  · have spoiled : ∃ cell,
        Misplaced ⟨(viewed.dashboard.remove index).settle call answer,
          viewed.dueAfter (.settled index answer)⟩ cell ∧
        ¬ Awaited (ApiCall.writes cell)
          ((viewed.dashboard.remove index).settle call answer).pending := by
      by_contra none
      refine disordered fun found' same cell disturbs => ?_
      obtain rfl : found' = call := Option.some.inj (same.symm.trans found)
      by_contra silent
      refine none ⟨cell, ?_⟩
      rw [settle_pending, awaited_append, not_or]
      obtain disturbs | ⟨ends, misplaced⟩ := disturbs
      · obtain ⟨wrong, quiet⟩ := misplaced_of_disturbs found disturbs
        exact ⟨wrong, silent, quiet⟩
      · obtain ⟨wrong, quiet⟩ := misplaced_of_givesUp found ends misplaced
        exact ⟨wrong, silent, quiet⟩
    obtain ⟨cell, misplaced, silent⟩ := spoiled
    obtain ⟨events, last, replies, ran, rejects, idle, kept, -⟩ :=
      drain silent
    obtain ⟨ended, ran', due⟩ := run_rejects rejects ran
    refine ⟨events, ⟨last, ended⟩, replies, ran', fun shows => ?_⟩
    obtain ⟨selected, listed, -⟩ := shows idle
    have still : Misplaced ⟨last, ended⟩ cell :=
      misplaced.of_kept ⟨kept, due⟩
    cases cell with
    | detail =>
        obtain ⟨detail, shown, other⟩ := still
        exact other (selected detail shown)
    | entries => exact still listed
  · exfalso
    cases event with
    | settled index answer => exact other index answer rfl
    | _ => exact disordered trivial

end Steps

end Viewed

/-- In every run whose responses meet the condition, the desktop shows what
was asked for last. -/
theorem dashboard_shows_last_asked {events : List DashboardEvent}
    {last : Viewed} {replies : List Unit}
    (inOrder : Run.Along Viewed.step Viewed.InOrder Viewed.initial events)
    (ran : Viewed.run events = some (last, replies)) : last.ShowsLastAsked :=
  Viewed.showsLastAsked_of_awaits (Run.invariant
    (fun awaits inOrder stepped =>
      Viewed.awaits_step awaits inOrder stepped)
    Viewed.awaits_initial inOrder ran)

/-! Two entries are selected one after the other. -/

def firstService : Utf8String := ⟨[97], rfl⟩

def secondService : Utf8String := ⟨[98], rfl⟩

def entryOf (service : Utf8String) : EntryDetail :=
  ⟨service, ⟨[118], rfl⟩, ⟨[119], rfl⟩, emptyText⟩

def selecting : List DashboardEvent :=
  [.settled 0 (.status ⟨true, 60, 2⟩),
    .settled 0 (.entries [⟨firstService, ⟨[118], rfl⟩⟩,
      ⟨secondService, ⟨[118], rfl⟩⟩]),
    .select firstService, .select secondService]

/-- The responses come in the order of the calls. -/
theorem dashboard_shows_last_asked_ordered :
    (Run.reached Viewed.step Viewed.initial
      (selecting ++ [.settled 0 (.detail (entryOf firstService)),
        .settled 0 (.detail (entryOf secondService))])).ShowsLastAsked := by
  refine @dashboard_shows_last_asked _ _ (List.replicate 6 ()) ?_
    (Run.run_reached rfl)
  refine .intro ?_ (.intro ?_ (.intro trivial (.intro trivial
    (.intro ?_ (.intro ?_ trivial)))))
  · rintro call ⟨⟩ cell (disturbs | ⟨ends, -⟩)
    · obtain ⟨-, entries, shown, listed, -⟩ := disturbs
      cases listed
    · cases cell <;> cases ends
  · rintro call ⟨⟩ cell (disturbs | ⟨ends, -⟩)
    · obtain ⟨-, entries, shown, -, due, -⟩ := disturbs
      cases due
    · cases cell <;> cases ends
  · rintro call ⟨⟩ cell (⟨rfl, -⟩ | ⟨ends, -⟩)
    · exact awaited_singleton.mpr rfl
    · cases cell <;> cases ends
  · rintro call ⟨⟩ cell (⟨-, other⟩ | ⟨ends, -⟩)
    · exact absurd rfl other
    · cases cell <;> cases ends

/-- They come the other way round: the first entry is shown, and the delete
button is for it, while the second one is selected. -/
theorem dashboard_shows_first_asked :
    ¬ ∀ events last replies,
      Viewed.run events = some (last, replies) → last.ShowsLastAsked := by
  intro shows
  have ended := shows
    (selecting ++ [.settled 1 (.detail (entryOf secondService)),
      .settled 0 (.detail (entryOf firstService))]) _ (List.replicate 6 ())
    (Run.run_reached rfl) rfl
  exact absurd (ended.2.2 firstService rfl) (by decide)

end DuckPass
