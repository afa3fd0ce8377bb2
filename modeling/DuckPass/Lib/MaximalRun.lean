/-
Module: DuckPass.Lib.MaximalRun
Purpose: Maximal stretches of a list whose members satisfy a predicate, by the
  positions where they begin and end, and how a scan from a position on finds
  them.
Trusted boundary: none
Main exports: Scan.MaximalRun, Scan.MaximalRun.unique, Scan.extent,
  Scan.maximalRun_extent
-/
import Mathlib.Data.List.Basic

namespace Scan

variable {α : Type} {p : α → Bool} {text : List α}

/-- There is a member at the position, and it satisfies the predicate. -/
def At (p : α → Bool) (text : List α) (position : Nat) : Prop :=
  ∃ member, text[position]? = some member ∧ p member = true

/-- A position is read within the text only. -/
theorem at_iff {position : Nat} :
    At p text position ↔ text[position]?.any p = true := by
  rw [At, Option.any_eq_true]

instance (position : Nat) : Decidable (At p text position) :=
  decidable_of_iff _ at_iff.symm

/-- The members from `start` up to `stop` satisfy the predicate, there is at
least one, and those next to them on both sides do not. -/
structure MaximalRun (p : α → Bool) (text : List α) (start stop : Nat) :
    Prop where
  nonempty : start < stop
  inside : ∀ position, start ≤ position → position < stop → At p text position
  front : start = 0 ∨ ¬ At p text (start - 1)
  back : ¬ At p text stop

/-- The members of a run. -/
def slice (text : List α) (start stop : Nat) : List α :=
  (text.drop start).take (stop - start)

/-- So it is one of the text. -/
theorem At.lt_length {position : Nat} (holds : At p text position) :
    position < text.length := by
  obtain ⟨member, found, _⟩ := holds
  exact (List.getElem?_eq_some_iff.mp found).1

/-- Where a predicate fails inside of a list, its negation holds. -/
theorem at_not_of_not_at {position : Nat} (inList : position < text.length)
    (fails : ¬ At p text position) :
    At (fun member => !p member) text position := by
  refine ⟨text[position], List.getElem?_eq_getElem inList, ?_⟩
  by_contra holds
  apply fails
  exact ⟨text[position], List.getElem?_eq_getElem inList, by simpa using holds⟩

/-- No position is of both kinds. -/
theorem not_at_of_at_not {position : Nat}
    (holds : At (fun member => !p member) text position) :
    ¬ At p text position := by
  rintro ⟨member, found, satisfied⟩
  obtain ⟨other, foundOther, fails⟩ := holds
  rw [found] at foundOther
  cases foundOther
  simp [satisfied] at fails

namespace MaximalRun

variable {start stop other otherStop : Nat}

/-- A maximal run that begins inside of one is that one. -/
theorem unique (run : MaximalRun p text start stop)
    (overlapping : MaximalRun p text other otherStop) (begins : start ≤ other)
    (inside : other < stop) : other = start ∧ otherStop = stop := by
  have sameStart : other = start := by
    by_contra differs
    rcases overlapping.front with first | fails
    · omega
    · exact fails (run.inside (other - 1) (by omega) (by omega))
  refine ⟨sameStart, ?_⟩
  by_contra differs
  rcases Nat.lt_or_gt_of_ne differs with shorter | longer
  · have begun := overlapping.nonempty
    exact overlapping.back (run.inside otherStop (by omega) shorter)
  · exact run.back (overlapping.inside stop (by omega) longer)

end MaximalRun

/-- Where the stretch that begins at a position ends. -/
def extent (p : α → Bool) (text : List α) (position : Nat) : Nat :=
  position + ((text.drop position).takeWhile p).length

/-- A run does not end before it begins. -/
theorem le_extent (position : Nat) : position ≤ extent p text position :=
  Nat.le_add_right _ _

/-- The rest of a text is read at shifted positions. -/
theorem at_drop {start position : Nat} :
    At p (text.drop start) position ↔ At p text (start + position) := by
  unfold At
  rw [List.getElem?_drop]

theorem at_cons_succ {head : α} {position : Nat} :
    At p (head :: text) (position + 1) ↔ At p text position := by
  unfold At
  rw [List.getElem?_cons_succ]

theorem at_cons_zero {head : α} : At p (head :: text) 0 ↔ p head = true := by
  simp [At]

/-- A stretch from the front consists of members that satisfy the predicate,
and the one behind it does not. -/
theorem takeWhile_spec (p : α → Bool) (text : List α) :
    (∀ position < (text.takeWhile p).length, At p text position) ∧
      ¬ At p text (text.takeWhile p).length := by
  induction text with
  | nil => simp [At]
  | cons head rest inductionHypothesis =>
      by_cases holds : p head = true
      · rw [List.takeWhile_cons_of_pos holds, List.length_cons, at_cons_succ]
        refine ⟨?_, inductionHypothesis.2⟩
        intro position inside
        cases position with
        | zero => exact at_cons_zero.mpr holds
        | succ position =>
            rw [at_cons_succ]
            exact inductionHypothesis.1 position (Nat.lt_of_succ_lt_succ inside)
      · rw [List.takeWhile_cons_of_neg holds, List.length_nil, at_cons_zero]
        exact ⟨fun position inside => absurd inside (Nat.not_lt_zero _), holds⟩

/-- All positions of a run are of the kind. -/
theorem at_of_lt_extent {start position : Nat} (begun : start ≤ position)
    (before : position < extent p text start) : At p text position := by
  have inside := (takeWhile_spec p (text.drop start)).1 (position - start)
  unfold extent at before
  rw [at_drop, Nat.add_sub_cancel' begun] at inside
  apply inside
  omega

/-- And the one behind it is not. -/
theorem not_at_extent (p : α → Bool) (text : List α) (start : Nat) :
    ¬ At p text (extent p text start) :=
  at_drop.not.mp (takeWhile_spec p (text.drop start)).2

/-- A stretch of members without the predicate and one of members with it get
further in the list. -/
theorem lt_extent_extent {start : Nat} (inList : start < text.length) :
    start < extent p text (extent (fun member => !p member) text start) := by
  have first : start ≤ extent (fun member => !p member) text start :=
    le_extent start
  rcases Nat.lt_or_eq_of_le first with further | same
  · exact Nat.lt_of_lt_of_le further (le_extent _)
  · rw [← same]
    rcases Nat.lt_or_eq_of_le (le_extent start) with further | stuck
    · exact further
    · have fails := not_at_extent p text start
      have holds := not_at_extent (fun member => !p member) text start
      rw [← stuck] at fails
      rw [← same] at holds
      exact absurd (at_not_of_not_at inList fails) holds

/-- A stretch that begins behind a member that does not satisfy the predicate
is a maximal run. -/
theorem maximalRun_extent {start : Nat}
    (front : start = 0 ∨ ¬ At p text (start - 1))
    (nonempty : start < extent p text start) :
    MaximalRun p text start (extent p text start) where
  nonempty := nonempty
  inside _ begun before := at_of_lt_extent begun before
  front := front
  back := not_at_extent p text start

end Scan
