/-
Module: DuckPass.Lib.KeyedChanges
Purpose: Sequences of insertions and removals on a keyed list: the list
  simulates the finite map that goes through the same changes, and a lookup
  finds what was put last and not erased since.
Trusted boundary: none
Main exports: KeyedList.Change, KeyedList.Change.apply,
  KeyedList.Change.update, KeyedList.lookup_applyAll, KeyedList.Standing,
  KeyedList.lookup_applyAll_eq_some_iff, KeyedList.distinct_applyAll
-/
import DuckPass.Lib.KeyedList
import Mathlib.Data.List.Induction
import Mathlib.Logic.Function.Basic

namespace KeyedList

variable {α κ : Type} [DecidableEq κ]

/-- A change of a keyed list. -/
inductive Change (α κ : Type) where
  | put (record : α)
  | erase (k : κ)
deriving Repr, DecidableEq

namespace Change

/-- The only key whose record may change. -/
def target (key : α → κ) : Change α κ → κ
  | put record => key record
  | erase k => k

def apply (key : α → κ) (records : List α) : Change α κ → List α
  | put record => upsert key record records
  | erase k => eraseKey key k records

/-- The same change of a finite map. -/
def update (key : α → κ) (map : κ → Option α) :
    Change α κ → κ → Option α
  | put record => Function.update map (key record) (some record)
  | erase k => Function.update map k none

end Change

/-- The list after the changes, first to last. -/
def applyAll (key : α → κ) (changes : List (Change α κ)) : List α :=
  changes.foldl (Change.apply key) []

/-- The map after the changes, first to last. -/
def updateAll (key : α → κ) (changes : List (Change α κ)) : κ → Option α :=
  changes.foldl (Change.update key) fun _ => none

section Changes

variable {key : α → κ} {k : κ} {record : α} {records : List α}
  {change : Change α κ} {changes : List (Change α κ)}

/-! ## One change -/

/-- After a change its key has the record that was put, if one was. -/
theorem Change.update_target {map : κ → Option α} :
    change.update key map (change.target key) = some record ↔
      change = .put record := by
  cases change with
  | put other => simp [update, target]
  | erase erased => simp [update, target]

/-- Other keys have what they had. -/
theorem Change.update_of_ne {map : κ → Option α}
    (other : change.target key ≠ k) : change.update key map k = map k := by
  cases change with
  | put record => exact Function.update_of_ne (Ne.symm other) _ _
  | erase erased => exact Function.update_of_ne (Ne.symm other) _ _

/-- Looking up commutes with a change. -/
theorem lookup_apply :
    lookup key k (change.apply key records) =
      change.update key (fun other => lookup key other records) k := by
  cases change with
  | put record =>
      unfold Change.apply Change.update Function.update
      rw [lookup_upsert]
      by_cases same : k = key record
      · simp [same]
      · simp [same, Ne.symm same]
  | erase erased =>
      unfold Change.apply Change.update Function.update
      rw [lookup_eraseKey]
      by_cases same : k = erased
      · simp [same]
      · simp [same]

/-- A change keeps keys distinct. -/
theorem distinct_apply (distinct : Distinct key records) :
    Distinct key (change.apply key records) := by
  cases change with
  | put record => exact distinct_upsert distinct
  | erase erased => exact distinct_eraseKey distinct

/-- Erasing a key forgets what was put under it. -/
theorem eraseKey_upsert :
    eraseKey key (key record) (upsert key record records) =
      eraseKey key (key record) records := by
  induction records with
  | nil => simp [eraseKey]
  | cons head tail inductionHypothesis =>
      rw [upsert_cons]
      unfold eraseKey at inductionHypothesis ⊢
      split
      · next same => simp [same]
      · next differs =>
          rw [List.filter_cons, List.filter_cons, inductionHypothesis]

/-- The records under other keys stay as they are and where they are among
each other. -/
theorem eraseKey_target_apply :
    eraseKey key (change.target key) (change.apply key records) =
      eraseKey key (change.target key) records := by
  cases change with
  | put record => exact eraseKey_upsert
  | erase erased =>
      unfold Change.apply Change.target eraseKey
      rw [List.filter_filter]
      simp

/-- A record that is replaced stands where the old one stood. -/
theorem upsert_of_mem (present : key record ∈ records.map key) :
    ∃ front old back, records = front ++ old :: back ∧
      key old = key record ∧ key record ∉ front.map key ∧
      upsert key record records = front ++ record :: back := by
  induction records with
  | nil => cases present
  | cons head tail inductionHypothesis =>
      rw [upsert_cons]
      by_cases same : key head = key record
      · refine ⟨[], head, tail, rfl, same, List.not_mem_nil, ?_⟩
        rw [if_pos same]
        rfl
      · rw [List.map_cons, List.mem_cons] at present
        obtain ⟨front, old, back, split, oldKey, fresh, result⟩ :=
          inductionHypothesis (present.resolve_left (Ne.symm same))
        refine ⟨head :: front, old, back, ?_, oldKey, ?_, ?_⟩
        · rw [split]
          rfl
        · rw [List.map_cons, List.mem_cons, not_or]
          exact ⟨Ne.symm same, fresh⟩
        · rw [if_neg same, result]
          rfl

/-! ## All changes -/

/-- The last change is applied last. -/
theorem applyAll_append_singleton :
    applyAll key (changes ++ [change]) =
      change.apply key (applyAll key changes) := by
  unfold applyAll
  rw [List.foldl_append]
  rfl

/-- To the map as well. -/
theorem updateAll_append_singleton :
    updateAll key (changes ++ [change]) =
      change.update key (updateAll key changes) := by
  unfold updateAll
  rw [List.foldl_append]
  rfl

/-- All changes keep keys distinct. -/
theorem distinct_applyAll (key : α → κ) (changes : List (Change α κ)) :
    Distinct key (applyAll key changes) := by
  induction changes using List.reverseRecOn with
  | nil => exact List.nodup_nil
  | append_singleton changes change inductionHypothesis =>
      rw [applyAll_append_singleton]
      exact distinct_apply inductionHypothesis

/-- The list simulates the map. -/
theorem lookup_applyAll (key : α → κ) (k : κ)
    (changes : List (Change α κ)) :
    lookup key k (applyAll key changes) = updateAll key changes k := by
  induction changes using List.reverseRecOn generalizing k with
  | nil => rfl
  | append_singleton changes change inductionHypothesis =>
      rw [applyAll_append_singleton, updateAll_append_singleton,
        lookup_apply, funext inductionHypothesis]

/-- The record was put, and no later change is one of its key. -/
def Standing (key : α → κ) (changes : List (Change α κ)) (record : α) :
    Prop :=
  ∃ before after, changes = before ++ .put record :: after ∧
    ∀ later ∈ after, later.target key ≠ key record

omit [DecidableEq κ] in
/-- What stands after one more change. -/
theorem standing_append_singleton :
    Standing key (changes ++ [change]) record ↔
      change = .put record ∨
        change.target key ≠ key record ∧ Standing key changes record := by
  constructor
  · rintro ⟨before, after, split, quiet⟩
    rcases List.eq_nil_or_concat after with rfl | ⟨init, last, rfl⟩
    · exact .inl (List.append_inj_right' split rfl |> List.singleton_inj.mp)
    · have parts : changes ++ [change] =
          (before ++ .put record :: init) ++ [last] := by
        rw [split, List.concat_eq_append]
        simp
      obtain ⟨rfl, same⟩ := List.append_inj' parts rfl
      cases same
      refine .inr ⟨quiet _ (by simp), before, init, rfl, ?_⟩
      intro later member
      exact quiet later (by simp [member])
  · rintro (rfl | ⟨other, before, after, rfl, quiet⟩)
    · exact ⟨changes, [], rfl, List.forall_mem_nil _⟩
    · refine ⟨before, after ++ [change], by simp, ?_⟩
      intro later member
      rcases List.mem_append.mp member with earlier | isLast
      · exact quiet later earlier
      · rw [List.mem_singleton.mp isLast]
        exact other

/-- The map has a record exactly if it still stands. -/
theorem updateAll_eq_some_iff :
    updateAll key changes k = some record ↔
      key record = k ∧ Standing key changes record := by
  induction changes using List.reverseRecOn with
  | nil =>
      constructor
      · intro impossible
        cases impossible
      · rintro ⟨_, before, after, split, _⟩
        cases before <;> cases split
  | append_singleton changes change inductionHypothesis =>
      rw [updateAll_append_singleton, standing_append_singleton]
      by_cases touched : change.target key = k
      · subst touched
        rw [Change.update_target]
        constructor
        · rintro rfl
          exact ⟨rfl, .inl rfl⟩
        · rintro ⟨sameKey, same | ⟨other, _⟩⟩
          · exact same
          · exact absurd sameKey.symm other
      · rw [Change.update_of_ne touched, inductionHypothesis]
        constructor
        · rintro ⟨sameKey, standing⟩
          exact ⟨sameKey, .inr ⟨sameKey ▸ touched, standing⟩⟩
        · rintro ⟨sameKey, rfl | ⟨_, standing⟩⟩
          · exact absurd sameKey touched
          · exact ⟨sameKey, standing⟩

/-- A lookup finds what was put under the key last and not erased since. -/
theorem lookup_applyAll_eq_some_iff :
    lookup key k (applyAll key changes) = some record ↔
      key record = k ∧ Standing key changes record := by
  rw [lookup_applyAll, updateAll_eq_some_iff]

end Changes

end KeyedList
