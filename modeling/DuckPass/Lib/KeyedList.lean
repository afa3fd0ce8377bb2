/-
Module: DuckPass.Lib.KeyedList
Purpose: Ordered lists of records with a key: first-match lookup, in-place
  insert-or-replace and removal by key, with the laws that make such a list a
  finite map whenever its keys are distinct.
Trusted boundary: none
Main exports: KeyedList.lookup, KeyedList.upsert, KeyedList.eraseKey,
  KeyedList.Distinct, KeyedList.upsert_self_of_mem,
  KeyedList.map_upsert
-/
import Mathlib.Algebra.BigOperators.Group.List.Basic
import Mathlib.Algebra.Order.Ring.Nat
import Mathlib.Data.List.Nodup
import Mathlib.Data.List.Basic

namespace KeyedList

variable {α κ : Type} [DecidableEq κ]

/-- First record that carries the key. -/
def lookup (key : α → κ) (k : κ) (records : List α) : Option α :=
  records.find? fun record => key record = k

/-- Replace the first record that has the key of `record`, or append it. -/
def upsert (key : α → κ) (record : α) (records : List α) : List α :=
  match records.findIdx? (fun other => key other = key record) with
  | some index => records.set index record
  | none => records ++ [record]

/-- Remove every record that carries the key, keeping the others in order. -/
def eraseKey (key : α → κ) (k : κ) (records : List α) : List α :=
  records.filter fun record => key record ≠ k

/-- No key occurs twice. -/
def Distinct (key : α → κ) (records : List α) : Prop :=
  (records.map key).Nodup

section Lookup

variable {key : α → κ} {k : κ} {record head : α} {records : List α}

@[simp] theorem lookup_nil : lookup key k ([] : List α) = none := rfl

/-- The first record with the key is the one found. -/
theorem lookup_cons :
    lookup key k (head :: records) =
      if key head = k then some head else lookup key k records := by
  by_cases same : key head = k <;> simp [lookup, same]

/-- What is found has the key. -/
theorem key_of_lookup (found : lookup key k records = some record) :
    key record = k := by
  simpa using List.find?_some found

/-- And is one of the records. -/
theorem mem_of_lookup (found : lookup key k records = some record) :
    record ∈ records :=
  List.mem_of_find?_eq_some found

/-- With distinct keys every record is the one that is found. -/
theorem lookup_of_mem (distinct : Distinct key records)
    (member : record ∈ records) :
    lookup key (key record) records = some record := by
  induction records with
  | nil => cases member
  | cons head tail inductionHypothesis =>
      rw [Distinct, List.map_cons, List.nodup_cons] at distinct
      rw [lookup_cons]
      rcases List.mem_cons.mp member with rfl | inTail
      · rw [if_pos rfl]
      · have differs : key head ≠ key record := by
          intro same
          exact distinct.1 (same ▸ List.mem_map_of_mem inTail)
        rw [if_neg differs]
        exact inductionHypothesis distinct.2 inTail

/-- Nothing is found for a key that is not there, and only then. -/
theorem lookup_eq_none_iff :
    lookup key k records = none ↔ k ∉ records.map key := by
  simp only [lookup, List.find?_eq_none, decide_eq_true_eq, List.mem_map,
    not_exists, not_and]

end Lookup

section Upsert

variable {key : α → κ} {k : κ} {record head : α} {records : List α}

@[simp] theorem upsert_nil : upsert key record [] = [record] := rfl

/-- A record takes the place of the first one with its key. -/
theorem upsert_cons :
    upsert key record (head :: records) =
      if key head = key record then record :: records
      else head :: upsert key record records := by
  by_cases same : key head = key record
  · simp [upsert, List.findIdx?_cons, same]
  · simp only [upsert, List.findIdx?_cons, same, decide_false,
      Bool.false_eq_true, if_false]
    cases records.findIdx? fun other => decide (key other = key record) <;>
      simp

/-- A fresh key is appended. -/
theorem upsert_of_not_mem (fresh : key record ∉ records.map key) :
    upsert key record records = records ++ [record] := by
  induction records with
  | nil => rfl
  | cons head tail inductionHypothesis =>
      simp only [List.map_cons, List.mem_cons, not_or] at fresh
      rw [upsert_cons, if_neg (Ne.symm fresh.1), inductionHypothesis fresh.2]
      rfl

/-- Insert-or-replace keeps the key sequence, extended only by a fresh key. -/
theorem map_key_upsert :
    (upsert key record records).map key =
      if key record ∈ records.map key then records.map key
      else records.map key ++ [key record] := by
  induction records with
  | nil => simp
  | cons head tail inductionHypothesis =>
      rw [upsert_cons]
      by_cases same : key head = key record
      · simp [same]
      · simp only [if_neg same, List.map_cons, inductionHypothesis,
          List.mem_cons, Ne.symm same, false_or]
        split <;> simp

/-- Distinct keys stay distinct. -/
theorem distinct_upsert (distinct : Distinct key records) :
    Distinct key (upsert key record records) := by
  unfold Distinct at *
  rw [map_key_upsert]
  split
  · exact distinct
  · next fresh =>
      refine List.nodup_append.mpr ⟨distinct, List.nodup_singleton _, ?_⟩
      intro present inKeys other isNew
      rw [List.mem_singleton.mp isNew]
      rintro rfl
      exact fresh inKeys

/-- The record is found under its key, and the others as before. -/
theorem lookup_upsert :
    lookup key k (upsert key record records) =
      if key record = k then some record else lookup key k records := by
  induction records with
  | nil => simp [lookup_cons]
  | cons head tail inductionHypothesis =>
      rw [upsert_cons]
      by_cases same : key head = key record
      · by_cases hit : key record = k <;>
          simp [lookup_cons, same, hit]
      · rw [if_neg same, lookup_cons, inductionHypothesis, lookup_cons]
        by_cases hit : key record = k
        · have miss : key head ≠ k := fun headHit =>
            same (headHit.trans hit.symm)
          simp [hit, miss]
        · simp [hit]

/-- What is in the list then is the record or was there before. -/
theorem mem_upsert {other : α}
    (member : other ∈ upsert key record records) :
    other = record ∨ other ∈ records := by
  induction records with
  | nil => simpa using member
  | cons head tail inductionHypothesis =>
      rw [upsert_cons] at member
      split at member
      · rcases List.mem_cons.mp member with isRecord | inTail
        · exact .inl isRecord
        · exact .inr (List.mem_cons_of_mem _ inTail)
      · rcases List.mem_cons.mp member with isHead | inTail
        · exact .inr (isHead ▸ List.mem_cons_self)
        · exact (inductionHypothesis inTail).imp_right
            (List.mem_cons_of_mem _)

/-- Whatever a record weighs, one insertion adds at most its weight. -/
theorem sum_map_upsert_le (weight : α → Nat) :
    ((upsert key record records).map weight).sum ≤
      (records.map weight).sum + weight record := by
  induction records with
  | nil => simp
  | cons head tail inductionHypothesis =>
      rw [upsert_cons]
      split
      · simp only [List.map_cons, List.sum_cons]
        omega
      · simp only [List.map_cons, List.sum_cons]
        omega

end Upsert

section Erase

variable {key : α → κ} {k other : κ} {records : List α}

/-- Distinct keys stay distinct. -/
theorem distinct_eraseKey (distinct : Distinct key records) :
    Distinct key (eraseKey key k records) :=
  distinct.sublist ((List.filter_sublist (l := records)).map key)

/-- Nothing is found under the key, and the others as before. -/
theorem lookup_eraseKey :
    lookup key other (eraseKey key k records) =
      if other = k then none else lookup key other records := by
  induction records with
  | nil => simp [eraseKey]
  | cons head tail inductionHypothesis =>
      simp only [eraseKey] at inductionHypothesis ⊢
      rw [List.filter_cons]
      by_cases erased : key head = k
      · rw [if_neg (by simp [erased]), inductionHypothesis, lookup_cons]
        by_cases same : other = k
        · simp [same]
        · have miss : key head ≠ other := fun hit =>
            same (hit.symm.trans erased)
          simp [same, miss]
      · rw [if_pos (by simp [erased]), lookup_cons, inductionHypothesis,
          lookup_cons]
        by_cases same : other = k
        · have miss : key head ≠ other := fun hit =>
            erased (hit.trans same)
          simp [same, same ▸ miss]
        · simp [same]

/-- The list gets shorter exactly if the key was there. -/
theorem eraseKey_length_lt_iff :
    (eraseKey key k records).length < records.length ↔
      k ∈ records.map key := by
  rw [eraseKey, List.length_filter_lt_length_iff_exists]
  simp only [ne_eq, decide_not, Bool.not_eq_true', decide_eq_false_iff_not,
    not_not, List.mem_map]

end Erase

section Projection

variable {β : Type} {key : α → κ} {inner : β → κ} {project : α → β} {k : κ}
  {record : α} {records : List α}

/-- A record that is there already is written over itself. -/
theorem upsert_self_of_mem (distinct : Distinct key records)
    (member : record ∈ records) : upsert key record records = records := by
  induction records with
  | nil => cases member
  | cons head tail inductionHypothesis =>
      rw [Distinct, List.map_cons, List.nodup_cons] at distinct
      rw [upsert_cons]
      rcases List.mem_cons.mp member with rfl | inTail
      · rw [if_pos rfl]
      · have differs : key head ≠ key record := fun same =>
          distinct.1 (same ▸ List.mem_map_of_mem inTail)
        rw [if_neg differs, inductionHypothesis distinct.2 inTail]

/-- The operations see of a record only its key, so they can be made on any
part of the records that has it. -/
theorem map_upsert (through : ∀ record, inner (project record) = key record) :
    (upsert key record records).map project =
      upsert inner (project record) (records.map project) := by
  induction records with
  | nil => rfl
  | cons head tail inductionHypothesis =>
      rw [upsert_cons, List.map_cons, upsert_cons, through, through]
      split
      · rfl
      · rw [List.map_cons, inductionHypothesis]

/-- A projection that keeps the keys commutes with it. -/
theorem map_eraseKey
    (through : ∀ record, inner (project record) = key record) :
    (eraseKey key k records).map project =
      eraseKey inner k (records.map project) := by
  simp only [eraseKey, List.filter_map, Function.comp_def, through]

/-- So it does with a lookup. -/
theorem lookup_map (through : ∀ record, inner (project record) = key record) :
    lookup inner k (records.map project) =
      (lookup key k records).map project := by
  induction records with
  | nil => rfl
  | cons head tail inductionHypothesis =>
      rw [List.map_cons, lookup_cons, lookup_cons, through]
      split
      · rfl
      · exact inductionHypothesis

omit [DecidableEq κ] in
/-- And it keeps keys distinct. -/
theorem distinct_map (through : ∀ record, inner (project record) = key record)
    (distinct : Distinct key records) :
    Distinct inner (records.map project) := by
  unfold Distinct at *
  rw [List.map_map, show inner ∘ project = key from funext through]
  exact distinct

end Projection

end KeyedList
