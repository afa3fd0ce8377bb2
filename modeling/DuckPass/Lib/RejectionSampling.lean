/-
Module: DuckPass.Lib.RejectionSampling
Purpose: Reading a word off a stream by rejecting some letters and translating
  the others: what more of the stream changes, and how many streams give a
  word when every letter has equally many accepted sources.
Trusted boundary: none
Main exports: RejectionSampling.collect, RejectionSampling.collect_of_prefix,
  RejectionSampling.countStreams, RejectionSampling.count_images,
  RejectionSampling.count_collect_eq
-/
import Mathlib.Algebra.BigOperators.Fin
import Mathlib.Data.Fintype.BigOperators
import Mathlib.Data.List.OfFn

namespace RejectionSampling

variable {β γ : Type}

/-- The first accepted letters of the stream, translated. -/
def collect (accept : β → Bool) (read : β → γ) (wanted : Nat)
    (stream : List β) : List γ :=
  ((stream.filter accept).take wanted).map read

section Collect

variable {accept : β → Bool} {read : β → γ} {wanted : Nat}
  {stream longer : List β} {b : β}

theorem collect_zero : collect accept read 0 stream = [] := rfl

theorem collect_nil : collect accept read wanted [] = [] := by
  simp [collect]

theorem collect_cons_accepted (accepted : accept b = true) :
    collect accept read (wanted + 1) (b :: stream) =
      read b :: collect accept read wanted stream := by
  simp [collect, accepted]

theorem collect_cons_rejected (rejected : accept b = false) :
    collect accept read wanted (b :: stream) =
      collect accept read wanted stream := by
  simp [collect, rejected]

/-- Reading on where the first part of the stream left off. -/
theorem collect_append (rest : List β) :
    collect accept read wanted (stream ++ rest) =
      collect accept read wanted stream ++
        collect accept read
          (wanted - (collect accept read wanted stream).length) rest := by
  unfold collect
  rw [List.filter_append, List.take_append, List.map_append,
    List.length_map, List.length_take]
  congr 3
  omega

/-- Once enough is read, more of the stream changes nothing. -/
theorem collect_of_prefix (begins : stream <+: longer)
    (enough : (collect accept read wanted stream).length = wanted) :
    collect accept read wanted longer = collect accept read wanted stream := by
  obtain ⟨rest, rfl⟩ := begins
  unfold collect at enough ⊢
  rw [List.length_map, List.length_take] at enough
  have enough := min_eq_left_iff.mp enough
  rw [List.filter_append, List.take_append_of_le_length enough]

end Collect

/-! ## Counting streams -/

section Count

variable [Fintype β]

/-- How many streams of a length have the property. -/
def countStreams (length : Nat) (p : List β → Prop) [DecidablePred p] : Nat :=
  (Finset.univ.filter fun stream : Fin length → β =>
    p (List.ofFn stream)).card

theorem countStreams_zero (p : List β → Prop) [DecidablePred p] :
    countStreams 0 p = if p [] then 1 else 0 := by
  unfold countStreams
  simp [apply_ite Finset.card]

theorem countStreams_succ (length : Nat) (p : List β → Prop)
    [DecidablePred p] :
    countStreams (length + 1) p =
      ∑ b, countStreams length fun stream => p (b :: stream) := by
  unfold countStreams
  simp only [Finset.card_filter]
  rw [← (Fin.consEquiv fun _ => β).sum_comp, Fintype.sum_prod_type]
  simp [Fin.consEquiv]

/-- The count does not depend on how the property is decided. -/
theorem countStreams_congr {length : Nat} {p q : List β → Prop}
    {decideP : DecidablePred p} {decideQ : DecidablePred q}
    (same : ∀ stream, p stream ↔ q stream) :
    countStreams length p = countStreams length q := by
  unfold countStreams
  simp only [same]

/-- A condition that does not depend on the stream. -/
theorem countStreams_and {length : Nat} {condition : Prop}
    [Decidable condition] {p : List β → Prop} [DecidablePred p] :
    countStreams length (fun stream => condition ∧ p stream) =
      if condition then countStreams length p else 0 := by
  unfold countStreams
  split
  · next holds => simp [holds]
  · next fails => simp [fails]

/-! ### Letters with equally many sources -/

variable [DecidableEq γ] {accept : β → Bool} {read : β → γ} {k : Nat}
  {c : γ} {word first second : List γ}

/-- How many accepted letters are read as `c`. -/
def sources (accept : β → Bool) (read : β → γ) (c : γ) : Nat :=
  (Finset.univ.filter fun b => accept b = true ∧ read b = c).card

/-- The streams of accepted letters that are read as the word. -/
theorem count_images (even : ∀ c ∈ word, sources accept read c = k) :
    countStreams word.length (fun stream =>
        (∀ b ∈ stream, accept b = true) ∧ stream.map read = word) =
      k ^ word.length := by
  induction word with
  | nil =>
      rw [List.length_nil, countStreams_zero]
      simp
  | cons c word inductionHypothesis =>
      have head := even c List.mem_cons_self
      have tail := inductionHypothesis fun other member =>
        even other (List.mem_cons_of_mem c member)
      have split : ∀ b, countStreams word.length (fun stream =>
          (∀ x ∈ b :: stream, accept x = true) ∧
            (b :: stream).map read = c :: word) =
          if accept b = true ∧ read b = c then k ^ word.length else 0 := by
        intro b
        rw [← tail, ← countStreams_and]
        apply countStreams_congr
        intro stream
        simp only [List.forall_mem_cons, List.map_cons, List.cons.injEq]
        tauto
      rw [List.length_cons, countStreams_succ, Finset.sum_congr rfl
        fun b _ => split b, ← Finset.sum_filter, Finset.sum_const,
        smul_eq_mul, pow_succ']
      exact congrArg (· * _) head

/-- How a stream goes on depends on whether its first letter is accepted. -/
theorem count_collect_cons (length : Nat) :
    countStreams (length + 1) (fun stream =>
        collect accept read (word.length + 1) stream = c :: word) =
      sources accept read c * countStreams length (fun stream =>
          collect accept read word.length stream = word) +
        (Finset.univ.filter fun b => accept b = false).card *
          countStreams length (fun stream =>
            collect accept read (word.length + 1) stream = c :: word) := by
  have split : ∀ b, countStreams length (fun stream =>
      collect accept read (word.length + 1) (b :: stream) = c :: word) =
      (if accept b = true ∧ read b = c then
          countStreams length fun stream =>
            collect accept read word.length stream = word
        else 0) +
        if accept b = false then
          countStreams length fun stream =>
            collect accept read (word.length + 1) stream = c :: word
        else 0 := by
    intro b
    cases accepted : accept b with
    | true =>
        simp only [Bool.true_eq_false, if_false, Nat.add_zero]
        rw [← countStreams_and]
        apply countStreams_congr
        intro stream
        rw [collect_cons_accepted accepted, List.cons.injEq]
        tauto
    | false =>
        rw [if_neg (by simp), if_pos rfl, Nat.zero_add]
        apply countStreams_congr
        intro stream
        rw [collect_cons_rejected accepted]
  rw [countStreams_succ, Finset.sum_congr rfl fun b _ => split b,
    Finset.sum_add_distrib, ← Finset.sum_filter, ← Finset.sum_filter,
    Finset.sum_const, Finset.sum_const, smul_eq_mul, smul_eq_mul]
  rfl

/-- Equally many streams give one word as another of its length. -/
theorem count_collect_eq (length : Nat)
    (evenFirst : ∀ c ∈ first, sources accept read c = k)
    (evenSecond : ∀ c ∈ second, sources accept read c = k)
    (sameLength : first.length = second.length) :
    countStreams length
        (fun stream => collect accept read first.length stream = first) =
      countStreams length
        (fun stream => collect accept read second.length stream = second) := by
  induction length generalizing first second with
  | zero =>
      rw [countStreams_zero, countStreams_zero, collect_nil, collect_nil]
      cases first with
      | nil =>
          cases second with
          | nil => rfl
          | cons d second => cases sameLength
      | cons c first =>
          cases second with
          | nil => cases sameLength
          | cons d second => rfl
  | succ length inductionHypothesis =>
      cases first with
      | nil =>
          cases second with
          | nil => rfl
          | cons d second => cases sameLength
      | cons c first =>
          cases second with
          | nil => cases sameLength
          | cons d second =>
              have tails := Nat.succ.inj sameLength
              rw [List.forall_mem_cons] at evenFirst evenSecond
              rw [List.length_cons, List.length_cons, count_collect_cons,
                count_collect_cons, evenFirst.1, evenSecond.1,
                inductionHypothesis evenFirst.2 evenSecond.2 tails]
              have whole := @inductionHypothesis (c :: first) (d :: second)
                (List.forall_mem_cons.mpr evenFirst)
                (List.forall_mem_cons.mpr evenSecond) sameLength
              rw [List.length_cons, List.length_cons] at whole
              rw [whole]

end Count

end RejectionSampling
