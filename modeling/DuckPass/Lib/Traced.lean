/-
Module: DuckPass.Lib.Traced
Purpose: Fallible computations that record what they do on the way, whether or
  not they end normally: what such a computation computes once the record is
  erased, and how much of one kind it records.
Trusted boundary: none
Main exports: Traced, Traced.Records, Traced.Records.bind,
  Traced.Computes, Traced.Computes.bind, Traced.Computes.guard,
  Traced.Computes.ite_bind, Traced.count, Traced.count_bind,
  Traced.Computes.count_bind_le
-/
import Mathlib.Data.List.Basic

/-- The events recorded, first to last, and the result or the exception. -/
structure Traced (ε : Type) (event : Type) (α : Type) where
  events : List event
  result : Except ε α

namespace Traced

variable {ε event α β : Type}

/-- Record one event. -/
def emit (now : event) : Traced ε event Unit := ⟨[now], .ok ()⟩

/-- End with an exception. -/
def fail (error : ε) : Traced ε event α := ⟨[], .error error⟩

/-- A computation that records nothing. -/
def quiet (result : Except ε α) : Traced ε event α := ⟨[], result⟩

/-- Go on with the result, if there is one; the events stay either way. -/
def andThen (first : Traced ε event α) (next : α → Traced ε event β) :
    Traced ε event β :=
  match first.result with
  | .error error => ⟨first.events, .error error⟩
  | .ok value => ⟨first.events ++ (next value).events, (next value).result⟩

instance : Monad (Traced ε event) where
  pure value := ⟨[], .ok value⟩
  bind := andThen

/-! ## What is recorded -/

/-- The events of the first part come first. -/
theorem mem_events_of_first {first : Traced ε event α}
    {next : α → Traced ε event β} {now : event}
    (member : now ∈ first.events) : now ∈ (first >>= next).events := by
  obtain ⟨events, result⟩ := first
  cases result with
  | error error => exact member
  | ok value => exact List.mem_append_left _ member

/-- And those of the second follow, if the first ends well. -/
theorem mem_events_of_next {first : Traced ε event α}
    {next : α → Traced ε event β} {now : event} {value : α}
    (ended : first.result = .ok value)
    (member : now ∈ (next value).events) :
    now ∈ (first >>= next).events := by
  obtain ⟨events, result⟩ := first
  dsimp only at ended
  subst ended
  exact List.mem_append_right _ member

/-- A computation that records the values of one variable ends with `final`,
where the variable has its first value or the one recorded for it. -/
structure Records (reading : α → event) (start : event)
    (traced : Traced ε event α) (final : α) : Prop where
  result : traced.result = .ok final
  recorded : reading final = start ∨ reading final ∈ traced.events

namespace Records

/-- A value alone leaves one reading. -/
theorem pure (reading : α → event) (value : α) :
    Records reading (reading value) (Pure.pure value : Traced ε event α)
      value :=
  ⟨rfl, .inl rfl⟩

/-- The rule of composition. -/
theorem bind {start middle : event} {first : Traced ε event event}
    {reading : β → event} {next : event → Traced ε event β} {final : β}
    (before : Records id start first middle)
    (after : Records reading middle (next middle) final) :
    Records reading start (first >>= next) final := by
  obtain ⟨events, result⟩ := first
  obtain ⟨ended, fromStart⟩ := before
  dsimp only at ended
  subst ended
  refine ⟨after.result, ?_⟩
  rcases after.recorded with unchanged | later
  · rw [unchanged]
    exact fromStart.imp_right mem_events_of_first
  · exact .inr (mem_events_of_next rfl later)

/-- A step that records something else. -/
theorem skip {start : event} {first : Traced ε event α}
    {reading : β → event} {next : α → Traced ε event β} {value : α}
    {final : β} (ended : first.result = .ok value)
    (after : Records reading start (next value) final) :
    Records reading start (first >>= next) final := by
  obtain ⟨events, result⟩ := first
  dsimp only at ended
  subst ended
  exact ⟨after.result, after.recorded.imp_right (mem_events_of_next rfl)⟩

end Records

/-! ## Erasure -/

/-- Without its record the computation is `reference`, and it records only what
is allowed. -/
structure Computes (allowed : event → Prop) (traced : Traced ε event α)
    (reference : Except ε α) : Prop where
  result : traced.result = reference
  allowed : ∀ now ∈ traced.events, allowed now

namespace Computes

variable {allowed : event → Prop} {traced : Traced ε event α}
  {reference : Except ε α}

/-- A value alone has no events. -/
theorem pure (value : α) :
    Computes allowed (Pure.pure value : Traced ε event α)
      (Pure.pure value) :=
  ⟨rfl, List.forall_mem_nil _⟩

/-- Nor has an error. -/
theorem fail (error : ε) :
    Computes allowed (Traced.fail error : Traced ε event α)
      (.error error) :=
  ⟨rfl, List.forall_mem_nil _⟩

/-- Nor has a result that is known. -/
theorem quiet (result : Except ε α) :
    Computes allowed (Traced.quiet result) result :=
  ⟨rfl, List.forall_mem_nil _⟩

/-- The rule of composition: the rest is looked at only for results that the
first part can have. -/
theorem bind (first : Computes allowed traced reference)
    {next : α → Traced ε event β} {nextReference : α → Except ε β}
    (rest : ∀ value, reference = .ok value →
      Computes allowed (next value) (nextReference value)) :
    Computes allowed (traced >>= next) (reference >>= nextReference) := by
  obtain ⟨events, result⟩ := traced
  obtain ⟨same, fine⟩ := first
  dsimp only at same
  subst same
  cases result with
  | error error => exact ⟨rfl, fine⟩
  | ok value =>
      obtain ⟨later, laterFine⟩ := rest value rfl
      refine ⟨later, ?_⟩
      intro now member
      rcases List.mem_append.mp member with earlier | after
      · exact fine now earlier
      · exact laterFine now after

/-- A first part that cannot fail. -/
theorem ok_bind {value : α} (first : Computes allowed traced (.ok value))
    {next : α → Traced ε event β} {nextReference : Except ε β}
    (rest : Computes allowed (next value) nextReference) :
    Computes allowed (traced >>= next) nextReference := by
  have later : ∀ other, (.ok value : Except ε α) = .ok other →
      Computes allowed (next other) nextReference := by
    intro other same
    cases same
    exact rest
  exact first.bind later

/-- An allowed event in front. -/
theorem emit_bind {now : event} (fine : allowed now)
    {next : Unit → Traced ε event β} {nextReference : Except ε β}
    (rest : Computes allowed (next ()) nextReference) :
    Computes allowed (emit now >>= next) nextReference := by
  obtain ⟨later, laterFine⟩ := rest
  refine ⟨later, ?_⟩
  intro other member
  rcases List.mem_cons.mp member with rfl | after
  · exact fine
  · exact laterFine other after

/-- A check before the rest. -/
theorem guard {bad : Prop} [Decidable bad] {error : ε}
    {rest : Unit → Except ε α}
    (fine : ¬ bad → Computes allowed traced (rest ())) :
    Computes allowed (if bad then Traced.fail error else traced)
      (if bad then throw error >>= rest else rest ()) := by
  split
  · exact Computes.fail error
  · next good => exact fine good

/-- Either branch of a condition, and then the rest. -/
theorem ite_bind {condition : Prop} [Decidable condition]
    {yes no : Traced ε event α} {yesReference noReference : Except ε α}
    (whenTrue : condition → Computes allowed yes yesReference)
    (whenFalse : ¬ condition → Computes allowed no noReference)
    {next : α → Traced ε event β} {nextReference : α → Except ε β}
    (rest : ∀ value,
      (if condition then yesReference else noReference) = .ok value →
        Computes allowed (next value) (nextReference value)) :
    Computes allowed (if condition then yes >>= next else no >>= next)
      (if condition then yesReference >>= nextReference
        else noReference >>= nextReference) := by
  split
  · next holds =>
      rw [if_pos holds] at rest
      exact (whenTrue holds).bind rest
  · next fails =>
      rw [if_neg fails] at rest
      exact (whenFalse fails).bind rest

/-- What is allowed may be weakened. -/
theorem mono {weaker : event → Prop}
    (computes : Computes allowed traced reference)
    (weaken : ∀ now, allowed now → weaker now) :
    Computes weaker traced reference :=
  ⟨computes.result, fun now member =>
    weaken now (computes.allowed now member)⟩

end Computes

/-! ## Counting -/

/-- How many of the events recorded are of the kind. -/
def count (kind : event → Bool) (traced : Traced ε event α) : Nat :=
  traced.events.countP kind

@[simp] theorem count_pure (kind : event → Bool) (value : α) :
    (Pure.pure value : Traced ε event α).count kind = 0 := rfl

/-- An event in front counts if it is of the kind. -/
theorem count_emit_bind (kind : event → Bool) (now : event)
    (next : Unit → Traced ε event α) :
    (emit now >>= next).count kind =
      (next ()).count kind + if kind now then 1 else 0 :=
  List.countP_cons

/-- The events of both parts count. -/
theorem count_bind (kind : event → Bool) (first : Traced ε event α)
    (next : α → Traced ε event β) :
    (first >>= next).count kind = first.count kind +
      match first.result with
      | .error _ => 0
      | .ok value => (next value).count kind := by
  obtain ⟨events, result⟩ := first
  cases result with
  | error error => rfl
  | ok value => exact List.countP_append

/-- Nothing of a kind that is not allowed is recorded. -/
theorem Computes.count_eq_zero {allowed : event → Prop}
    {traced : Traced ε event α} {reference : Except ε α}
    (computes : Computes allowed traced reference) {kind : event → Bool}
    (other : ∀ now, allowed now → kind now = false) :
    traced.count kind = 0 := by
  apply List.countP_eq_zero.mpr
  intro now member
  rw [other now (computes.allowed now member)]
  exact Bool.false_ne_true

/-- A first part that records nothing of the kind leaves the bound to the
rest. -/
theorem Computes.count_bind_le {allowed : event → Prop}
    {traced : Traced ε event α} {reference : Except ε α}
    (computes : Computes allowed traced reference) {kind : event → Bool}
    (other : ∀ now, allowed now → kind now = false)
    {next : α → Traced ε event β} {bound : Nat}
    (rest : ∀ value, reference = .ok value →
      (next value).count kind ≤ bound) :
    (traced >>= next).count kind ≤ bound := by
  rw [count_bind, computes.count_eq_zero other, computes.result,
    Nat.zero_add]
  cases reference with
  | error error => exact Nat.zero_le bound
  | ok value => exact rest value rfl

end Traced
