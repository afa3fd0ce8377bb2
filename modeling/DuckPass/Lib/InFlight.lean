/-
Module: DuckPass.Lib.InFlight
Purpose: Requests in flight, in the order they were sent, of which any may be
  answered next, and whether one of them is of a given kind.
Trusted boundary: none
Main exports: InFlight.Awaited, InFlight.awaited_append,
  InFlight.Awaited.answered, InFlight.sum_eraseIdx, InFlight.sum_set_add
-/
import Mathlib.Algebra.BigOperators.Group.List.Basic
import Mathlib.Algebra.Order.Ring.Nat

namespace InFlight

variable {ρ : Type} {kind : ρ → Bool} {pending sent : List ρ} {request : ρ}
  {index : Nat}

/-- A request of the kind is in flight. -/
def Awaited (kind : ρ → Bool) (pending : List ρ) : Prop :=
  ∃ request ∈ pending, kind request = true

@[simp] theorem not_awaited_nil : ¬ Awaited kind [] := by
  rintro ⟨request, member, -⟩
  cases member

/-- What is awaited is among the first or the second. -/
theorem awaited_append :
    Awaited kind (pending ++ sent) ↔
      Awaited kind pending ∨ Awaited kind sent := by
  unfold Awaited
  simp only [List.mem_append, or_and_right, exists_or]

@[simp] theorem awaited_singleton :
    Awaited kind [request] ↔ kind request = true := by
  simp [Awaited]

/-- Every request is the answered one or still on its way. -/
theorem mem_of_getElem?_eraseIdx (answered : pending[index]? = some request) :
    ∀ other ∈ pending, other = request ∨ other ∈ pending.eraseIdx index := by
  intro other member
  obtain ⟨position, found⟩ := List.mem_iff_getElem?.mp member
  by_cases same : position = index
  · rw [same, answered] at found
    exact .inl (Option.some.inj found).symm
  · exact .inr (List.mem_eraseIdx_iff_getElem?.mpr ⟨position, same, found⟩)

/-- What was awaited is the request that is answered, or still awaited. -/
theorem Awaited.answered (awaited : Awaited kind pending)
    (answered : pending[index]? = some request) :
    kind request = true ∨ Awaited kind (pending.eraseIdx index) := by
  obtain ⟨other, member, ofKind⟩ := awaited
  obtain rfl | later := mem_of_getElem?_eraseIdx answered other member
  · exact .inl ofKind
  · exact .inr ⟨other, later, ofKind⟩

/-- What is left weighs less by the request that is answered. -/
theorem sum_eraseIdx (weight : ρ → Nat)
    (answered : pending[index]? = some request) :
    weight request + ((pending.eraseIdx index).map weight).sum =
      (pending.map weight).sum := by
  induction pending generalizing index with
  | nil => cases answered
  | cons first rest inductionHypothesis =>
      cases index with
      | zero =>
          obtain rfl : first = request := Option.some.inj answered
          rw [List.eraseIdx_cons_zero, List.map_cons, List.sum_cons]
      | succ index =>
          have rest := @inductionHypothesis index answered
          rw [List.eraseIdx_cons_succ, List.map_cons, List.map_cons,
            List.sum_cons, List.sum_cons]
          omega

/-- What weighs differently after one request has changed. -/
theorem sum_set_add (weight : ρ → Nat) (other : ρ)
    (found : pending[index]? = some request) :
    ((pending.set index other).map weight).sum + weight request =
      (pending.map weight).sum + weight other := by
  induction pending generalizing index with
  | nil => cases found
  | cons first rest inductionHypothesis =>
      cases index with
      | zero =>
          obtain rfl : first = request := Option.some.inj found
          rw [List.set_cons_zero, List.map_cons, List.map_cons, List.sum_cons,
            List.sum_cons]
          omega
      | succ index =>
          have rest := @inductionHypothesis index found
          rw [List.set_cons_succ, List.map_cons, List.map_cons, List.sum_cons,
            List.sum_cons]
          omega

end InFlight
