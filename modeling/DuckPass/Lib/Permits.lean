/-
Module: DuckPass.Lib.Permits
Purpose: A counting semaphore and the threads that hold its permits.
Trusted boundary: none
Main exports: Permits.Balanced, Permits.Balanced.handOver,
  Permits.Balanced.keep, Permits.Balanced.release, Permits.Balanced.le,
  Permits.Balanced.exists_holder
-/
import Mathlib.Data.List.Count

namespace Permits

variable {τ : Type} {holds : τ → Bool} {capacity free : Nat}
  {threads : List τ} {thread next : τ} {position : Nat}

/-- Every permit is free, or one of the threads holds it. -/
def Balanced (holds : τ → Bool) (capacity free : Nat) (threads : List τ) :
    Prop :=
  free + threads.countP holds = capacity

/-- A permit goes with a thread that is started. -/
theorem Balanced.handOver
    (balanced : Balanced holds capacity (free + 1) threads)
    (held : holds thread = true) :
    Balanced holds capacity free (threads ++ [thread]) := by
  unfold Balanced at balanced ⊢
  rw [List.countP_append, List.countP_singleton, if_pos held]
  omega

/-- How many hold a permit after one thread has gone on. -/
theorem countP_set_add (found : threads[position]? = some thread) :
    (threads.set position next).countP holds +
        (if holds thread then 1 else 0) =
      threads.countP holds + (if holds next then 1 else 0) := by
  obtain ⟨inside, rfl⟩ := List.getElem?_eq_some_iff.mp found
  rw [List.countP_set inside]
  by_cases held : holds threads[position] = true
  · have some : 0 < threads.countP holds :=
      List.countP_pos_iff.mpr ⟨_, List.getElem_mem inside, held⟩
    rw [if_pos held]
    omega
  · rw [if_neg held]
    omega

/-- A thread goes on without taking a permit or giving one back. -/
theorem Balanced.keep (balanced : Balanced holds capacity free threads)
    (found : threads[position]? = some thread)
    (same : holds next = holds thread) :
    Balanced holds capacity free (threads.set position next) := by
  have counted := @countP_set_add _ holds _ _ next _ found
  rw [same] at counted
  unfold Balanced at balanced ⊢
  omega

/-- A thread gives its permit back. -/
theorem Balanced.release (balanced : Balanced holds capacity free threads)
    (found : threads[position]? = some thread) (held : holds thread = true)
    (released : holds next = false) :
    Balanced holds capacity (free + 1) (threads.set position next) := by
  have counted := @countP_set_add _ holds _ _ next _ found
  rw [held, released] at counted
  unfold Balanced at balanced ⊢
  simp only [if_true, Bool.false_eq_true, if_false] at counted
  omega

theorem Balanced.le (balanced : Balanced holds capacity free threads) :
    free ≤ capacity ∧ threads.countP holds ≤ capacity := by
  unfold Balanced at balanced
  omega

/-- When no permit is free, some thread holds one. -/
theorem Balanced.exists_holder
    (balanced : Balanced holds capacity 0 threads) (some : 0 < capacity) :
    ∃ thread ∈ threads, holds thread = true := by
  unfold Balanced at balanced
  exact List.countP_pos_iff.mp (by omega)

end Permits
