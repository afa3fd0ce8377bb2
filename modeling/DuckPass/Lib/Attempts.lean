/-
Module: DuckPass.Lib.Attempts
Purpose: Postconditions of fallible computations: one for the value that is
  returned and one for the exception that is thrown, with the rule of
  composition.
Trusted boundary: none
Main exports: Attempts.Ends, Attempts.Ends.weaken, Attempts.Ends.bind
-/
import Mathlib.Init

namespace Attempts

variable {ε α β : Type}

/-- The computation returns a value of one kind or throws an exception of
another. -/
inductive Ends (returns : α → Prop) (raises : ε → Prop) :
    Except ε α → Prop where
  | returned {value : α} (holds : returns value) :
      Ends returns raises (.ok value)
  | threw {error : ε} (cause : raises error) :
      Ends returns raises (.error error)

namespace Ends

variable {returns : α → Prop} {finishes : β → Prop}
  {raises raisesNext : ε → Prop} {attempt : Except ε α}

theorem pure {value : α} (holds : returns value) :
    Ends returns raises (Pure.pure value : Except ε α) :=
  .returned holds

/-- The rule of consequence. -/
theorem weaken {weaker : α → Prop} (ends : Ends returns raises attempt)
    (value : ∀ value, returns value → weaker value)
    (error : ∀ error, raises error → raisesNext error) :
    Ends weaker raisesNext attempt := by
  cases ends with
  | returned holds => exact .returned (value _ holds)
  | threw cause => exact .threw (error _ cause)

/-- The rule of composition. -/
theorem bind {next : α → Except ε β} (ends : Ends returns raises attempt)
    (error : ∀ error, raises error → raisesNext error)
    (later : ∀ value, returns value →
      Ends finishes raisesNext (next value)) :
    Ends finishes raisesNext (attempt >>= next) := by
  cases ends with
  | returned holds => exact later _ holds
  | threw cause => exact .threw (error _ cause)

end Ends

end Attempts
