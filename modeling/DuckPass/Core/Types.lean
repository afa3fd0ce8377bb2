/-
Module: DuckPass.Core.Types
Purpose: Byte strings, the exception classes and the wall clock shared by
  every part of the model.
Trusted boundary: none
Main exports: SecureString, SecureBytes, DuckpassError, DuckpassError.what,
  Clock
-/
import Mathlib.Init

namespace DuckPass

/-- Contents of a `duckpass::SecureString` (and of a `ProtectedString`, whose
`unprotect` returns the string it was built from). -/
abbrev SecureString := List UInt8

/-- Contents of a `duckpass::SecureBytes` or of a span over one. -/
abbrev SecureBytes := List UInt8

/-- The exceptions of `exceptions.h` and the two standard ones the vault code
throws.  Each carries the text its constructor receives. -/
inductive DuckpassError where
  | wrongPassword
  | vaultCorrupted (detail : String)
  | vaultIo (path : String)
  | crypto (message : String)
  | runtimeError (message : String)
  | invalidArgument (message : String)
deriving Repr, Inhabited, DecidableEq

/-- A text of the program as its bytes.  Every character stands for one byte:
the texts of the source are ASCII, and a byte that a message quotes is kept as
the character of that number. -/
def textBytes (text : String) : SecureBytes :=
  text.toList.map fun char => UInt8.ofNat char.toNat

/-- A byte string quoted in a message. -/
def quoteBytes (bytes : SecureBytes) : String :=
  String.ofList (bytes.map fun byte => Char.ofNat byte.toNat)

namespace DuckpassError

/-- The text the exception object holds. -/
def message : DuckpassError → String
  | wrongPassword => "Invalid master password."
  | vaultCorrupted detail =>
      "Vault data is corrupted or has an invalid structure. " ++ detail
  | vaultIo path => "Failed to read or write vault file: " ++ path
  | crypto message => "Crypto Operation Failed: " ++ message
  | runtimeError message => message
  | invalidArgument message => message

/-- `what()`: a C string, which ends at the first NUL byte of the text. -/
def what (error : DuckpassError) : SecureBytes :=
  (textBytes error.message).takeWhile (· ≠ 0)

end DuckpassError

/-- A chain of fallible steps ends normally exactly when each step does. -/
theorem bind_eq_ok {ε α β : Type} {first : Except ε α}
    {next : α → Except ε β} {result : β} :
    (first >>= next) = .ok result ↔
      ∃ value, first = .ok value ∧ next value = .ok result := by
  cases first with
  | error error =>
      constructor
      · intro impossible
        cases impossible
      · rintro ⟨value, impossible, _⟩
        cases impossible
  | ok value =>
      constructor
      · intro finished
        exact ⟨value, rfl, finished⟩
      · rintro ⟨other, same, finished⟩
        cases same
        exact finished

/-- A chain that begins with a check ends normally only past it. -/
theorem throwIf_eq_ok {α : Type} {bad : Prop} [Decidable bad]
    {error : DuckpassError} {rest : Unit → Except DuckpassError α}
    {result : α}
    (finished :
      (if bad then throw error >>= rest else rest ()) = .ok result) :
    ¬ bad ∧ rest () = .ok result := by
  split at finished
  · cases finished
  · next fine => exact ⟨fine, finished⟩

/-- A chain that goes on after either branch of a condition ends normally
exactly when the branch taken and the rest do. -/
theorem iteBind_eq_ok {α β : Type} {condition : Prop} [Decidable condition]
    {yes no : Except DuckpassError α} {next : α → Except DuckpassError β}
    {result : β} :
    (if condition then yes >>= next else no >>= next) = .ok result ↔
      ∃ value, (if condition then yes else no) = .ok value ∧
        next value = .ok result := by
  split
  · exact bind_eq_ok
  · exact bind_eq_ok

/-- The `std::time(nullptr)` readings a call will see, in the order in which it
asks for them. -/
structure Clock where
  reading : Nat → UInt64

namespace Clock

/-- The next reading. -/
def time (clock : Clock) : UInt64 := clock.reading 0

/-- The clock after one reading was taken. -/
def tick (clock : Clock) : Clock := ⟨fun index => clock.reading (index + 1)⟩

/-- A clock that stands still. -/
def constant (now : UInt64) : Clock := ⟨fun _ => now⟩

/-- Every reading satisfies `p`. -/
def All (clock : Clock) (p : UInt64 → Prop) : Prop :=
  ∀ index, p (clock.reading index)

/-- No reading is the epoch, which the vault format uses for "not set". -/
def NonZero (clock : Clock) : Prop := clock.All (· ≠ 0)

/-- A clock all of whose times meet a condition shows one that does. -/
theorem All.time {clock : Clock} {p : UInt64 → Prop} (all : clock.All p) :
    p clock.time := all 0

/-- So does the clock after it has been read. -/
theorem All.tick {clock : Clock} {p : UInt64 → Prop} (all : clock.All p) :
    clock.tick.All p := fun index => all (index + 1)

theorem all_constant {p : UInt64 → Prop} {now : UInt64} (holds : p now) :
    (constant now).All p := fun _ => holds

theorem nonZero_constant {now : UInt64} (set : now ≠ 0) :
    (constant now).NonZero := all_constant set

end Clock

end DuckPass
