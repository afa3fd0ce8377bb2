/-
Module: DuckPass.Proofs.CompletedLine
Purpose: What the shell does with a line that TAB has completed: `get` and
  `delete` name the service that was found, unless it looks like an option.
Trusted boundary: none
Main exports: trim_append, ShellCommand.parse_get,
  ShellCommand.parse_get_show, ShellCommand.parse_delete, ShellCommand.Names,
  ShellCommand.TakenAsShow, completion_names_service
-/
import DuckPass.Proofs.LineEditor

namespace DuckPass

/-! ## Trimming -/

/-- Trimming never makes a text longer. -/
theorem trimFront_length_le (text : SecureString) :
    (trimFront text).length ≤ text.length :=
  (List.dropWhile_suffix isSpace).length_le

/-- It is done when nothing gets shorter. -/
theorem trimFront_eq_of_length {text : SecureString}
    (long : text.length ≤ (trimFront text).length) : trimFront text = text :=
  (List.dropWhile_suffix isSpace).eq_of_length_le long

/-- A text that trimming leaves alone has no space at either end. -/
theorem ends_of_trim_eq {text : SecureString} (trimmed : trim text = text) :
    trimFront text = text ∧ trimFront text.reverse = text.reverse := by
  have front := trimFront_length_le text
  have back := trimFront_length_le (trimFront text).reverse
  have whole := congrArg List.length trimmed
  rw [trim, List.length_reverse] at whole
  rw [List.length_reverse] at back
  have atFront : trimFront text = text := trimFront_eq_of_length (by omega)
  rw [trim, atFront] at trimmed
  exact ⟨atFront, List.reverse_eq_iff.mp trimmed⟩

theorem trimFront_cons {c : UInt8} (begins : isSpace c = false)
    (rest : SecureString) : trimFront (c :: rest) = c :: rest :=
  List.dropWhile_cons_of_neg (ne_true_of_eq_false begins)

/-- What is behind a text that does not begin with spaces does not matter. -/
theorem trimFront_append {front : SecureString} (some : front ≠ [])
    (kept : trimFront front = front) (rest : SecureString) :
    trimFront (front ++ rest) = front ++ rest := by
  cases front with
  | nil => exact absurd rfl some
  | cons c front => exact trimFront_cons (not_of_dropWhile_eq kept) _

/-- A line that begins with no space and ends with a trimmed text. -/
theorem trim_append {front back : SecureString} {c : UInt8}
    (begins : isSpace c = false) (ends : trim back = back)
    (some : back ≠ []) : trim (c :: front ++ back) = c :: front ++ back := by
  have reversed : back.reverse ≠ [] := mt List.reverse_eq_nil_iff.mp some
  rw [trim, List.cons_append, trimFront_cons begins, ← List.cons_append,
    List.reverse_append, trimFront_append reversed (ends_of_trim_eq ends).2,
    ← List.reverse_append, List.reverse_reverse]

/-! ## The command -/

namespace ShellCommand

/-- What a `get` asks for is told by its argument. -/
theorem parse_get_eq (rest : SecureBytes) :
    parse (textBytes "get" ++ 0x20 :: rest) =
      match argumentOf "--show " (trimFront rest) with
      | some service => .get true service
      | none => .get false (trimFront rest) := by
  have word : textBytes "get" = [0x67, 0x65, 0x74] := by decide
  have named : argumentOf "get " (textBytes "get" ++ 0x20 :: rest) =
      some (trimFront rest) := by
    rw [word]
    rfl
  rw [word] at named ⊢
  simp only [parse, named]
  rfl

/-- `get` of a service, unless the argument asks for the password to be
shown. -/
theorem parse_get {rest : SecureBytes}
    (plain : ¬ textBytes "--show " <+: trimFront rest) :
    parse (textBytes "get" ++ 0x20 :: rest) =
      .get false (trimFront rest) := by
  rw [parse_get_eq, argumentOf, if_neg plain]

/-- With `--show ` in front, it is another service that is shown. -/
theorem parse_get_show {rest : SecureBytes}
    (asks : textBytes "--show " <+: trimFront rest) :
    parse (textBytes "get" ++ 0x20 :: rest) =
      .get true (trimFront ((trimFront rest).drop 7)) := by
  rw [parse_get_eq, argumentOf, if_pos asks]
  rfl

/-- A `delete` takes its argument as it is. -/
theorem parse_delete (rest : SecureBytes) :
    parse (textBytes "delete" ++ 0x20 :: rest) = .delete (trimFront rest) := by
  have word : textBytes "delete" = [0x64, 0x65, 0x6C, 0x65, 0x74, 0x65] := by
    decide
  rw [word]
  simp [parse, argumentOf, textBytes]

/-- The command on a service that a line stands for. -/
def Names (command : ShellCommand) (word : SecureBytes)
    (service : SecureString) : Prop :=
  word = textBytes "get" ∧ command = .get false service ∨
    word = textBytes "delete" ∧ command = .delete service

/-- The line is one of `get` with `--show ` as the beginning of the service. -/
def TakenAsShow (word service : SecureBytes) : Prop :=
  word = textBytes "get" ∧ textBytes "--show " <+: service

/-- A completed line names its service unless the argument is taken as the
option. -/
theorem names_iff_of_blanks {word blanks service : SecureBytes}
    (serves : word = textBytes "get" ∨ word = textBytes "delete")
    (spaces : ∀ c ∈ blanks, isSpace c = true) (trimmed : trim service = service)
    (some : service ≠ []) :
    (parse (trim (word ++ 0x20 :: blanks ++ service))).Names word service ↔
      ¬ TakenAsShow word service := by
  have argument : trimFront (blanks ++ service) = service := by
    rw [trimFront, List.dropWhile_append_of_pos spaces, ← trimFront]
    exact (ends_of_trim_eq trimmed).1
  obtain rfl | rfl := serves
  · have kept := @trim_append ([0x65, 0x74] ++ 0x20 :: blanks) service 0x67
      (by decide) trimmed some
    have line : textBytes "get" ++ 0x20 :: blanks ++ service =
        0x67 :: ([0x65, 0x74] ++ 0x20 :: blanks) ++ service := rfl
    rw [line, kept, ← line, List.append_assoc, List.cons_append]
    by_cases asks : textBytes "--show " <+: service
    · rw [parse_get_show (by rwa [argument])]
      refine iff_of_false ?_ (not_not.mpr ⟨rfl, asks⟩)
      rintro (⟨_, impossible⟩ | ⟨impossible, _⟩)
      · cases impossible
      · exact absurd impossible (by decide)
    · rw [parse_get (by rwa [argument]), argument]
      exact iff_of_true (.inl ⟨rfl, rfl⟩) (fun taken => asks taken.2)
  · have kept := @trim_append
      ([0x65, 0x6C, 0x65, 0x74, 0x65] ++ 0x20 :: blanks) service 0x64
      (by decide) trimmed some
    have line : textBytes "delete" ++ 0x20 :: blanks ++ service =
        0x64 :: ([0x65, 0x6C, 0x65, 0x74, 0x65] ++ 0x20 :: blanks) ++
          service := rfl
    rw [line, kept, ← line, List.append_assoc, List.cons_append, parse_delete,
      argument]
    refine iff_of_true (.inr ⟨rfl, rfl⟩) ?_
    rintro ⟨impossible, _⟩
    exact absurd impossible (by decide)

end ShellCommand

/-- The services as the shell's own prompts accept them. -/
def LineRequest.Trimmed (request : LineRequest) : Prop :=
  ∀ s ∈ request.services, s ≠ [] ∧ trim s = s

/-- If TAB changes a line with a command and a space in it, one service alone
begins with the argument typed, and the line then asks for that service, unless
`get` takes the beginning of it for its option. -/
theorem completion_names_service {request : LineRequest}
    (trimmed : request.Trimmed) {buffer : SecureString}
    (spaced : afterCommand buffer ≠ [])
    (changed : (request.complete buffer).1 ≠ buffer) :
    ∃ service, request.services.filter
        ((argumentPart buffer).isPrefixOf ·) = [service] ∧
      ((ShellCommand.parse (trim (request.complete buffer).1)).Names
          (commandWord buffer) service ↔
        ¬ ShellCommand.TakenAsShow (commandWord buffer) service) := by
  obtain same | ⟨completion, service, completes, unique, completed⟩ :=
    request.complete_cases buffer
  · exact absurd same changed
  obtain ⟨plain, _⟩ | ⟨_, serves, rfl⟩ :=
    LineRequest.completionOf_cases completes
  · exact absurd plain spaced
  have member := Completion.mem_found.mp
    (unique.symm ▸ List.mem_singleton_self service)
  obtain ⟨some, ends⟩ := trimmed service member.1
  rw [Completion.found_eq] at unique
  refine ⟨service, unique, ?_⟩
  cases tail : afterCommand buffer with
  | nil => exact absurd tail spaced
  | cons c rest =>
      have blank : c = 0x20 := by
        simpa [isBlank] using not_of_dropWhile_eq tail
      have spaces : ∀ c ∈ rest.takeWhile isBlank, isSpace c = true := by
        intro c member
        have blank : isBlank c = true := List.mem_takeWhile_imp member
        exact eq_of_beq blank ▸ by decide
      have written : (request.complete buffer).1 =
          commandWord buffer ++ 0x20 :: rest.takeWhile isBlank ++ service := by
        rw [completed, beforeArgument, tail, blank]
        rfl
      rw [written]
      exact ShellCommand.names_iff_of_blanks serves spaces ends some

theorem completion_names_service_mail :
    ∃ service, mailPrompt.services.filter
        ((argumentPart (textBytes "get mai")).isPrefixOf ·) = [service] ∧
      ((ShellCommand.parse (trim (mailPrompt.complete
        (textBytes "get mai")).1)).Names
          (commandWord (textBytes "get mai")) service ↔
        ¬ ShellCommand.TakenAsShow (commandWord (textBytes "get mai"))
          service) :=
  completion_names_service (by unfold LineRequest.Trimmed; decide +kernel)
    (by decide +kernel) (by decide +kernel)

end DuckPass
