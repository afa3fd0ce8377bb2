/-
Module: DuckPass.Proofs.TerminalShell
Purpose: A session of the shell on a terminal, where a line is typed at each
  prompt, and one that reads the same characters from a pipe run alike, as long
  as the terminal can be set.
Trusted boundary: none
Main exports: keysAt, Typed, LineReader.read_plain, runTerminalLoop_plain,
  terminal_session_like_pipe
-/
import DuckPass.Core.TerminalShell
import DuckPass.Proofs.LineEditor
import DuckPass.Proofs.ShellInput
import DuckPass.System.Symbolic

namespace DuckPass

/-- Characters and line ends. -/
def PlainKeys (input : SecureBytes) : Prop :=
  ∀ c ∈ input, endsLine c = true ∨ isControl c = false

instance (input : SecureBytes) : Decidable (PlainKeys input) :=
  inferInstanceAs (Decidable (∀ _ ∈ input, _))

/-! ## One line -/

/-- A reader leaves the end of its input. -/
theorem readLine_rest_suffix (input : SecureBytes) :
    (readLine input).2 <:+ input := by
  induction input with
  | nil => exact List.suffix_refl []
  | cons c input inductionHypothesis =>
      unfold readLine
      split
      · exact List.suffix_cons c input
      · exact inductionHypothesis.trans (List.suffix_cons c input)

/-- So the rest is as plain as the whole. -/
theorem PlainKeys.rest {input : SecureBytes} (plain : PlainKeys input) :
    PlainKeys (readLine input).2 :=
  fun c member => plain c ((readLine_rest_suffix input).subset member)

/-- A line of plain keys has no control characters. -/
theorem PlainKeys.line {input : SecureBytes} (plain : PlainKeys input) :
    ∀ c ∈ (readLine input).1, isControl c = false := by
  induction input with
  | nil => exact fun c member => absurd member List.not_mem_nil
  | cons c input inductionHypothesis =>
      obtain ⟨first, others⟩ := List.forall_mem_cons.mp plain
      unfold readLine
      cases ends : endsLine c with
      | true => exact fun c member => absurd member List.not_mem_nil
      | false =>
          have shown : isControl c = false :=
            first.resolve_left (ne_true_of_eq_false ends)
          exact List.forall_mem_cons.mpr ⟨shown, inductionHypothesis others⟩

/-- No key that erases, completes or starts a sequence. -/
theorem ne_of_not_control {c control : UInt8} (shown : isControl c = false)
    (isControl' : isControl control = true) : c ≠ control := by
  rintro rfl
  rw [shown] at isControl'
  cases isControl'

/-- Characters that are typed are the line. -/
theorem typedLine_plain {typed : SecureBytes}
    (shown : ∀ c ∈ typed, isControl c = false) (buffer : SecureString) :
    typedLine buffer typed = buffer ++ typed := by
  induction typed generalizing buffer with
  | nil => rw [typedLine, List.append_nil]
  | cons c typed inductionHypothesis =>
      obtain ⟨first, others⟩ := List.forall_mem_cons.mp shown
      have keeps : ¬ (c = 0x7F ∨ c = 0x08) :=
        not_or.mpr ⟨ne_of_not_control first rfl, ne_of_not_control first rfl⟩
      rw [typedLine, if_neg keeps, if_neg (ne_true_of_eq_false first),
        inductionHypothesis others, List.append_assoc]
      rfl

/-- Or the password. -/
theorem typedPassword_plain {typed : SecureBytes}
    (shown : ∀ c ∈ typed, isControl c = false)
    (securePassword : SecureString) :
    typedPassword securePassword typed = securePassword ++ typed := by
  induction typed generalizing securePassword with
  | nil => exact (List.append_nil securePassword).symm
  | cons c typed inductionHypothesis =>
      obtain ⟨first, others⟩ := List.forall_mem_cons.mp shown
      have keeps : ¬ (c = 0x08 ∨ c = 0x7F) :=
        not_or.mpr ⟨ne_of_not_control first rfl, ne_of_not_control first rfl⟩
      have rest := inductionHypothesis others (securePassword ++ [c])
      rw [List.append_assoc] at rest
      rw [typedPassword, List.foldl_cons, if_neg keeps]
      exact rest

/-! ## A line at each prompt -/

/-- The first line of an input, with its end. -/
def firstLine : (input : SecureBytes) → SecureBytes
  | [] => []
  | c :: input => if endsLine c then [c] else c :: firstLine input

/-- The line of an input by its number, with its end. -/
def keysAt (input : SecureBytes) : Nat → SecureBytes
  | 0 => firstLine input
  | count + 1 => keysAt (readLine input).2 count

/-- Of its first line alone a reader leaves nothing. -/
theorem readLine_firstLine (input : SecureBytes) :
    readLine (firstLine input) = ((readLine input).1, []) := by
  induction input with
  | nil => rfl
  | cons c input inductionHypothesis =>
      unfold firstLine
      cases ends : endsLine c with
      | true => simp [readLine, ends]
      | false => simp [readLine, ends, inductionHypothesis]

/-- From the given call on, each one gets the next line, and nothing is typed
between two calls. -/
def Typed (events : TerminalEvents) (count : Nat) (input : SecureBytes) :
    Prop :=
  ∀ later, (events.call (count + later)).ahead = [] ∧
    (events.call (count + later)).keys = keysAt input later

/-- After a line the next one is typed. -/
theorem Typed.next {events : TerminalEvents} {count : Nat}
    {input : SecureBytes} (typed : Typed events count input) :
    Typed events (count + 1) (readLine input).2 := by
  intro later
  have next := typed (later + 1)
  rwa [← Nat.add_assoc, Nat.add_right_comm] at next

/-- Either reader returns the line that a pipe gives, and leaves nothing. -/
theorem LineReader.read_plain (reader : LineReader) {input : SecureBytes}
    {call : TerminalCall} (plain : PlainKeys input) (ahead : call.ahead = [])
    (keys : call.keys = firstLine input) :
    reader.read [] call = .ok ((readLine input).1, []) ∨
      ∃ error, call.thrown = some error ∧ reader.read [] call = .error error := by
  have shown := plain.line
  have line := readLine_firstLine input
  cases reader with
  | shown request =>
      cases guarded : call.thrown with
      | some error =>
          refine .inr ⟨error, rfl, ?_⟩
          rw [LineReader.read, LineRequest.call, guarded]
          rfl
      | none =>
          obtain ⟨typed, rest⟩ := @LineEditor.editLine_plain request
            (firstLine input) (fun c member => by
              rw [line] at member
              exact ⟨ne_of_not_control (shown c member) rfl,
                ne_of_not_control (shown c member) rfl⟩) []
          rw [line] at typed rest
          rw [typedLine_plain shown, List.nil_append] at typed
          refine .inl ?_
          rw [LineReader.read, LineRequest.call, guarded, keys]
          change Except.ok (_, if _ then _ else _) = _
          rw [LineRequest.readLineInteractive]
          dsimp only
          rw [typed, rest, ite_self]
  | hidden prompt =>
      have password := password_reads_like_pipe prompt (firstLine input)
      rw [line, typedPassword_plain shown, List.nil_append] at password
      refine .inl ?_
      rw [LineReader.read, ahead, keys]
      exact congrArg Except.ok password

/-! ## The session -/

/-- A session on a terminal ends as another one does, unless the terminal cannot
be set for one of its calls: then it ends by what the guard throws. -/
def EndsLike (events : TerminalEvents) (terminal other : ShellEnd) : Prop :=
  terminal = other ∨
    ∃ count error, (events.call count).thrown = some error ∧
      terminal = .threw error

section

variable (primitives : Primitives) (surroundings : Surroundings)
  {events : TerminalEvents}

/-- Both loops go through the same prompts, by induction on the rounds. -/
theorem runTerminalLoop_plain (rounds : Nat) {shell : Shell}
    {input : SecureBytes} {count : Nat} (plain : PlainKeys input)
    (typed : Typed events count input) :
    EndsLike events
      (runTerminalLoop primitives surroundings events rounds
        ⟨shell, [], count⟩)
      (runLoop primitives surroundings rounds ⟨shell, input, count⟩) := by
  induction rounds generalizing shell input count with
  | zero => exact .inl rfl
  | succ rounds inductionHypothesis =>
      obtain ⟨ahead, keys⟩ := typed 0
      rw [Nat.add_zero] at ahead keys
      unfold runTerminalLoop runLoop
      dsimp only
      obtain read | ⟨error, guarded, read⟩ :=
        (shell.prompt.reader (events.services count)).read_plain plain ahead
          keys
      · rw [read]
        dsimp only
        cases shell.step primitives
            (surroundings.line count (readLine input).1) with
        | none => exact .inl rfl
        | some result =>
            obtain ⟨later, reply⟩ := result
            cases reply with
            | exited | threw _ => exact .inl rfl
            | _ => exact inductionHypothesis plain.rest typed.next
      · rw [read]
        exact .inr ⟨count, error, guarded, rfl⟩

end

/-- Whatever the vault file holds and however the writing calls of the session
go: if only characters and line ends are typed, one line at each prompt, a
session on a terminal that can be set ends as one that reads the same from a
pipe. -/
theorem terminal_session_like_pipe (primitives : Primitives)
    (faults : LoadFaults) (path : Path) (masterPassword : SecureString)
    (files : Files) (clock : Clock) (surroundings : Surroundings)
    {events : TerminalEvents} (pipe : StdinEvents) {content : SecureBytes}
    (rounds : Nat) (plain : PlainKeys content)
    (typed : Typed events 0 content) :
    EndsLike events
      (runTerminalShell primitives faults path masterPassword files clock
        surroundings events rounds)
      (runInteractiveShell primitives faults path masterPassword files clock
        surroundings pipe (.opened content false) rounds) := by
  unfold runTerminalShell runInteractiveShell
  cases Shell.start primitives faults path masterPassword files clock with
  | error error => exact .inl rfl
  | ok shell =>
      dsimp only
      rw [runShellLoop_steady _ _ _ _ (.fixed rfl)]
      exact runTerminalLoop_plain primitives surroundings rounds plain typed

namespace Symbolic

/-- Two commands. -/
def helpedKeys : SecureBytes :=
  textBytes "help" ++ [0x0D] ++ textBytes "exit" ++ [0x0D]

/-- What is typed, one line at each prompt of a terminal that can be set, with
one completion offered. -/
def typing (content : SecureBytes) : TerminalEvents :=
  ⟨fun count => ⟨[], keysAt content count, true, true, true⟩,
    fun _ => [textBytes "mail"]⟩

theorem typed_typing (content : SecureBytes) :
    Typed (typing content) 0 content := by
  intro later
  rw [Nat.zero_add]
  exact ⟨rfl, rfl⟩

end Symbolic

/-- `help` and `exit`, on the vault that `init` leaves. -/
theorem terminal_session_like_pipe_exit :
    runTerminalShell Symbolic.primitives .none Symbolic.path
        Symbolic.masterPassword
        (Symbolic.files Vault.empty Symbolic.masterPassword) (.constant 5)
        ⟨fun _ => Symbolic.calm, fun _ => .constant 5, fun _ => .ok []⟩
        (Symbolic.typing Symbolic.helpedKeys) 2 =
      runInteractiveShell Symbolic.primitives .none Symbolic.path
        Symbolic.masterPassword
        (Symbolic.files Vault.empty Symbolic.masterPassword) (.constant 5)
        ⟨fun _ => Symbolic.calm, fun _ => .constant 5, fun _ => .ok []⟩
        ⟨fun _ => ⟨[], 0⟩, fun _ => 0⟩
        (.opened Symbolic.helpedKeys false) 2 := by
  have plain : PlainKeys Symbolic.helpedKeys := by decide +kernel
  obtain same | ⟨count, error, guarded, _⟩ :=
    terminal_session_like_pipe Symbolic.primitives .none Symbolic.path
      Symbolic.masterPassword
      (Symbolic.files Vault.empty Symbolic.masterPassword) (.constant 5)
      ⟨fun _ => Symbolic.calm, fun _ => .constant 5, fun _ => .ok []⟩
      ⟨fun _ => ⟨[], 0⟩, fun _ => 0⟩ 2 plain
      (Symbolic.typed_typing _)
  · exact same
  · cases guarded

end DuckPass
