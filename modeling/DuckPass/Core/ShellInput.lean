/-
Module: DuckPass.Core.ShellInput
Purpose: `run_interactive_shell` on a standard input that is not a terminal:
  the readers of `terminal_utils.cpp` and the loops that call them, on bytes
  that are read once, and on the buffered input of a process whose children
  share the open file.
Trusted boundary: as for `DuckPass.Core.Shell`; what the calls between two
  lines meet is given beforehand; `exit` in a child moves a seekable input back
  by what the child's copy of the buffer has not handed out.
Main exports: readLine, linesOf, Surroundings, ShellEnd, ShellSession,
  runLoop, StandardInput, StandardInput.readLine, runShellLoop,
  runInteractiveShell
-/
import DuckPass.Core.Shell
import DuckPass.Lib.InFlight

namespace DuckPass

/-! ## Lines of the input -/

/-- `'\n'` and `'\r'`. -/
def endsLine (c : UInt8) : Bool := c == 0x0A || c == 0x0D

/-- The loop over `std::cin.get` of `read_line_interactive` and of
`read_password`, on bytes that are read once: the line and what is left of the
input.  At the end of the input it finds an empty line. -/
def readLine : (input : SecureBytes) → SecureString × SecureBytes
  | [] => ([], [])
  | c :: input =>
      if endsLine c then ([], input)
      else (c :: (readLine input).1, (readLine input).2)

/-- How the calls go that follow the first line, the second, and so on. -/
structure Surroundings where
  env : Nat → CommitEnv
  clock : Nat → Clock
  generated : Nat → Except DuckpassError SecureString

def Surroundings.line (surroundings : Surroundings) (count : Nat)
    (text : SecureString) : TypedLine :=
  ⟨text, surroundings.env count, surroundings.clock count,
    surroundings.generated count⟩

/-- The lines as they are typed from the given one on. -/
def Surroundings.typed (surroundings : Surroundings) :
    (count : Nat) → List SecureString → List TypedLine
  | _, [] => []
  | count, text :: texts =>
      surroundings.line count text :: surroundings.typed (count + 1) texts

/-- How a call of `run_interactive_shell` ends, or that it has not ended. -/
inductive ShellEnd where
  | returned
  | threw (error : DuckpassError)
  | running
deriving Repr, DecidableEq

/-- A session with the input it still has and the lines it has read. -/
structure ShellSession where
  shell : Shell
  input : SecureBytes
  count : Nat

/-- The main loop and the validation loops within it.  Each round reads one
line; there is a bound on the rounds. -/
def runLoop (primitives : Primitives) (surroundings : Surroundings) :
    (rounds : Nat) → ShellSession → ShellEnd
  | 0, _ => .running
  | rounds + 1, session =>
      match session.shell.step primitives
          (surroundings.line session.count (readLine session.input).1) with
      | none => .running
      | some (_, .exited) => .returned
      | some (_, .threw error) => .threw error
      | some (shell, _) =>
          runLoop primitives surroundings rounds
            ⟨shell, (readLine session.input).2, session.count + 1⟩

/-! ## The standard input and the children -/

/-- What comes together in a `read` of the standard input: the children that
call `exit` before it, each by its place among those that have not, and how many
bytes more than one it returns at most. -/
structure Refill where
  exits : List Nat
  size : Nat

/-- What happens to the standard input: at the first `read`, the second, and so
on, and how many child processes the copy to the clipboard after each line
leaves that will call `exit`. -/
structure StdinEvents where
  read : Nat → Refill
  forked : Nat → Nat

/-- The standard input of the shell.  `offset` belongs to the open file, which
the children share; `buffer` is what `stdin` holds and has not handed out;
`failed` is the state of `std::cin`.  A child that has not called `exit` is
listed with the length of its copy of the buffer. -/
structure StandardInput where
  content : SecureBytes
  seekable : Bool
  offset : Nat
  buffer : SecureBytes
  failed : Bool
  reads : Nat
  children : List Nat
deriving Repr, Inhabited, DecidableEq

namespace StandardInput

/-- The standard input of a shell that starts on some content. -/
def opened (content : SecureBytes) (seekable : Bool) : StandardInput :=
  ⟨content, seekable, 0, [], false, 0, []⟩

/-- `exit` in a child: `stdin` is synchronized, and `lseek` takes back what the
copy of the buffer holds, if the input can be moved so far. -/
def childExits (input : StandardInput) (index : Nat) : StandardInput :=
  match input.children[index]? with
  | none => input
  | some unread =>
      { input with
        offset :=
          if input.seekable ∧ unread ≤ input.offset then input.offset - unread
          else input.offset
        children := input.children.eraseIdx index }

/-- A `read` into the empty buffer. -/
def refill (events : StdinEvents) (input : StandardInput) : StandardInput :=
  let event := events.read input.reads
  let found := event.exits.foldl childExits input
  let block := (found.content.drop found.offset).take (event.size + 1)
  { found with
    offset := found.offset + block.length
    buffer := block
    failed := block.isEmpty
    reads := found.reads + 1 }

/-- `std::cin.get(c)`.  Once it has failed it does not read again. -/
def get (events : StdinEvents) (input : StandardInput) :
    Option UInt8 × StandardInput :=
  if input.failed then (none, input)
  else
    let filled := if input.buffer.isEmpty then input.refill events else input
    match filled.buffer with
    | [] => (none, filled)
    | c :: buffer => (some c, { filled with buffer := buffer })

/-- The bytes that can still be read, those included that the children may
bring back. -/
def ahead (input : StandardInput) : Nat :=
  (input.content.length - input.offset) + input.buffer.length +
    input.children.sum

/-- A child that ends brings back at most what its copy of the buffer holds. -/
theorem ahead_childExits_le (input : StandardInput) (index : Nat) :
    (input.childExits index).ahead ≤ input.ahead := by
  unfold childExits
  split
  · exact Nat.le_refl _
  · next unread found =>
      have total := InFlight.sum_eraseIdx id found
      rw [List.map_id, List.map_id, id_eq] at total
      unfold ahead
      dsimp only
      split <;> omega

theorem ahead_foldl_childExits_le (exits : List Nat) (input : StandardInput) :
    (exits.foldl childExits input).ahead ≤ input.ahead := by
  induction exits generalizing input with
  | nil => exact Nat.le_refl _
  | cons index exits inductionHypothesis =>
      exact (inductionHypothesis _).trans (ahead_childExits_le input index)

/-- A block that is read is taken from what is ahead. -/
theorem ahead_refill_le (events : StdinEvents) (input : StandardInput) :
    (input.refill events).ahead ≤ input.ahead := by
  refine Nat.le_trans ?_ (ahead_foldl_childExits_le
    (events.read input.reads).exits input)
  simp only [refill, ahead, List.length_take, List.length_drop]
  omega

/-- Every byte that is handed out is one less ahead. -/
theorem ahead_get_lt {events : StdinEvents} {input next : StandardInput}
    {c : UInt8} (got : input.get events = (some c, next)) :
    next.ahead < input.ahead := by
  unfold get at got
  split at got
  · cases got
  · dsimp only at got
    have step : ∀ filled : StandardInput, filled.ahead ≤ input.ahead →
        (match filled.buffer with
          | [] => (none, filled)
          | c :: buffer => (some c, { filled with buffer := buffer })) =
            (some c, next) → next.ahead < input.ahead := by
      intro filled bound same
      split at same
      · cases same
      · next full =>
          cases same
          unfold ahead at bound ⊢
          rw [full, List.length_cons] at bound
          dsimp only
          omega
    refine step _ ?_ got
    split
    · exact ahead_refill_le events input
    · exact Nat.le_refl _

/-- `readLine` on the standard input. -/
def readLine (events : StdinEvents) (input : StandardInput) :
    SecureString × StandardInput :=
  match _got : input.get events with
  | (none, next) => ([], next)
  | (some c, next) =>
      if endsLine c then ([], next)
      else
        let read := readLine events next
        (c :: read.1, read.2)
termination_by input.ahead
decreasing_by exact ahead_get_lt _got

/-- The children that a copy to the clipboard leaves begin with a copy of the
buffer. -/
def fork (input : StandardInput) (count : Nat) : StandardInput :=
  { input with
    children := input.children ++ List.replicate count input.buffer.length }

end StandardInput

/-- Whether the line leads to a copy to the clipboard. -/
def Shell.copies (shell : Shell) (text : SecureString) : Bool :=
  shell.prompt == .command && (ShellCommand.parse (trim text)).copies

/-- A session on the standard input. -/
structure InputSession where
  shell : Shell
  input : StandardInput
  count : Nat

/-- The loops of `runLoop` on the standard input. -/
def runShellLoop (primitives : Primitives) (surroundings : Surroundings)
    (events : StdinEvents) : (rounds : Nat) → InputSession → ShellEnd
  | 0, _ => .running
  | rounds + 1, session =>
      let read := session.input.readLine events
      match session.shell.step primitives
          (surroundings.line session.count read.1) with
      | none => .running
      | some (_, .exited) => .returned
      | some (_, .threw error) => .threw error
      | some (shell, _) =>
          let input :=
            if session.shell.copies read.1 then
              read.2.fork (events.forked session.count)
            else read.2
          runShellLoop primitives surroundings events rounds
            ⟨shell, input, session.count + 1⟩

/-- `run_interactive_shell`.  A vault that cannot be loaded is reported, and
the function returns. -/
def runInteractiveShell (primitives : Primitives) (faults : LoadFaults)
    (path : Path) (masterPassword : SecureString) (files : Files)
    (clock : Clock) (surroundings : Surroundings) (events : StdinEvents)
    (input : StandardInput) (rounds : Nat) : ShellEnd :=
  match Shell.start primitives faults path masterPassword files clock with
  | .error _ => .returned
  | .ok shell =>
      runShellLoop primitives surroundings events rounds ⟨shell, input, 0⟩

end DuckPass
