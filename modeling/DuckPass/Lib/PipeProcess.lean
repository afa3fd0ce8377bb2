/-
Module: DuckPass.Lib.PipeProcess
Purpose: A process that reads blocks from its standard input and writes blocks
  to its standard output, over pipes that carry the bytes in pieces.  However
  they are cut up, the process does what the program means for the whole input.
Trusted boundary: a pipe delivers the bytes written to it in order.
Main exports: PipeProcess.Program, PipeProcess.Program.meaning,
  PipeProcess.World, PipeProcess.World.calls_of_step, PipeProcess.Follows,
  PipeProcess.Follows.step,  PipeProcess.Follows.exited
-/
import Mathlib.Data.List.Basic

namespace PipeProcess

/-! ## Programs -/

/-- `readAll` goes on with the bytes, or with nothing if the input ends before
there are so many; `writeAll` goes on with whether all could be written. -/
inductive Program where
  | readAll (count : Nat) (next : Option (List UInt8) → Program)
  | writeAll (bytes : List UInt8) (next : Bool → Program)
  | exit (code : UInt8)

/-- What a process writes and the code it exits with. -/
structure Result where
  written : List UInt8
  code : UInt8
deriving Repr, Inhabited, DecidableEq

def Result.after (bytes : List UInt8) (result : Result) : Result :=
  ⟨bytes ++ result.written, result.code⟩

/-- What a program does with a whole input, if all can be written. -/
def Program.meaning : Program → (input : List UInt8) → Result
  | .readAll count next, input =>
      if count ≤ input.length then
        (next (some (input.take count))).meaning (input.drop count)
      else (next none).meaning []
  | .writeAll bytes next, input => ((next true).meaning input).after bytes
  | .exit code, _ => ⟨[], code⟩

/-- The program reads nothing once it has begun to write. -/
inductive Program.WritesLast : Program → Prop where
  | readAll {count : Nat} {next : Option (List UInt8) → Program}
      (later : ∀ answer, (next answer).WritesLast) :
      (Program.readAll count next).WritesLast
  | writeAll {bytes : List UInt8} {next : Bool → Program} {code : UInt8}
      (last : next true = .exit code) : (Program.writeAll bytes next).WritesLast
  | exit {code : UInt8} : (Program.exit code).WritesLast

/-! ## Processes -/

/-- A process inside of a read with the bytes it has got and the number of
those it waits for, inside of a write with the bytes left, or at its end. -/
inductive Process where
  | reading (got : List UInt8) (missing : Nat)
      (next : Option (List UInt8) → Program)
  | writing (rest : List UInt8) (next : Bool → Program)
  | exited (code : UInt8)

/-- The process that a program begins with.  Blocks without bytes take no
call. -/
def Process.start : Program → Process
  | .readAll count next =>
      if count = 0 then start (next (some [])) else .reading [] count next
  | .writeAll bytes next =>
      if bytes = [] then start (next true) else .writing bytes next
  | .exit code => .exited code

/-- What a process still does with the input that is left. -/
def Process.meaning : Process → (input : List UInt8) → Result
  | .reading got missing next, input =>
      if missing ≤ input.length then
        (next (some (got ++ input.take missing))).meaning (input.drop missing)
      else (next none).meaning []
  | .writing rest next, input => ((next true).meaning input).after rest
  | .exited code, _ => ⟨[], code⟩

/-- A process at its start means what its program does. -/
theorem Process.start_meaning (program : Program) (input : List UInt8) :
    (start program).meaning input = program.meaning input := by
  fun_induction start program with
  | case1 next inductionHypothesis =>
      rw [inductionHypothesis]
      simp [Program.meaning]
  | case2 count next some => rfl
  | case3 next inductionHypothesis =>
      rw [inductionHypothesis]
      rfl
  | case4 bytes next some => rfl
  | case5 code => rfl

/-- A read that gets some of its bytes waits for the others. -/
theorem Process.meaning_read (got : List UInt8)
    (next : Option (List UInt8) → Program) {count missing : Nat}
    {input : List UInt8} (wanted : count ≤ missing)
    (there : count ≤ input.length) :
    (Process.reading got missing next).meaning input =
      (Process.reading (got ++ input.take count) (missing - count)
        next).meaning (input.drop count) := by
  have blocks : input.take count ++ (input.drop count).take (missing - count) =
      input.take missing := by
    rw [← List.take_add, Nat.add_sub_cancel' wanted]
  have behind : (input.drop count).drop (missing - count) =
      input.drop missing := by
    rw [List.drop_drop, Nat.add_sub_cancel' wanted]
  have same : missing - count ≤ (input.drop count).length ↔
      missing ≤ input.length := by
    rw [List.length_drop]
    omega
  simp only [meaning, same, List.append_assoc, blocks, behind]

/-- A read that has all its bytes goes on with them. -/
theorem Process.meaning_full (got : List UInt8)
    (next : Option (List UInt8) → Program) (input : List UInt8) :
    (Process.reading got 0 next).meaning input =
      (next (some got)).meaning input := by
  simp [meaning]

/-- The process reads nothing any more. -/
def Process.Draining : Process → Prop
  | .reading _ _ _ => False
  | .writing _ next => ∃ code, next true = .exit code
  | .exited _ => True

/-- A process that reads no more means the same for every input. -/
theorem Process.Draining.meaning_eq {process : Process}
    (draining : process.Draining) (input other : List UInt8) :
    process.meaning input = process.meaning other := by
  cases process with
  | reading => exact draining.elim
  | writing rest next =>
      obtain ⟨code, last⟩ := draining
      simp [Process.meaning, last, Program.meaning]
  | exited => rfl

/-- A read waits for something, and the process reads nothing once it has begun
to write. -/
def Process.Regular : Process → Prop
  | .reading _ missing next =>
      missing ≠ 0 ∧ ∀ answer, (next answer).WritesLast
  | .writing _ next => ∃ code, next true = .exit code
  | .exited _ => True

/-- A program that writes last starts a regular process. -/
theorem Process.regular_start {program : Program}
    (last : program.WritesLast) : (start program).Regular := by
  induction last with
  | @readAll count next later inductionHypothesis =>
      rw [start]
      split
      · exact inductionHypothesis _
      · next some => exact ⟨some, later⟩
  | @writeAll bytes next code last =>
      rw [start]
      split
      · rw [last]
        trivial
      · exact ⟨code, last⟩
  | exit => trivial

/-! ## Pipes -/

/-- A process with the bytes that are on their way to it and from it, and
whether the other end of its input is closed. -/
structure World where
  process : Process
  input : List UInt8
  closed : Bool
  output : List UInt8

/-- The calls of the process: it transfers some bytes, it finds the input at its
end, or a signal interrupts it and it calls again. -/
inductive Event where
  | read (count : Nat)
  | readEnd
  | write (count : Nat)
  | interrupted
deriving Repr, Inhabited, DecidableEq

namespace World

def start (program : Program) : World := ⟨.start program, [], false, []⟩

/-- One call of the process, if it can go so. -/
def step (world : World) : Event → Option World
  | .read count =>
      match world.process with
      | .reading got missing next =>
          if 0 < count ∧ count ≤ missing ∧ count ≤ world.input.length then
            some { world with
              process :=
                if count = missing then
                  .start (next (some (got ++ world.input.take count)))
                else
                  .reading (got ++ world.input.take count) (missing - count)
                    next
              input := world.input.drop count }
          else none
      | _ => none
  | .readEnd =>
      match world.process with
      | .reading _ _ next =>
          if world.input = [] ∧ world.closed then
            some { world with process := .start (next none) }
          else none
      | _ => none
  | .write count =>
      match world.process with
      | .writing rest next =>
          if 0 < count ∧ count ≤ rest.length then
            some { world with
              process :=
                if count = rest.length then .start (next true)
                else .writing (rest.drop count) next
              output := world.output ++ rest.take count }
          else none
      | _ => none
  | .interrupted =>
      match world.process with
      | .exited _ => none
      | _ => some world

/-- What a call of the process can do. -/
inductive Calls (world : World) : World → Prop where
  | read {got : List UInt8} {count missing : Nat}
      {later : Option (List UInt8) → Program}
      (reading : world.process = .reading got missing later)
      (wanted : count ≤ missing) (there : count ≤ world.input.length) :
      Calls world { world with
        process :=
          if count = missing then
            .start (later (some (got ++ world.input.take count)))
          else
            .reading (got ++ world.input.take count) (missing - count) later
        input := world.input.drop count }
  | readEnd {got : List UInt8} {missing : Nat}
      {later : Option (List UInt8) → Program}
      (reading : world.process = .reading got missing later)
      (empty : world.input = []) (closed : world.closed = true) :
      Calls world { world with process := .start (later none) }
  | write {rest : List UInt8} {count : Nat} {later : Bool → Program}
      (writing : world.process = .writing rest later) :
      Calls world { world with
        process :=
          if count = rest.length then .start (later true)
          else .writing (rest.drop count) later
        output := world.output ++ rest.take count }
  | interrupted : Calls world world

/-- A step other than the parent's is one of the process's calls. -/
theorem calls_of_step {world next : World} {event : Event}
    (stepped : world.step event = some next) : world.Calls next := by
  cases event with
  | read count =>
      rw [step] at stepped
      split at stepped
      · next got missing later reading =>
          split at stepped
          · next bounds =>
              cases stepped
              exact .read reading bounds.2.1 bounds.2.2
          · cases stepped
      · cases stepped
  | readEnd =>
      rw [step] at stepped
      split at stepped
      · next got missing later reading =>
          split at stepped
          · next bounds =>
              cases stepped
              exact .readEnd reading bounds.1 bounds.2
          · cases stepped
      · cases stepped
  | write count =>
      rw [step] at stepped
      split at stepped
      · next rest later writing =>
          split at stepped
          · cases stepped
            exact .write writing
          · cases stepped
      · cases stepped
  | interrupted =>
      rw [step] at stepped
      split at stepped
      · cases stepped
      · cases stepped
        exact .interrupted

/-- The peer has written some bytes. -/
def send (world : World) (bytes : List UInt8) : World :=
  { world with input := world.input ++ bytes }

/-- The peer has closed its end of the input. -/
def close (world : World) : World := { world with closed := true }

/-- The peer has read some bytes. -/
def receive (world : World) (count : Nat) : World :=
  { world with output := world.output.drop count }

/-- The input that the process will still see, if the peer sends `pending`. -/
def ahead (world : World) (pending : List UInt8) : List UInt8 :=
  if world.closed then world.input else world.input ++ pending

end World

/-! ## What the pieces add up to -/

/-- The peer has received `received` and not yet sent `pending` of `request`,
and all together is what the program means for the request. -/
structure Follows (program : Program) (request pending received : List UInt8)
    (world : World) : Prop where
  meaning : (world.process.meaning (world.ahead pending)).after
    (received ++ world.output) = program.meaning request
  regular : world.process.Regular
  draining : received ++ world.output ≠ [] → world.process.Draining

namespace Follows

variable {program : Program} {request pending received : List UInt8}
  {world next : World}

/-- At the start all is pending. -/
theorem start (last : program.WritesLast) (request : List UInt8) :
    Follows program request request [] (World.start program) where
  meaning := Process.start_meaning program request
  regular := Process.regular_start last
  draining := fun some => absurd rfl some

/-- Nothing is written before a process waits for input. -/
theorem silent (holds : Follows program request pending received world)
    {got : List UInt8} {missing : Nat}
    {later : Option (List UInt8) → Program}
    (reading : world.process = .reading got missing later) :
    received ++ world.output = [] := by
  by_contra some
  have draining := holds.draining some
  rw [reading] at draining
  exact draining

/-- A read of some of the bytes that are wanted and there. -/
theorem read {got : List UInt8} {count missing : Nat}
    {later : Option (List UInt8) → Program}
    (holds : Follows program request pending received world)
    (reading : world.process = .reading got missing later)
    (wanted : count ≤ missing) (there : count ≤ world.input.length) :
    Follows program request pending received
      { world with
        process :=
          if count = missing then
            .start (later (some (got ++ world.input.take count)))
          else
            .reading (got ++ world.input.take count) (missing - count) later
        input := world.input.drop count } := by
  have ahead : ∀ process, (World.mk process (world.input.drop count)
      world.closed world.output).ahead pending =
        (world.ahead pending).drop count := by
    intro process
    simp only [World.ahead]
    split
    · rfl
    · rw [List.drop_append_of_le_length there]
  have taken : (world.ahead pending).take count = world.input.take count := by
    simp only [World.ahead]
    split
    · rfl
    · rw [List.take_append_of_le_length there]
  have enough : count ≤ (world.ahead pending).length := by
    simp only [World.ahead]
    split
    · exact there
    · rw [List.length_append]
      omega
  have before := holds.meaning
  have last := holds.regular
  rw [reading] at before last
  rw [Process.meaning_read got later wanted enough, taken] at before
  constructor
  · rw [← before, ahead]
    split
    · next full =>
        rw [full, Nat.sub_self, Process.meaning_full, Process.start_meaning]
    · rfl
  · split
    · exact Process.regular_start (last.2 _)
    · next more => exact ⟨by omega, last.2⟩
  · intro some
    exact absurd (holds.silent reading) some

/-- A read at the end of the input. -/
theorem readEnd {got : List UInt8} {missing : Nat}
    {later : Option (List UInt8) → Program}
    (holds : Follows program request pending received world)
    (reading : world.process = .reading got missing later)
    (empty : world.input = [])
    (closed : world.closed = true) :
    Follows program request pending received
      { world with process := .start (later none) } := by
  have ahead : ∀ process, (World.mk process world.input world.closed
      world.output).ahead pending = [] := by
    intro process
    rw [World.ahead, if_pos closed]
    exact empty
  have before := holds.meaning
  have last := holds.regular
  have nothing : world.ahead pending = [] := ahead world.process
  rw [reading] at before last
  rw [nothing, Process.meaning, if_neg (by simpa using last.1)] at before
  constructor
  · rw [← before, ahead, Process.start_meaning]
  · exact Process.regular_start (last.2 none)
  · intro some
    exact absurd (holds.silent reading) some

/-- A write of any part. -/
theorem write {rest : List UInt8} {count : Nat} {later : Bool → Program}
    (holds : Follows program request pending received world)
    (writing : world.process = .writing rest later) :
    Follows program request pending received
      { world with
        process :=
          if count = rest.length then .start (later true)
          else .writing (rest.drop count) later
        output := world.output ++ rest.take count } := by
  have before := holds.meaning
  have last := holds.regular
  rw [writing] at before last
  obtain ⟨code, last⟩ := last
  constructor
  · rw [← before]
    split
    · next full =>
        rw [full, List.take_length, Process.start_meaning]
        simp [Process.meaning, last, Program.meaning, Result.after]
    · simp [Process.meaning, last, Program.meaning, Result.after]
  · split
    · rw [last]
      trivial
    · exact ⟨code, last⟩
  · intro _
    split
    · rw [last]
      trivial
    · exact ⟨code, last⟩

/-- Every call of the process keeps to the program. -/
theorem step {event : Event}
    (holds : Follows program request pending received world)
    (stepped : world.step event = some next) :
    Follows program request pending received next := by
  cases World.calls_of_step stepped with
  | read reading wanted there => exact holds.read reading wanted there
  | readEnd reading empty closed => exact holds.readEnd reading empty closed
  | write writing => exact holds.write writing
  | interrupted => exact holds

/-- The parent's write. -/
theorem send (holds : Follows program request pending received world)
    (isOpen : world.closed = false) (count : Nat) :
    Follows program request (pending.drop count) received
      (world.send (pending.take count)) where
  meaning := by
    rw [← holds.meaning]
    simp [World.send, World.ahead, isOpen]
  regular := holds.regular
  draining := holds.draining

/-- The peer may close the input once all is sent, or once no more is read. -/
theorem close (holds : Follows program request pending received world)
    (done : pending = [] ∨ world.process.Draining) :
    Follows program request pending received world.close where
  meaning := by
    rw [← holds.meaning]
    change (world.process.meaning world.input).after _ = _
    rcases done with all | draining
    · rw [World.ahead, all, List.append_nil, ite_self]
      rfl
    · rw [draining.meaning_eq world.input (world.ahead pending)]
      rfl
  regular := holds.regular
  draining := holds.draining

/-- And its read. -/
theorem receive (holds : Follows program request pending received world)
    (count : Nat) :
    Follows program request pending (received ++ world.output.take count)
      (world.receive count) := by
  have all : received ++ world.output.take count ++
      (world.receive count).output = received ++ world.output := by
    simp [World.receive]
  constructor
  · rw [all]
    exact holds.meaning
  · exact holds.regular
  · rw [all]
    exact holds.draining

/-- A process that has exited did what the program means for the request. -/
theorem exited (holds : Follows program request pending received world)
    {code : UInt8} (ended : world.process = .exited code) :
    program.meaning request = ⟨received ++ world.output, code⟩ := by
  rw [← holds.meaning, ended]
  simp [Process.meaning, Result.after]

end Follows

end PipeProcess
