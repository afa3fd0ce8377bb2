/-
Module: DuckPass.Proofs.ShellInput
Purpose: On a standard input that no child process moves back, the shell reads
  every byte once and in order.
Trusted boundary: as for `DuckPass.Core.ShellInput`.
Main exports: StandardInput.Steady, StandardInput.rest,
  StandardInput.readLine_steady, runShellLoop_steady, linesOf_cons
-/
import DuckPass.Core.ShellInput

namespace DuckPass

namespace StandardInput

variable {events : StdinEvents} {input : StandardInput}

/-- The children move nothing: the input cannot be moved, or there are none, or
none of them ends before a `read`. -/
inductive Steady (events : StdinEvents) (input : StandardInput) : Prop where
  | fixed (fixed : input.seekable = false)
  | alone (none : input.children = [])
      (never : ∀ count, events.forked count = 0)
  | running (running : ∀ count, (events.read count).exits = [])

/-- What has not been handed out yet. -/
def rest (input : StandardInput) : SecureBytes :=
  if input.failed then []
  else input.buffer ++ input.content.drop input.offset

/-- Two inputs that differ at most in the children that are left. -/
structure SameFile (before after : StandardInput) : Prop where
  content : after.content = before.content
  seekable : after.seekable = before.seekable
  offset : after.offset = before.offset
  reads : after.reads = before.reads

theorem SameFile.refl (input : StandardInput) : SameFile input input :=
  ⟨rfl, rfl, rfl, rfl⟩

/-- Nothing moves an input that cannot be moved. -/
theorem foldl_childExits_fixed (exits : List Nat)
    (fixed : input.seekable = false) :
    SameFile input (exits.foldl childExits input) := by
  induction exits generalizing input with
  | nil => exact .refl input
  | cons index exits inductionHypothesis =>
      have first : SameFile input (input.childExits index) := by
        unfold childExits
        split
        · exact .refl input
        · exact ⟨rfl, rfl, if_neg (by simp [fixed]), rfl⟩
      have later := inductionHypothesis (first.seekable.trans fixed)
      exact ⟨later.content.trans first.content,
        later.seekable.trans first.seekable, later.offset.trans first.offset,
        later.reads.trans first.reads⟩

/-- Nor do children that are not there. -/
theorem foldl_childExits_alone (exits : List Nat)
    (none : input.children = []) : exits.foldl childExits input = input := by
  induction exits with
  | nil => rfl
  | cons index exits inductionHypothesis =>
      have first : input.childExits index = input := by
        rw [childExits, none]
        rfl
      rw [List.foldl_cons, first, inductionHypothesis]

theorem exits_steady (steady : input.Steady events) (count : Nat) :
    SameFile input ((events.read count).exits.foldl childExits input) ∧
      ((events.read count).exits.foldl childExits input).Steady events := by
  cases steady with
  | fixed fixed =>
      have same := foldl_childExits_fixed (events.read count).exits fixed
      exact ⟨same, .fixed (same.seekable.trans fixed)⟩
  | alone none never =>
      rw [foldl_childExits_alone _ none]
      exact ⟨.refl input, .alone none never⟩
  | running running =>
      rw [running count]
      exact ⟨.refl input, .running running⟩

/-- No step of the reader makes a child end or an input movable. -/
theorem Steady.transfer {after : StandardInput} (steady : input.Steady events)
    (seekable : after.seekable = input.seekable)
    (children : after.children = input.children) : after.Steady events := by
  cases steady with
  | fixed fixed => exact .fixed (seekable.trans fixed)
  | alone none never => exact .alone (children.trans none) never
  | running running => exact .running running

/-- What a block leaves of a file begins where the block ends. -/
theorem take_append_drop_add (content : SecureBytes) (offset size : Nat) :
    (content.drop offset).take size ++
        content.drop
          (offset + min size (content.drop offset).length) =
      content.drop offset := by
  rw [← List.drop_drop]
  rcases Nat.le_total size (content.drop offset).length with short | long
  · rw [Nat.min_eq_left short, List.take_append_drop]
  · rw [Nat.min_eq_right long, List.take_of_length_le long, List.drop_length,
      List.append_nil]

/-- A `read` takes a block of what is left, and fails when nothing is. -/
theorem refill_steady (steady : input.Steady events)
    (opened : input.failed = false) (empty : input.buffer = []) :
    (input.refill events).Steady events ∧
      (input.refill events).rest = input.rest ∧
      ((input.refill events).buffer = [] → input.rest = []) := by
  obtain ⟨same, still⟩ := exits_steady steady input.reads
  have left : input.rest = input.content.drop input.offset := by
    rw [rest, opened, empty]
    rfl
  refine ⟨still.transfer rfl rfl, ?_, ?_⟩
  · rw [left]
    simp only [rest, refill, same.content, same.offset, List.length_take]
    split
    · next nothing =>
        have none := List.isEmpty_iff.mp nothing
        rw [List.take_eq_nil_iff] at none
        exact (none.resolve_left (Nat.succ_ne_zero _)).symm
    · exact take_append_drop_add _ _ _
  · intro nothing
    rw [left]
    simp only [refill, same.content, same.offset] at nothing
    exact (List.take_eq_nil_iff.mp nothing).resolve_left (Nat.succ_ne_zero _)

/-- A byte is the first of those that are left. -/
theorem get_steady (steady : input.Steady events) :
    ((input.get events).2).Steady events ∧
      (input.get events).1 = input.rest.head? ∧
      ((input.get events).2).rest = input.rest.tail := by
  unfold get
  cases failed : input.failed with
  | true =>
      have nothing : input.rest = [] := by rw [rest, if_pos failed]
      rw [if_pos rfl, nothing]
      exact ⟨steady, rfl, rfl⟩
  | false =>
      rw [if_neg Bool.false_ne_true]
      cases full : input.buffer with
      | cons c buffer =>
          have left : input.rest =
              c :: (buffer ++ input.content.drop input.offset) := by
            simp [rest, failed, full]
          rw [List.isEmpty_cons, if_neg Bool.false_ne_true, left]
          simp only [full]
          exact ⟨steady.transfer rfl rfl, rfl, by simp [rest, failed]⟩
      | nil =>
          obtain ⟨still, same, ended⟩ := refill_steady steady failed full
          rw [List.isEmpty_nil, if_pos rfl, ← same]
          cases block : (input.refill events).buffer with
          | nil =>
              have nothing := ended block
              simp only [block]
              rw [same, nothing]
              exact ⟨still, rfl, rfl⟩
          | cons c buffer =>
              have going : (input.refill events).failed = false :=
                congrArg List.isEmpty block
              simp only [block]
              have left : (input.refill events).rest = c :: (buffer ++
                  (input.refill events).content.drop
                    (input.refill events).offset) := by
                simp [rest, going, block]
              rw [left]
              exact ⟨still.transfer rfl rfl, rfl, by simp [rest, going]⟩

/-- A line is the one that a plain reader finds. -/
theorem readLine_steady (steady : input.Steady events) :
    ((input.readLine events).2).Steady events ∧
      (input.readLine events).1 = (DuckPass.readLine input.rest).1 ∧
      ((input.readLine events).2).rest = (DuckPass.readLine input.rest).2 := by
  generalize bytes : input.rest = left
  induction left generalizing input with
  | nil =>
      obtain ⟨still, head, tail⟩ := get_steady steady
      rw [bytes] at head tail
      rw [readLine]
      split
      · next next got =>
          rw [got] at still tail
          exact ⟨still, rfl, tail⟩
      · next c next got =>
          rw [got] at head
          cases head
  | cons c left inductionHypothesis =>
      obtain ⟨still, head, tail⟩ := get_steady steady
      rw [bytes] at head tail
      rw [readLine]
      split
      · next next got =>
          rw [got] at head
          cases head
      · next d next got =>
          rw [got] at head still tail
          obtain rfl : d = c := Option.some.inj head
          obtain ⟨last, line, after⟩ := inductionHypothesis still tail
          rw [DuckPass.readLine]
          split
          · exact ⟨still, rfl, tail⟩
          · exact ⟨last, congrArg (d :: ·) line, after⟩

theorem fork_steady (steady : input.Steady events) (count : Nat) :
    (input.fork (events.forked count)).Steady events := by
  cases steady with
  | fixed fixed => exact .fixed fixed
  | alone none never =>
      refine .alone ?_ never
      rw [fork, never count, none]
      rfl
  | running running => exact .running running

end StandardInput

/-- The loops on such an input are those on its bytes. -/
theorem runShellLoop_steady (primitives : Primitives)
    (surroundings : Surroundings) (events : StdinEvents) (rounds : Nat)
    {session : InputSession} (steady : session.input.Steady events) :
    runShellLoop primitives surroundings events rounds session =
      runLoop primitives surroundings rounds
        ⟨session.shell, session.input.rest, session.count⟩ := by
  induction rounds generalizing session with
  | zero => rfl
  | succ rounds inductionHypothesis =>
      obtain ⟨still, line, left⟩ :=
        StandardInput.readLine_steady steady
      unfold runShellLoop runLoop
      dsimp only
      rw [line]
      cases session.shell.step primitives (surroundings.line session.count
          (readLine session.input.rest).1) with
      | none => rfl
      | some result =>
          obtain ⟨shell, reply⟩ := result
          have later : ∀ count, runShellLoop primitives surroundings events
              rounds ⟨shell,
                if session.shell.copies (readLine session.input.rest).1 then
                  (session.input.readLine events).2.fork
                    (events.forked session.count)
                else (session.input.readLine events).2, count⟩ =
              runLoop primitives surroundings rounds
                ⟨shell, (readLine session.input.rest).2, count⟩ := by
            intro count
            rw [inductionHypothesis]
            · dsimp only
              rw [← left]
              split <;> rfl
            · split
              · exact StandardInput.fork_steady still _
              · exact still
          cases reply with
          | exited | threw _ => rfl
          | _ => exact later _

end DuckPass
