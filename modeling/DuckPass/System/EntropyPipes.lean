/-
Module: DuckPass.System.EntropyPipes
Purpose: The evaluator and its worker as two processes over two pipes, and what
  every exchange that comes to its end without a timeout amounts to.
Trusted boundary: the pipes of the system, as the rules below say.
Main exports: EntropyPipes.Sends, EntropyPipes.Receives, EntropyPipes.Polls,
  EntropyPipes.Waits, EntropyPipes.Completes, EntropyPipes.Completes.result,
  EntropyPipes.completes_prompt
-/
import DuckPass.Core.EntropyEvaluator

namespace DuckPass

open PipeProcess (Program World Follows)

namespace EntropyPipes

open EntropyEvaluator

variable {program : Program} {buffer : SecureBytes}

/-! ## The rules -/

/-- The worker's calls between two of the evaluator's. -/
inductive Works : World → World → Prop where
  | none {world : World} : Works world world
  | call {world next last : World} {event : PipeProcess.Event}
      (stepped : world.step event = some next) (later : Works next last) :
      Works world last

def Exited (world : World) : Prop :=
  ∃ code, world.process = .exited code

/-- What a round does to the input pipe.  A write fails, and the pipe is hung
up, only when its reader is gone. -/
inductive Sends (buffer : SecureBytes) (state : PollState) (world : World) :
    InputEvents → World → Prop where
  | closed {input : InputEvents} (isClosed : state.inputOpen = false) :
      Sends buffer state world input world
  | quiet : Sends buffer state world .quiet world
  | wrote {count : Nat} (isOpen : state.inputOpen = true)
      (positive : 0 < count)
      (more : state.writeOffset + count < buffer.length) :
      Sends buffer state world (.writable (.wrote count))
        (world.send ((buffer.drop state.writeOffset).take count))
  | wroteAll {count : Nat} (isOpen : state.inputOpen = true)
      (positive : 0 < count)
      (all : state.writeOffset + count = buffer.length) :
      Sends buffer state world (.writable (.wrote count))
        (world.send ((buffer.drop state.writeOffset).take count)).close
  | again : Sends buffer state world (.writable .again) world
  | failed (isOpen : state.inputOpen = true) (exited : Exited world) :
      Sends buffer state world (.writable .failed) world.close
  | hungUp (isOpen : state.inputOpen = true) (exited : Exited world) :
      Sends buffer state world .hungUp world.close

/-- What a round does to the output pipe.  It ends when it is empty and its
writer is gone. -/
inductive Receives (readBuf : SecureBytes) (world : World) :
    OutputEvents → World → Prop where
  | quiet : Receives readBuf world .quiet world
  | bytes {count : Nat} (positive : 0 < count)
      (there : count ≤ world.output.length)
      (wanted : readBuf.length + count ≤ responseSize) :
      Receives readBuf world (.readable (.bytes (world.output.take count)))
        (world.receive count)
  | ended (empty : world.output = []) (exited : Exited world) :
      Receives readBuf world (.readable .ended) world
  | again : Receives readBuf world (.readable .again) world

/-- A round with events.  The worker may run between its write and its read. -/
inductive Rounds (buffer : SecureBytes) (state : PollState) (world : World)
    (input : InputEvents) (output : OutputEvents) : World → Prop where
  | round {sent ready received : World}
      (sends : Sends buffer state world input sent) (works : Works sent ready)
      (receives : Receives state.readBuf ready output received) :
      Rounds buffer state world input output received

/-- The loop over `poll` with the answers it gets, up to its end with the bytes
read. -/
inductive Polls (buffer : SecureBytes) : PollState → World →
    List PollAnswer → SecureBytes → World → Prop where
  | works {state : PollState} {world next last : World}
      {answers : List PollAnswer} {readBuf : SecureBytes}
      (works : Works world next)
      (later : Polls buffer state next answers readBuf last) :
      Polls buffer state world answers readBuf last
  | interrupted {state : PollState} {world last : World}
      {answers : List PollAnswer} {readBuf : SecureBytes}
      (later : Polls buffer state world answers readBuf last) :
      Polls buffer state world (.interrupted :: answers) readBuf last
  | goesOn {state : PollState} {world next last : World}
      {input : InputEvents} {output : OutputEvents}
      {answers : List PollAnswer} {readBuf : SecureBytes}
      (round : Rounds buffer state world input output next)
      (stays : (state.round buffer.length input output).2 = false)
      (more : (state.round buffer.length input output).1.readBuf.length <
        responseSize)
      (later : Polls buffer (state.round buffer.length input output).1 next
        answers readBuf last) :
      Polls buffer state world (.ready input output :: answers) readBuf last
  | leaves {state : PollState} {world last : World}
      {input : InputEvents} {output : OutputEvents}
      {answers : List PollAnswer}
      (round : Rounds buffer state world input output last)
      (done : (state.round buffer.length input output).2 = true ∨
        responseSize ≤
          (state.round buffer.length input output).1.readBuf.length) :
      Polls buffer state world (.ready input output :: answers)
        (state.round buffer.length input output).1.readBuf last

/-- The loop over `waitpid` with the answers it gets. -/
inductive Waits : World → List WaitAnswer → WaitStatus → Prop where
  | works {world next : World} {answers : List WaitAnswer}
      {status : WaitStatus} (works : Works world next)
      (later : Waits next answers status) : Waits world answers status
  | running {world : World} {answers : List WaitAnswer} {status : WaitStatus}
      (later : Waits world answers status) :
      Waits world (.running :: answers) status
  | interrupted {world : World} {answers : List WaitAnswer}
      {status : WaitStatus} (later : Waits world answers status) :
      Waits world (.interrupted :: answers) status
  | reaped {world : World} {answers : List WaitAnswer} {code : UInt8}
      (exited : world.process = .exited code) :
      Waits world (.reaped (.exited code) :: answers) (.exited code)

/-- The exchange begins with a fresh worker and comes to its end; the input
pipe is closed in between. -/
inductive Completes (program : Program) (buffer : SecureBytes)
    (polls : List PollAnswer) (waits : List WaitAnswer) (readBuf : SecureBytes)
    (status : WaitStatus) : Prop where
  | completes {last : World}
      (polled : Polls buffer ⟨0, true, []⟩ (World.start program) polls readBuf
        last)
      (waited : Waits last.close waits status)

/-! ## The invariant -/

/-- Where the two processes stand between the evaluator's calls. -/
structure Holds (program : Program) (buffer : SecureBytes) (state : PollState)
    (world : World) : Prop where
  follows : Follows program buffer (buffer.drop state.writeOffset)
    state.readBuf world
  closed_eq : world.closed = !state.inputOpen
  short : state.readBuf.length ≤ responseSize

/-- The worker's calls keep to what the program means. -/
theorem Works.follows {pending received : SecureBytes} {world next : World}
    (works : Works world next)
    (follows : Follows program buffer pending received world) :
    Follows program buffer pending received next := by
  induction works with
  | none => exact follows
  | call stepped _ inductionHypothesis =>
      exact inductionHypothesis (follows.step stepped)

/-- The worker does not close the evaluator's end. -/
theorem closed_of_step {world next : World} {event : PipeProcess.Event}
    (stepped : world.step event = some next) :
    next.closed = world.closed := by
  cases World.calls_of_step stepped with
  | read => rfl
  | readEnd => rfl
  | write => rfl
  | interrupted => rfl

theorem Works.closed_eq {world next : World} (works : Works world next) :
    next.closed = world.closed := by
  induction works with
  | none => rfl
  | call stepped _ inductionHypothesis =>
      rw [inductionHypothesis, closed_of_step stepped]

/-- The invariant is one of the worker's calls too. -/
theorem Holds.works {state : PollState} {world next : World}
    (holds : Holds program buffer state world) (works : Works world next) :
    Holds program buffer state next where
  follows := works.follows holds.follows
  closed_eq := by rw [works.closed_eq, holds.closed_eq]
  short := holds.short

/-- A worker that has exited reads nothing more. -/
theorem Exited.draining {world : World} (exited : Exited world) :
    world.process.Draining := by
  obtain ⟨code, ended⟩ := exited
  rw [ended]
  trivial

/-- The worker sees the evaluator's end as it is. -/
theorem Holds.isOpen {state : PollState} {world : World}
    (holds : Holds program buffer state world)
    (isOpen : state.inputOpen = true) : world.closed = false := by
  rw [holds.closed_eq, isOpen]
  rfl

/-- The evaluator's end is closed, all sent or nothing more read. -/
theorem Holds.close {state : PollState} {world : World}
    (holds : Holds program buffer state world)
    (done : buffer.length ≤ state.writeOffset ∨ world.process.Draining) :
    Holds program buffer { state with inputOpen := false } world.close where
  follows := holds.follows.close (done.imp_left List.drop_eq_nil_of_le)
  closed_eq := rfl
  short := holds.short

/-- Bytes that are written move from the buffer into the pipe. -/
theorem Holds.send {state : PollState} {world : World}
    (holds : Holds program buffer state world)
    (isOpen : state.inputOpen = true) (count : Nat) :
    Holds program buffer
      { state with writeOffset := state.writeOffset + count }
      (world.send ((buffer.drop state.writeOffset).take count)) where
  follows := by
    have sent := holds.follows.send (holds.isOpen isOpen) count
    rw [List.drop_drop] at sent
    exact sent
  closed_eq := holds.closed_eq
  short := holds.short

/-- The state after the part of a round that writes. -/
def afterWrite (buffer : SecureBytes) (state : PollState)
    (input : InputEvents) : PollState :=
  if state.inputOpen then state.write buffer.length input else state

/-- The part of a round that writes reads nothing. -/
theorem afterWrite_readBuf (state : PollState) (input : InputEvents) :
    (afterWrite buffer state input).readBuf = state.readBuf := by
  unfold afterWrite PollState.write
  grind

theorem afterWrite_wrote {state : PollState} {count : Nat}
    (isOpen : state.inputOpen = true) (positive : 0 < count)
    (more : state.writeOffset + count < buffer.length) :
    afterWrite buffer state (.writable (.wrote count)) =
      { state with writeOffset := state.writeOffset + count } := by
  simp [afterWrite, PollState.write, isOpen, positive, more]

/-- Once all is written, the evaluator closes its end. -/
theorem afterWrite_wroteAll {state : PollState} {count : Nat}
    (isOpen : state.inputOpen = true) (positive : 0 < count)
    (all : state.writeOffset + count = buffer.length) :
    afterWrite buffer state (.writable (.wrote count)) =
      { state with
        writeOffset := state.writeOffset + count
        inputOpen := false } := by
  simp [afterWrite, PollState.write, isOpen, positive, all]

/-- The part of a round that writes. -/
theorem Holds.sends {state : PollState} {world sent : World}
    {input : InputEvents} (holds : Holds program buffer state world)
    (sends : Sends buffer state world input sent) :
    Holds program buffer (afterWrite buffer state input) sent := by
  cases sends with
  | closed isClosed =>
      rw [afterWrite, isClosed]
      exact holds
  | quiet =>
      rw [afterWrite, PollState.write, ite_self]
      exact holds
  | @wrote count isOpen positive more =>
      rw [afterWrite_wrote isOpen positive more]
      exact holds.send isOpen count
  | @wroteAll count isOpen positive all =>
      rw [afterWrite_wroteAll isOpen positive all]
      exact (holds.send isOpen count).close (.inl (Nat.le_of_eq all.symm))
  | again =>
      rw [afterWrite, PollState.write, ite_self]
      exact holds
  | failed isOpen exited =>
      rw [afterWrite, if_pos isOpen]
      exact holds.close (.inr exited.draining)
  | hungUp isOpen exited =>
      rw [afterWrite, if_pos isOpen]
      exact holds.close (.inr exited.draining)

/-- The part that reads; the loop ends when the output has ended. -/
theorem Holds.receives {state : PollState} {world received : World}
    {output : OutputEvents} (holds : Holds program buffer state world)
    (receives : Receives state.readBuf world output received) :
    Holds program buffer (state.read output).1 received ∧
      ((state.read output).2 = true →
        received.output = [] ∧ Exited received) := by
  cases receives with
  | quiet => exact ⟨holds, by simp [PollState.read]⟩
  | @bytes count positive there wanted =>
      refine ⟨?_, by simp [PollState.read]⟩
      constructor
      · exact holds.follows.receive count
      · exact holds.closed_eq
      · rw [PollState.read, List.length_append, List.length_take,
          Nat.min_eq_left there]
        exact wanted
  | ended empty exited => exact ⟨holds, fun _ => ⟨empty, exited⟩⟩
  | again => exact ⟨holds, by simp [PollState.read]⟩

/-- A whole round. -/
theorem Holds.rounds {state : PollState} {world next : World}
    {input : InputEvents} {output : OutputEvents}
    (holds : Holds program buffer state world)
    (rounds : Rounds buffer state world input output next) :
    Holds program buffer (state.round buffer.length input output).1 next ∧
      ((state.round buffer.length input output).2 = true →
        next.output = [] ∧ Exited next) := by
  cases rounds with
  | round sends works receives =>
      apply ((holds.sends sends).works works).receives
      rw [afterWrite_readBuf]
      exact receives

/-! ## What an exchange amounts to -/

/-- The evaluator has read the whole response, or all that there will be. -/
structure Left (program : Program) (buffer readBuf : SecureBytes)
    (world : World) : Prop where
  follows : ∃ pending, Follows program buffer pending readBuf world
  whole : readBuf.length = responseSize ∨
    (program.meaning buffer).written = readBuf
  short : readBuf.length ≤ responseSize

/-- When the loop ends, the response is there, or all that the worker has
written. -/
theorem Holds.left {state : PollState} {world : World}
    (holds : Holds program buffer state world)
    (done : (world.output = [] ∧ Exited world) ∨
      responseSize ≤ state.readBuf.length) :
    Left program buffer state.readBuf world.close := by
  rcases done with ⟨empty, code, ended⟩ | full
  · refine ⟨⟨_, holds.follows.close (.inr (Exited.draining ⟨code, ended⟩))⟩,
      .inr ?_, holds.short⟩
    rw [holds.follows.exited ended, empty, List.append_nil]
  · have some : state.readBuf ++ world.output ≠ [] := by
      intro none
      rw [(List.append_eq_nil_iff.mp none).1] at full
      exact absurd full (by decide)
    exact ⟨⟨_, holds.follows.close (.inr (holds.follows.draining some))⟩,
      .inl (Nat.le_antisymm holds.short full), holds.short⟩

theorem pollLoop_full {size : Nat} {answers : List PollAnswer}
    {state : PollState} (full : responseSize ≤ state.readBuf.length) :
    pollLoop size answers state = .ok state.readBuf := by
  cases answers with
  | nil => rw [pollLoop, if_neg (Nat.not_lt.mpr full)]
  | cons => rw [pollLoop.eq_def]; exact if_neg (Nat.not_lt.mpr full)

/-- The loop over `poll` returns what the rules say it has read. -/
theorem Polls.left {state : PollState} {world last : World}
    {answers : List PollAnswer} {readBuf : SecureBytes}
    (polls : Polls buffer state world answers readBuf last)
    (holds : Holds program buffer state world)
    (more : state.readBuf.length < responseSize) :
    pollLoop buffer.length answers state = .ok readBuf ∧
      Left program buffer readBuf last.close := by
  induction polls with
  | works works _ inductionHypothesis =>
      exact inductionHypothesis (holds.works works) more
  | interrupted _ inductionHypothesis =>
      rw [pollLoop, if_pos more]
      exact inductionHypothesis holds more
  | goesOn round stays short _ inductionHypothesis =>
      rw [pollLoop, if_pos more, stays]
      exact inductionHypothesis (holds.rounds round).1 short
  | @leaves state world last input output answers round done =>
      obtain ⟨after, ended⟩ := holds.rounds round
      refine ⟨?_, after.left (done.imp_left ended)⟩
      rw [pollLoop, if_pos more]
      split
      · rfl
      · next stays => exact pollLoop_full (done.resolve_left stays)

/-- The loop over `waitpid` returns the code that the program means, and what
was read is the beginning of what it means to write. -/
theorem Waits.result {world : World} {answers : List WaitAnswer}
    {status : WaitStatus} {readBuf : SecureBytes}
    (waits : Waits world answers status)
    (left : Left program buffer readBuf world) :
    waitLoop answers = .ok status ∧
      readBuf = (program.meaning buffer).written.take responseSize ∧
      status = .exited (program.meaning buffer).code := by
  induction waits with
  | works works _ inductionHypothesis =>
      obtain ⟨⟨pending, follows⟩, whole, short⟩ := left
      exact inductionHypothesis ⟨⟨pending, works.follows follows⟩, whole, short⟩
  | running _ inductionHypothesis => exact inductionHypothesis left
  | interrupted _ inductionHypothesis => exact inductionHypothesis left
  | @reaped world answers code exited =>
      obtain ⟨⟨pending, follows⟩, whole, short⟩ := left
      have meaning := follows.exited exited
      refine ⟨rfl, ?_, by rw [meaning]⟩
      rcases whole with full | all
      · rw [meaning, ← full, List.take_left']
        rfl
      · rw [all, List.take_of_length_le short]

/-- However the bytes are cut up and the calls interleave, the evaluator reads
the beginning of what the worker writes for the whole request, and the status
is the worker's. -/
theorem Completes.result {polls : List PollAnswer} {waits : List WaitAnswer}
    {readBuf : SecureBytes} {status : WaitStatus}
    (completes : Completes program buffer polls waits readBuf status)
    (last : program.WritesLast) :
    pollLoop buffer.length polls ⟨0, true, []⟩ = .ok readBuf ∧
      waitLoop waits = .ok status ∧
      readBuf = (program.meaning buffer).written.take responseSize ∧
      status = .exited (program.meaning buffer).code := by
  cases completes with
  | completes polled waited =>
      have start : Holds program buffer ⟨0, true, []⟩ (World.start program) :=
        ⟨Follows.start last buffer, rfl, Nat.zero_le _⟩
      obtain ⟨polling, left⟩ := polled.left start (by decide)
      exact ⟨polling, waited.result left⟩

/-! ## The exchange without delays -/

/-- The worker goes on from where it was. -/
theorem Works.trans {first second third : World} (one : Works first second)
    (two : Works second third) : Works first third := by
  induction one with
  | none => exact two
  | call stepped _ inductionHypothesis =>
      exact .call stepped (inductionHypothesis two)

/-- A read of a part of what is there. -/
theorem works_read {got input output : SecureBytes} {count missing : Nat}
    {next : Option SecureBytes → Program} {closed : Bool}
    (positive : 0 < count) (wanted : count ≤ missing)
    (there : count ≤ input.length) :
    Works ⟨.reading got missing next, input, closed, output⟩
      ⟨if count = missing then .start (next (some (got ++ input.take count)))
        else .reading (got ++ input.take count) (missing - count) next,
        input.drop count, closed, output⟩ :=
  @Works.call _ _ _ (.read count)
    (by simp only [World.step]; rw [if_pos ⟨positive, wanted, there⟩]) .none

/-- A worker that asks for more than there is takes it all and then finds the
end of the stream. -/
theorem works_readEnd {input output : SecureBytes} {count : Nat}
    {next : Option SecureBytes → Program} (few : input.length < count) :
    Works ⟨.reading [] count next, input, true, output⟩
      ⟨.start (next none), [], true, output⟩ := by
  have ended : ∀ (got : SecureBytes) (missing : Nat),
      Works ⟨.reading got missing next, [], true, output⟩
        ⟨.start (next none), [], true, output⟩ := by
    intro got missing
    exact @Works.call _ _ _ .readEnd rfl .none
  by_cases empty : input = []
  · subst empty
    exact ended _ _
  · have read := @works_read [] input output input.length count next true
      (List.length_pos_iff.mpr empty) (Nat.le_of_lt few) (Nat.le_refl _)
    rw [if_neg (Nat.ne_of_lt few), List.drop_length] at read
    exact read.trans (ended _ _)

/-- A worker whose input is all there and closed runs to its end. -/
theorem works_finish (program : Program) (input output : SecureBytes) :
    ∃ left, Works ⟨.start program, input, true, output⟩
      ⟨.exited (program.meaning input).code, left, true,
        output ++ (program.meaning input).written⟩ := by
  induction program generalizing input output with
  | readAll count next inductionHypothesis =>
      rw [PipeProcess.Process.start, Program.meaning]
      split
      · next zero =>
          rw [zero]
          simpa using inductionHypothesis (some []) input output
      · next positive =>
          split
          · next enough =>
              obtain ⟨left, later⟩ := inductionHypothesis
                (some (input.take count)) (input.drop count) output
              have read := @works_read [] input output count count next true
                (Nat.pos_of_ne_zero positive) (Nat.le_refl _) enough
              rw [if_pos rfl] at read
              exact ⟨left, read.trans later⟩
          · next few =>
              obtain ⟨left, later⟩ := inductionHypothesis none [] output
              exact ⟨left, (works_readEnd (Nat.lt_of_not_le few)).trans later⟩
  | writeAll bytes next inductionHypothesis =>
      rw [PipeProcess.Process.start, Program.meaning]
      split
      · next empty =>
          rw [empty]
          exact inductionHypothesis true input output
      · next nonempty =>
          obtain ⟨left, later⟩ := inductionHypothesis true input
            (output ++ bytes)
          have written : (World.mk (.writing bytes next) input true
              output).step (.write bytes.length) =
                some ⟨.start (next true), input, true, output ++ bytes⟩ := by
            simp only [World.step]
            rw [if_pos ⟨List.length_pos_iff.mpr nonempty, Nat.le_refl _⟩]
            simp
          refine ⟨left, .call written ?_⟩
          simpa only [PipeProcess.Result.after, List.append_assoc] using later
  | exit code =>
      rw [PipeProcess.Process.start, Program.meaning, List.append_nil]
      exact ⟨input, .none⟩

/-- The exchange in which the evaluator writes the whole request at once and
the worker answers at once. -/
def prompt (result : PipeProcess.Result) (size : Nat) : Exchange where
  inputPipe := true
  outputPipe := true
  forked := true
  polls := [.ready (.writable (.wrote size))
    (.readable (if result.written = [] then .ended
      else .bytes result.written))]
  waits := [.reaped (.exited result.code)]

/-- The worker need not be slow: every request can be exchanged so. -/
theorem completes_prompt {result : PipeProcess.Result}
    (means : program.meaning buffer = result) (given : buffer ≠ [])
    (answers : result.written = [] ∨
      result.written.length = responseSize) :
    Completes program buffer (prompt result buffer.length).polls
      (prompt result buffer.length).waits result.written
      (.exited result.code) := by
  obtain ⟨left, works⟩ := works_finish program buffer []
  rw [means, List.nil_append] at works
  have sends : Sends buffer ⟨0, true, []⟩ (World.start program)
      (.writable (.wrote buffer.length))
      ⟨.start program, buffer, true, []⟩ := by
    have all := @Sends.wroteAll buffer ⟨0, true, []⟩ (World.start program) _
      rfl (List.length_pos_iff.mpr given) (Nat.zero_add _)
    rwa [List.drop_zero, List.take_length] at all
  have positive : 0 < buffer.length := List.length_pos_iff.mpr given
  have after : ∀ output, (PollState.mk 0 true []).round buffer.length
      (.writable (.wrote buffer.length)) output =
        (PollState.mk (0 + buffer.length)
          (decide (0 + buffer.length < buffer.length)) []).read output := by
    intro output
    rw [PollState.round, if_pos rfl, PollState.write, if_pos positive]
  rcases answers with none | full
  · have polls := @Polls.leaves buffer _ _ _ _ _ []
      (.round sends works (.ended none ⟨_, rfl⟩))
      (by rw [after]; exact .inl rfl)
    rw [after] at polls
    simp only [prompt, none, if_true]
    exact .completes polls (.reaped rfl)
  · have receives := @Receives.bytes [] ⟨.exited result.code, left, true,
      result.written⟩ result.written.length (by rw [full]; decide)
      (Nat.le_refl _) (by simp [full])
    have polls := @Polls.leaves buffer _ _ _ _ _ []
      (.round sends works receives) (by
        rw [after]
        right
        simp [PollState.read, full])
    have some : result.written ≠ [] := by
      intro none
      rw [none] at full
      cases full
    rw [after] at polls
    simp only [List.take_length, PollState.read, List.nil_append] at polls
    simp only [prompt, some, if_false]
    exact .completes polls (.reaped rfl)

end EntropyPipes

end DuckPass
