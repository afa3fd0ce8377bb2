/-
Module: DuckPass.System.WorkerStages
Purpose: How far the entropy worker has got with a request, at any moment of
  an exchange, whatever the pieces are in which its bytes travel.
Trusted boundary: as for `DuckPass.System.EntropyPipes`.
Main exports: EntropyPipes.Reached, WorkerStage, EntropyPipes.InStep,
  EntropyPipes.Reached.stage
-/
import DuckPass.Proofs.EntropyEvaluator

namespace DuckPass

open PipeProcess (Program Process World Follows)

/-! ## Any moment of an exchange -/

namespace EntropyPipes

open EntropyEvaluator

variable {program : Program} {buffer : SecureBytes}

/-- The evaluator's loop and the pipes as they can be when a call has come to
its end, on either side. -/
inductive Reached (program : Program) (buffer : SecureBytes) :
    PollState → World → Prop where
  | start : Reached program buffer ⟨0, true, []⟩ (World.start program)
  | works {state : PollState} {world next : World}
      {event : PipeProcess.Event} (before : Reached program buffer state world)
      (stepped : world.step event = some next) :
      Reached program buffer state next
  | sends {state : PollState} {world sent : World} {input : InputEvents}
      (before : Reached program buffer state world)
      (sends : Sends buffer state world input sent) :
      Reached program buffer (afterWrite buffer state input) sent
  | receives {state : PollState} {world received : World}
      {output : OutputEvents} (before : Reached program buffer state world)
      (receives : Receives state.readBuf world output received) :
      Reached program buffer (state.read output).1 received
  | closes {state : PollState} {world : World}
      (before : Reached program buffer state world)
      (done : Exited world ∨ responseSize ≤ state.readBuf.length) :
      Reached program buffer { state with inputOpen := false } world.close

namespace Reached

variable {state : PollState} {world : World}

/-- Nothing more is read once a response has come or the worker is gone. -/
theorem draining (holds : Holds program buffer state world)
    (done : Exited world ∨ responseSize ≤ state.readBuf.length) :
    world.process.Draining := by
  rcases done with exited | full
  · exact exited.draining
  · apply holds.follows.draining
    intro none
    rw [(List.append_eq_nil_iff.mp none).1] at full
    exact absurd full (by decide)

/-- The invariant of the exchange holds at every moment. -/
theorem holds (last : program.WritesLast)
    (reached : Reached program buffer state world) :
    Holds program buffer state world := by
  induction reached with
  | start => exact ⟨Follows.start last buffer, rfl, Nat.zero_le _⟩
  | works _ stepped inductionHypothesis =>
      exact inductionHypothesis.works (.call stepped .none)
  | sends _ sends inductionHypothesis =>
      exact inductionHypothesis.sends sends
  | receives _ receives inductionHypothesis =>
      exact (inductionHypothesis.receives receives).1
  | closes _ done inductionHypothesis =>
      exact inductionHypothesis.close
        (.inr (draining inductionHypothesis done))

/-- The worker may take any number of calls. -/
theorem worksAll {next : World} (before : Reached program buffer state world)
    (works : Works world next) : Reached program buffer state next := by
  induction works with
  | none => exact before
  | call stepped _ inductionHypothesis =>
      exact inductionHypothesis (before.works stepped)

/-- A round of the evaluator leads from a moment to a moment. -/
theorem rounds {next : World} {input : InputEvents} {output : OutputEvents}
    (before : Reached program buffer state world)
    (rounds : Rounds buffer state world input output next) :
    Reached program buffer (state.round buffer.length input output).1
      next := by
  cases rounds with
  | round sends works receives =>
      apply ((before.sends sends).worksAll works).receives
      rw [afterWrite_readBuf]
      exact receives

/-- So does the loop over `poll`, which closes the input at its end. -/
theorem polls (last : program.WritesLast) {ended : World}
    {answers : List PollAnswer} {readBuf : SecureBytes}
    (before : Reached program buffer state world)
    (polls : Polls buffer state world answers readBuf ended) :
    ∃ after, Reached program buffer after ended.close := by
  induction polls with
  | works works _ inductionHypothesis =>
      exact inductionHypothesis (before.worksAll works)
  | interrupted _ inductionHypothesis => exact inductionHypothesis before
  | goesOn round _ _ _ inductionHypothesis =>
      exact inductionHypothesis (before.rounds round)
  | leaves round done =>
      have ended := ((before.holds last).rounds round).2
      exact ⟨_, (before.rounds round).closes
        (done.imp_left fun left => (ended left).2)⟩

/-- The loop over `waitpid` ends with the code of a worker that has exited. -/
theorem waits {answers : List WaitAnswer} {status : WaitStatus}
    (before : Reached program buffer state world)
    (waits : Waits world answers status) :
    ∃ next code, Reached program buffer state next ∧
      next.process = .exited code ∧ status = .exited code := by
  induction waits with
  | works works _ inductionHypothesis =>
      exact inductionHypothesis (before.worksAll works)
  | running _ inductionHypothesis => exact inductionHypothesis before
  | interrupted _ inductionHypothesis => exact inductionHypothesis before
  | reaped exited => exact ⟨_, _, before, exited, rfl⟩

/-- An exchange that comes to its end goes only through such moments, and the
status is that of the worker at its end. -/
theorem completes (last : program.WritesLast) {answers : List PollAnswer}
    {waited : List WaitAnswer} {readBuf : SecureBytes} {status : WaitStatus}
    (completes : Completes program buffer answers waited readBuf status) :
    ∃ state world code, Reached program buffer state world ∧
      world.process = .exited code ∧ status = .exited code := by
  cases completes with
  | completes polled waited =>
      obtain ⟨state, closed⟩ := Reached.start.polls last polled
      obtain ⟨world, code, reached, exited, same⟩ := closed.waits waited
      exact ⟨state, world, code, reached, exited, same⟩

end Reached

end EntropyPipes

/-! ## How far the worker has got -/

open EntropyWorker (programOf afterHeader afterPassword afterResponse
  wireBytes)

/-- `evaluate`'s request for a password. -/
def requestOf (password : SecureString) : SecureBytes :=
  littleEndian 4 password.length ++ password

/-- Where the worker is, and what it has read of the request.  It waits for
the length or for the password with a part of it, it writes its answer for the
password, or it has exited. -/
inductive WorkerStage (init : Bool) (evaluation : SecureBytes → EntropyScore)
    (password : SecureString) : Process → (consumed : SecureBytes) → Prop where
  | uninitialized (off : init = false) :
      WorkerStage init evaluation password (.exited 2) []
  | header {got : SecureBytes} {missing : Nat}
      (begun : got <+: littleEndian 4 password.length)
      (count : got.length + missing = 4) (more : 0 < missing) :
      WorkerStage init evaluation password
        (.reading got missing (afterHeader evaluation)) got
  | body {got : SecureBytes} {missing : Nat} (begun : got <+: password)
      (count : got.length + missing = password.length) (more : 0 < missing) :
      WorkerStage init evaluation password
        (.reading got missing (afterPassword evaluation))
        (littleEndian 4 password.length ++ got)
  | response {rest : SecureBytes}
      (remaining : rest <:+ wireBytes (evaluation password)) :
      WorkerStage init evaluation password (.writing rest afterResponse)
        (requestOf password)
  | answered :
      WorkerStage init evaluation password (.exited 0) (requestOf password)

namespace WorkerStage

open EntropyPipes EntropyEvaluator

variable {init : Bool} {evaluation : SecureBytes → EntropyScore}
  {password : SecureString} {process : Process} {consumed : SecureBytes}

/-- The lengths that the worker takes. -/
def Taken (password : SecureString) : Prop :=
  1 ≤ password.length ∧ password.length ≤ EntropyWorker.maxLength

/-- The length that the worker reads is that of the password. -/
theorem afterHeader_eq (taken : Taken password) :
    afterHeader evaluation (some (littleEndian 4 password.length)) =
      .readAll password.length (afterPassword evaluation) := by
  obtain ⟨some, bounded⟩ := taken
  have small : password.length < 2 ^ 32 :=
    Nat.lt_of_le_of_lt bounded (by decide)
  have len := wordAt_header [] small
  rw [List.append_nil] at len
  unfold afterHeader
  dsimp only
  rw [len, if_neg (by omega)]

/-- With a length that it accepts the worker goes on to read the password. -/
theorem start_body (taken : Taken password) :
    Process.start (afterHeader evaluation
      (some (littleEndian 4 password.length))) =
      .reading [] password.length (afterPassword evaluation) := by
  rw [afterHeader_eq taken, Process.start, if_neg]
  obtain ⟨some, _⟩ := taken
  omega

/-- With the password it goes on to write its answer. -/
theorem start_response :
    Process.start (afterPassword evaluation (some password)) =
      .writing (wireBytes (evaluation password)) afterResponse := by
  unfold afterPassword
  rw [Process.start, if_neg]
  intro empty
  have length := EntropyWorker.length_wireBytes (evaluation password)
  rw [empty] at length
  cases length

/-- The worker begins with nothing read. -/
theorem start : WorkerStage init evaluation password
    (Process.start (programOf evaluation init)) [] := by
  cases init with
  | false => exact .uninitialized rfl
  | true => exact .header List.nil_prefix rfl (by decide)

/-- A process that waits for input has not read all of the request. -/
theorem short_of_reading {got : SecureBytes} {missing : Nat}
    {next : Option SecureBytes → Program}
    (stage : WorkerStage init evaluation password
      (.reading got missing next) consumed) :
    consumed.length < (requestOf password).length := by
  unfold requestOf
  rw [List.length_append, length_littleEndian]
  cases stage with
  | header begun count more => omega
  | body begun count more =>
      rw [List.length_append, length_littleEndian]
      omega

/-- A read that gets the next bytes of the request. -/
theorem read (taken : Taken password) {got chunk : SecureBytes}
    {missing : Nat} {next : Option SecureBytes → Program}
    (stage : WorkerStage init evaluation password
      (.reading got missing next) consumed)
    (wanted : chunk.length ≤ missing)
    (inOrder : consumed ++ chunk <+: requestOf password) :
    WorkerStage init evaluation password
      (if chunk.length = missing then .start (next (some (got ++ chunk)))
        else .reading (got ++ chunk) (missing - chunk.length) next)
      (consumed ++ chunk) := by
  cases stage with
  | header begun count more =>
      have begins : consumed ++ chunk <+: littleEndian 4 password.length := by
        apply List.prefix_of_prefix_length_le inOrder
          (List.prefix_append _ password)
        rw [List.length_append, length_littleEndian]
        omega
      split
      · next full =>
          have whole : consumed ++ chunk = littleEndian 4 password.length := by
            apply begins.eq_of_length
            rw [List.length_append, length_littleEndian]
            omega
          rw [whole, start_body taken]
          have stage := @WorkerStage.body init evaluation password [] _
            List.nil_prefix (Nat.zero_add _) taken.1
          rw [List.append_nil] at stage
          exact stage
      · next part =>
          apply WorkerStage.header begins
          · rw [List.length_append]
            omega
          · omega
  | body begun count more =>
      rw [List.append_assoc] at inOrder ⊢
      have begins : got ++ chunk <+: password :=
        (List.prefix_append_right_inj _).mp inOrder
      split
      · next full =>
          have whole : got ++ chunk = password := by
            apply begins.eq_of_length
            rw [List.length_append]
            omega
          rw [whole, start_response]
          exact .response (List.suffix_refl _)
      · next part =>
          apply WorkerStage.body begins
          · rw [List.length_append]
            omega
          · omega

/-- A write that transfers some bytes of the response. -/
theorem write {rest : SecureBytes} {next : Bool → Program} (count : Nat)
    (stage : WorkerStage init evaluation password (.writing rest next)
      consumed) :
    WorkerStage init evaluation password
      (if count = rest.length then .start (next true)
        else .writing (rest.drop count) next) consumed := by
  cases stage with
  | response remaining =>
      split
      · exact .answered
      · exact .response ((List.drop_suffix count rest).trans remaining)

/-- A process that has read all of the request reads nothing any more. -/
theorem draining (stage : WorkerStage init evaluation password process
    (requestOf password)) : process.Draining := by
  cases process with
  | reading got missing next =>
      exact absurd (short_of_reading stage) (Nat.lt_irrefl _)
  | writing rest next =>
      cases stage
      exact ⟨0, rfl⟩
  | exited code => trivial

/-- A worker that writes has read the whole request. -/
theorem consumed_of_writing {rest : SecureBytes} {next : Bool → Program}
    (stage : WorkerStage init evaluation password (.writing rest next)
      consumed) : consumed = requestOf password := by
  cases stage
  rfl

end WorkerStage

namespace EntropyPipes

open EntropyEvaluator

/-- The worker is at a stage, what it has not yet read of what was sent is in
the pipe, and the pipe is not closed on a worker that waits for more. -/
structure InStep (init : Bool) (evaluation : SecureBytes → EntropyScore)
    (password : SecureString) (state : PollState) (world : World) :
    Prop where
  stage : ∃ consumed,
    WorkerStage init evaluation password world.process consumed ∧
      consumed ++ world.input =
        (requestOf password).take state.writeOffset
  closed : world.closed = true →
    (requestOf password).length ≤ state.writeOffset ∨
      world.process.Draining

namespace InStep

variable {init : Bool} {evaluation : SecureBytes → EntropyScore}
  {password : SecureString} {state : PollState} {world next : World}

theorem start : InStep init evaluation password ⟨0, true, []⟩
    (World.start (programOf evaluation init)) where
  stage := ⟨[], WorkerStage.start, rfl⟩
  closed impossible := by cases impossible

/-- While the worker waits for input, a closed pipe has all of it. -/
theorem sent_of_reading (holds : InStep init evaluation password state world)
    {got : SecureBytes} {missing : Nat} {later : Option SecureBytes → Program}
    (reading : world.process = .reading got missing later)
    (isClosed : world.closed = true) :
    (requestOf password).length ≤ state.writeOffset := by
  apply (holds.closed isClosed).resolve_right
  rw [reading]
  exact id

/-- A read of the worker goes on along the stages. -/
theorem read (taken : WorkerStage.Taken password)
    (holds : InStep init evaluation password state world)
    {got : SecureBytes} {count missing : Nat}
    {later : Option SecureBytes → Program}
    (reading : world.process = .reading got missing later)
    (wanted : count ≤ missing) (there : count ≤ world.input.length) :
    InStep init evaluation password state
      { world with
        process :=
          if count = missing then
            .start (later (some (got ++ world.input.take count)))
          else
            .reading (got ++ world.input.take count) (missing - count) later
        input := world.input.drop count } where
  stage := by
    obtain ⟨consumed, stage, flow⟩ := holds.stage
    rw [reading] at stage
    have size : (world.input.take count).length = count :=
      List.length_take_of_le there
    have inOrder : consumed ++ world.input.take count <+:
        requestOf password := by
      apply List.IsPrefix.trans _ (List.take_prefix state.writeOffset _)
      rw [← flow, List.prefix_append_right_inj]
      exact List.take_prefix _ _
    have wanted := Nat.le_trans (Nat.le_of_eq size) wanted
    have after := stage.read taken wanted inOrder
    rw [size] at after
    refine ⟨_, after, ?_⟩
    rw [List.append_assoc, List.take_append_drop, flow]
  closed isClosed := .inl (holds.sent_of_reading reading isClosed)

/-- The worker does not find the end of its input while it waits for more. -/
theorem not_readEnd (holds : InStep init evaluation password state world)
    {got : SecureBytes} {missing : Nat} {later : Option SecureBytes → Program}
    (reading : world.process = .reading got missing later) :
    ¬ (world.input = [] ∧ world.closed = true) := by
  rintro ⟨empty, isClosed⟩
  obtain ⟨consumed, stage, flow⟩ := holds.stage
  have sent := holds.sent_of_reading reading isClosed
  rw [empty, List.append_nil, List.take_of_length_le sent] at flow
  rw [reading, flow] at stage
  exact absurd stage.short_of_reading (Nat.lt_irrefl _)

/-- A write of the worker does not touch what it has read. -/
theorem write (holds : InStep init evaluation password state world)
    {rest : SecureBytes} {count : Nat} {later : Bool → Program}
    (writing : world.process = .writing rest later) :
    InStep init evaluation password state
      { world with
        process :=
          if count = rest.length then .start (later true)
          else .writing (rest.drop count) later
        output := world.output ++ rest.take count } := by
  obtain ⟨consumed, stage, flow⟩ := holds.stage
  rw [writing] at stage
  have all := stage.consumed_of_writing
  have after := stage.write count
  subst all
  exact ⟨⟨_, after, flow⟩, fun _ => .inr after.draining⟩

/-- Every call of the worker keeps to the stages. -/
theorem works (taken : WorkerStage.Taken password)
    (holds : InStep init evaluation password state world)
    {event : PipeProcess.Event} (stepped : world.step event = some next) :
    InStep init evaluation password state next := by
  cases World.calls_of_step stepped with
  | read reading wanted there => exact holds.read taken reading wanted there
  | readEnd reading empty closed =>
      exact absurd ⟨empty, closed⟩ (holds.not_readEnd reading)
  | write writing => exact holds.write writing
  | interrupted => exact holds

/-- What the evaluator writes is the next part of the request. -/
theorem send (holds : InStep init evaluation password state world)
    (count : Nat) :
    InStep init evaluation password
      { state with writeOffset := state.writeOffset + count }
      (world.send (((requestOf password).drop state.writeOffset).take
        count)) where
  stage := by
    obtain ⟨consumed, stage, flow⟩ := holds.stage
    refine ⟨consumed, stage, ?_⟩
    show consumed ++ (world.input ++ _) = _
    rw [← List.append_assoc, flow, List.take_add]
  closed isClosed := (holds.closed isClosed).imp_left (Nat.le_add_right_of_le)

/-- It closes its end when all is written or nothing more is read. -/
theorem close (holds : InStep init evaluation password state world)
    (done : (requestOf password).length ≤ state.writeOffset ∨
      world.process.Draining) :
    InStep init evaluation password { state with inputOpen := false }
      world.close where
  stage := holds.stage
  closed _ := done

/-- The part of a round that writes. -/
theorem sends (holds : InStep init evaluation password state world)
    {sent : World} {input : InputEvents}
    (sends : Sends (requestOf password) state world input sent) :
    InStep init evaluation password
      (afterWrite (requestOf password) state input) sent := by
  cases sends with
  | closed isClosed =>
      rw [afterWrite, isClosed]
      exact holds
  | quiet =>
      rw [afterWrite, PollState.write, ite_self]
      exact holds
  | @wrote count isOpen positive more =>
      rw [afterWrite_wrote isOpen positive more]
      exact holds.send count
  | @wroteAll count isOpen positive all =>
      rw [afterWrite_wroteAll isOpen positive all]
      exact (holds.send count).close (.inl (Nat.le_of_eq all.symm))
  | again =>
      rw [afterWrite, PollState.write, ite_self]
      exact holds
  | failed isOpen exited =>
      rw [afterWrite, if_pos isOpen]
      exact holds.close (.inr exited.draining)
  | hungUp isOpen exited =>
      rw [afterWrite, if_pos isOpen]
      exact holds.close (.inr exited.draining)

/-- The part that reads. -/
theorem receives (holds : InStep init evaluation password state world)
    {received : World} {output : OutputEvents}
    (receives : Receives state.readBuf world output received) :
    InStep init evaluation password (state.read output).1 received := by
  cases receives with
  | quiet => exact holds
  | bytes positive there wanted => exact ⟨holds.stage, holds.closed⟩
  | ended empty exited => exact holds
  | again => exact holds

end InStep

/-- At every moment of an exchange the worker has read the beginning of the
request and nothing else, and what it answers is for the password sent. -/
theorem Reached.stage {init : Bool} {evaluation : SecureBytes → EntropyScore}
    {password : SecureString} (taken : WorkerStage.Taken password)
    {state : PollState} {world : World}
    (reached : Reached (programOf evaluation init) (requestOf password) state
      world) : InStep init evaluation password state world := by
  induction reached with
  | start => exact InStep.start
  | works _ stepped inductionHypothesis =>
      exact inductionHypothesis.works taken stepped
  | sends _ sends inductionHypothesis =>
      exact inductionHypothesis.sends sends
  | receives _ receives inductionHypothesis =>
      exact inductionHypothesis.receives receives
  | closes before done inductionHypothesis =>
      have holds := before.holds (EntropyWorker.writesLast_programOf _ _)
      exact inductionHypothesis.close (.inr (Reached.draining holds done))

end EntropyPipes

end DuckPass
