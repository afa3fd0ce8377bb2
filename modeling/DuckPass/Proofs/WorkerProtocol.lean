/-
Module: DuckPass.Proofs.WorkerProtocol
Purpose: Under any scheduling the worker reads the password that `evaluate`
  was called with, and `evaluate` returns what the worker answered or throws.
Trusted boundary: as for `DuckPass.System.EntropyPipes`.
Main exports: EntropyEvaluator.evaluate_of_taken,
  EntropyEvaluator.evaluate_cases, worker_protocol_faithful
-/
import DuckPass.System.WorkerStages

namespace DuckPass

open EntropyWorker (programOf wireBytes)

namespace EntropyEvaluator

variable {exchange : Exchange} {password : SecureString}

/-- The buffer of a password that the worker accepts does not overflow. -/
theorem writeBuf_of_taken (taken : WorkerStage.Taken password) :
    writeBuf password = .ok (requestOf password) := by
  obtain ⟨_, bounded⟩ := taken
  unfold EntropyWorker.maxLength at bounded
  have small : password.length % 2 ^ 32 = password.length :=
    Nat.mod_eq_of_lt (by omega)
  rcases writeBuf_cases password with ⟨wraps, _⟩ | written
  · omega
  · rw [written, small, List.take_length]
    rfl

/-- `evaluate` once the pipes and the worker are there. -/
theorem evaluate_of_taken (taken : WorkerStage.Taken password)
    (ready : exchange.Ready) :
    evaluate exchange password = do
      let readBuf ← pollLoop (requestOf password).length exchange.polls
        ⟨0, true, []⟩
      let status ← waitLoop exchange.waits
      if readBuf.length ≠ responseSize ∨ status ≠ .exited 0 then
        throw (runtimeError ("Entropy evaluator worker execution failed or " ++
          "returned invalid response"))
      return decodeResponse readBuf := by
  rw [evaluate_of_ready (List.ne_nil_of_length_pos taken.1) ready,
    writeBuf_of_taken taken]
  rfl

/-- A computation that ends normally or with an exception. -/
def Throws {α : Type} (result : Except AuditFault α) : Prop :=
  ∀ fault, result = .error fault → ∃ error, fault = .threw error

/-- An error of the evaluator is an exception. -/
theorem throws_error {α : Type} (message : String) :
    Throws (.error (runtimeError message) : Except AuditFault α) := by
  intro fault failed
  cases failed
  exact ⟨_, rfl⟩

theorem throws_ok {α : Type} (value : α) :
    Throws (.ok value : Except AuditFault α) := by
  intro fault impossible
  cases impossible

/-- Nothing but an exception comes out of the loop over `poll`. -/
theorem pollLoop_throws (size : Nat) (answers : List PollAnswer)
    (state : PollState) : Throws (pollLoop size answers state) := by
  induction answers generalizing state with
  | nil =>
      unfold pollLoop
      split
      · exact throws_error _
      · exact throws_ok _
  | cons answer answers inductionHypothesis =>
      unfold pollLoop
      split
      · cases answer with
        | timedOut => exact throws_error _
        | interrupted => exact inductionHypothesis state
        | failed => exact throws_error _
        | ready input output =>
            dsimp only
            split
            · exact throws_ok _
            · exact inductionHypothesis _
      · exact throws_ok _

/-- Nor out of that over `waitpid`. -/
theorem waitLoop_throws (answers : List WaitAnswer) :
    Throws (waitLoop answers) := by
  induction answers with
  | nil => exact throws_error _
  | cons answer answers inductionHypothesis =>
      cases answer with
      | running => exact inductionHypothesis
      | interrupted => exact inductionHypothesis
      | failed => exact throws_error _
      | reaped status => exact throws_ok status

/-- A whole response of a worker that exits with 0 is decoded.  In every other
exchange, whatever the worker does, there is an exception. -/
theorem evaluate_cases (taken : WorkerStage.Taken password)
    (exchange : Exchange) :
    (∃ readBuf,
      pollLoop (requestOf password).length exchange.polls ⟨0, true, []⟩ =
        .ok readBuf ∧
      waitLoop exchange.waits = .ok (.exited 0) ∧
      readBuf.length = responseSize ∧
      evaluate exchange password = .ok (decodeResponse readBuf)) ∨
    ∃ error, evaluate exchange password = .error (.threw error) := by
  by_cases ready : exchange.Ready
  · rw [evaluate_of_taken taken ready]
    cases polled : pollLoop (requestOf password).length exchange.polls
        ⟨0, true, []⟩ with
    | error fault =>
        obtain ⟨error, rfl⟩ := pollLoop_throws _ _ _ fault polled
        exact .inr ⟨error, rfl⟩
    | ok readBuf =>
        cases waited : waitLoop exchange.waits with
        | error fault =>
            obtain ⟨error, rfl⟩ := waitLoop_throws _ fault waited
            exact .inr ⟨error, rfl⟩
        | ok status =>
            simp only [bind, Except.bind]
            by_cases invalid :
                readBuf.length ≠ responseSize ∨ status ≠ .exited 0
            · rw [if_pos invalid]
              exact .inr ⟨_, rfl⟩
            · rw [if_neg invalid]
              rw [not_or, not_not, not_not] at invalid
              obtain ⟨whole, rfl⟩ := invalid
              exact .inl ⟨readBuf, rfl, rfl, whole, rfl⟩
  · right
    have given : password.isEmpty = false := by
      rw [List.isEmpty_eq_false_iff]
      exact List.ne_nil_of_length_pos taken.1
    unfold evaluate
    rw [given]
    cases inputPipe : exchange.inputPipe with
    | false => exact ⟨_, rfl⟩
    | true =>
        cases outputPipe : exchange.outputPipe with
        | false => exact ⟨_, rfl⟩
        | true =>
            cases forked : exchange.forked with
            | false => exact ⟨_, rfl⟩
            | true => exact absurd ⟨inputPipe, outputPipe, forked⟩ ready

end EntropyEvaluator

open EntropyEvaluator EntropyPipes

/-- For the whole request the worker means to write its answer and to exit with
0. -/
theorem meaning_requestOf {evaluation : SecureBytes → EntropyScore}
    {password : SecureString} (taken : WorkerStage.Taken password) :
    (programOf evaluation true).meaning (requestOf password) =
      ⟨wireBytes (evaluation password), 0⟩ := by
  obtain ⟨some, bounded⟩ := taken
  have small : password.length < 2 ^ 32 :=
    Nat.lt_of_le_of_lt bounded (by decide)
  unfold requestOf
  rw [EntropyWorker.meaning_programOf evaluation small, if_neg (by omega)]

/-- Take a password that the worker accepts, and a worker with any evaluation
(`EntropyWorker.program` is one of these by `EntropyWorker.program_eq`).  At
every moment the worker has read the beginning of the request, and it answers
for the password sent.  An exchange that comes to its end returns the worker's
answer if the worker exits with 0, and throws if not.  Whatever a worker does,
nothing but a response of 21 bytes with exit code 0 is returned. -/
theorem worker_protocol_faithful (init : Bool)
    (evaluation : SecureBytes → EntropyScore) {password : SecureString}
    (some : 1 ≤ password.length) (bounded : password.length ≤ 4096) :
    writeBuf password = .ok (requestOf password) ∧
      (∀ state world,
        Reached (programOf evaluation init) (requestOf password) state
          world →
        ∃ consumed, WorkerStage init evaluation password world.process
          consumed ∧ consumed <+: requestOf password) ∧
      (∀ exchange : Exchange, exchange.Ready → ∀ readBuf status,
        Completes (programOf evaluation init) (requestOf password)
          exchange.polls exchange.waits readBuf status →
        (status = .exited 0 → readBuf = wireBytes (evaluation password) ∧
          evaluate exchange password = .ok (evaluation password)) ∧
        (status ≠ .exited 0 →
          ∃ error, evaluate exchange password = .error (.threw error))) ∧
      ∀ exchange : Exchange,
        (∃ readBuf,
          pollLoop (requestOf password).length exchange.polls
              ⟨0, true, []⟩ = .ok readBuf ∧
            waitLoop exchange.waits = .ok (.exited 0) ∧
            readBuf.length = 21 ∧
            evaluate exchange password = .ok (decodeResponse readBuf)) ∨
        ∃ error, evaluate exchange password = .error (.threw error) := by
  have taken : WorkerStage.Taken password := ⟨some, bounded⟩
  refine ⟨writeBuf_of_taken taken, ?_, ?_, evaluate_cases taken⟩
  · intro state world reached
    obtain ⟨consumed, stage, flow⟩ := (reached.stage taken).stage
    refine ⟨consumed, stage, ?_⟩
    apply List.IsPrefix.trans _ (List.take_prefix state.writeOffset _)
    exact ⟨_, flow⟩
  · intro exchange ready readBuf status completes
    obtain ⟨polled, waited, read, exited⟩ :=
      completes.result (EntropyWorker.writesLast_programOf evaluation init)
    rw [evaluate_of_taken taken ready, polled, waited]
    simp only [bind, Except.bind]
    cases init with
    | false =>
        have failed : status = .exited 2 := exited
        subst failed
        constructor
        · intro impossible
          cases impossible
        · intro other
          rw [if_pos (.inr other)]
          exact ⟨_, rfl⟩
    | true =>
        rw [meaning_requestOf taken] at read exited
        subst exited
        have whole : readBuf = wireBytes (evaluation password) := by
          rw [read]
          apply List.take_of_length_le
          exact Nat.le_of_eq (EntropyWorker.length_wireBytes _)
        constructor
        · intro _
          refine ⟨whole, ?_⟩
          rw [if_neg, whole, decodeResponse_wireBytes]
          · rfl
          · rw [whole, EntropyWorker.length_wireBytes]
            simp
        · intro other
          exact absurd rfl other

/-- Calls of the worker one after the other. -/
theorem works_of_calls {world last : PipeProcess.World}
    (calls : List PipeProcess.Event)
    (ran : calls.foldlM PipeProcess.World.step world = some last) :
    Works world last := by
  induction calls generalizing world with
  | nil =>
      cases ran
      exact .none
  | cons call calls inductionHypothesis =>
      obtain ⟨next, stepped, later⟩ := Option.bind_eq_some_iff.mp ran
      exact .call stepped (inductionHypothesis later)

/-- A worker that answers with a negative score and the bits of a NaN. -/
def oddAnswer : EntropyScore :=
  ⟨-7, 0x7FF8000000000001, 0xFFFFFFFFFFFFFFFF, true⟩

/-- `poll` is interrupted, the input pipe is full at first and then takes the
six bytes of the request in two writes; the response comes in two reads, after
one that would block, and the worker is not at its end yet when it is looked
for. -/
def splitExchange : Exchange where
  inputPipe := true
  outputPipe := true
  forked := true
  polls := [.interrupted, .ready (.writable .again) .quiet,
    .ready (.writable (.wrote 3)) .quiet,
    .ready (.writable (.wrote 3)) (.readable .again),
    .ready .quiet (.readable (.bytes ((wireBytes oddAnswer).take 5))),
    .ready .quiet (.readable (.bytes ((wireBytes oddAnswer).drop 5)))]
  waits := [.running, .interrupted, .reaped (.exited 0)]

/-- The worker gets the length in two reads, the first of them interrupted, and
writes its response in two pieces. -/
theorem splitExchange_completes :
    Completes (programOf (fun _ => oddAnswer) true) (requestOf [0x70, 0x77])
      splitExchange.polls splitExchange.waits (wireBytes oddAnswer)
      (.exited 0) := by
  refine @Completes.completes _ _ _ _ _ _ ⟨.exited 0, [], true, []⟩ ?_
    (.running (.interrupted (.reaped rfl)))
  refine .interrupted (.goesOn (.round .again .none .quiet) rfl (by decide) ?_)
  refine .goesOn (.round (.wrote rfl (by decide) (by decide)) .none .quiet)
    rfl (by decide) ?_
  refine .works (works_of_calls [.interrupted, .read 3] rfl) ?_
  refine .goesOn (.round (.wroteAll rfl (by decide) rfl)
    (works_of_calls [.read 1, .read 2] rfl) .again) rfl (by decide) ?_
  refine .works (works_of_calls [.write 5] rfl) ?_
  refine .goesOn (.round .quiet (works_of_calls [.interrupted, .write 16] rfl)
    (.bytes (by decide) (by decide) (by decide))) rfl (by decide) ?_
  have receives := @Receives.bytes ((wireBytes oddAnswer).take 5)
    ⟨.exited 0, [], true, (wireBytes oddAnswer).drop 5⟩ 16 (by decide)
    (by decide) (by decide)
  exact .leaves (.round .quiet .none receives) (.inr (by decide))

theorem worker_protocol_faithful_odd :
    evaluate splitExchange [0x70, 0x77] = .ok oddAnswer :=
  ((worker_protocol_faithful true (fun _ => oddAnswer) (by decide)
    (by decide)).2.2.1 _ ⟨rfl, rfl, rfl⟩ _ _ splitExchange_completes).1 rfl |>.2

end DuckPass
