/-
Module: DuckPass.Proofs.EntropyEvaluator
Purpose: Which passwords `EntropyEvaluator::evaluate` answers, if the worker is
  there and every exchange with it comes to its end, and what the answer is.
Trusted boundary: as for `DuckPass.System.EntropyPipes`.
Main exports: EntropyWorker.meaning_program, EntropyWorker.wireBytes,
  EntropyWorker.program_eq, decodeResponse_wireBytes, Answerable, Answered,
  EntropyEvaluator.evaluate_eq_ok,
  EntropyEvaluator.answered_promptExchange
-/
import Mathlib.Tactic.SplitIfs
import DuckPass.System.EntropyPipes

namespace DuckPass

open PipeProcess (Program)

/-! ## Words -/

/-- A number takes its width. -/
theorem length_littleEndian (width value : Nat) :
    (littleEndian width value).length = width := by
  simp [littleEndian]

/-- And its bytes in order. -/
theorem getD_littleEndian (value : Nat) (rest : SecureBytes)
    {width index : Nat} (inWord : index < width) :
    ((littleEndian width value ++ rest).getD index 0).toNat =
      LittleEndian.byteAt value index := by
  have bound : index < (littleEndian width value).length := by
    rw [length_littleEndian]
    exact inWord
  have small : LittleEndian.byteAt value index < UInt8.size :=
    LittleEndian.byteAt_lt value index
  rw [List.getD_append _ _ _ _ bound, List.getD_eq_getElem _ _ bound]
  simp only [littleEndian, List.getElem_map, List.getElem_range]
  exact UInt8.toNat_ofNat_of_lt' small

/-- A number depends on the bytes of its width alone. -/
theorem assemble_congr {bytes other : Nat → Nat} {width : Nat}
    (same : ∀ index < width, bytes index = other index) :
    LittleEndian.assemble bytes width = LittleEndian.assemble other width := by
  induction width with
  | zero => rfl
  | succ width inductionHypothesis =>
      rw [LittleEndian.assemble, LittleEndian.assemble,
        inductionHypothesis fun index small => same index (by omega),
        same width (Nat.lt_succ_self width)]

/-- A word is read again from where it was put. -/
theorem wordAt_littleEndian {width value : Nat} (before rest : SecureBytes)
    (fits : value < 2 ^ (8 * width)) :
    wordAt width (before ++ littleEndian width value ++ rest) before.length =
      value := by
  rw [← LittleEndian.assemble_byteAt_of_lt width fits]
  apply assemble_congr
  intro index inWord
  rw [List.append_assoc, List.getD_append_right _ _ _ _ (Nat.le_add_right _ _),
    Nat.add_sub_cancel_left, LittleEndian.assemble_byteAt_of_lt width fits]
  exact getD_littleEndian value rest inWord

/-- The length in front of a request is read back. -/
theorem wordAt_header {value : Nat} (rest : SecureBytes)
    (fits : value < 2 ^ 32) :
    wordAt 4 (littleEndian 4 value ++ rest) 0 = value :=
  wordAt_littleEndian [] rest fits

/-! ## The response -/

/-- What zxcvbn says of a C string. -/
def scoreOf (zxcvbn : Zxcvbn) (pwd : SecureBytes) : EntropyScore :=
  let entropy := zxcvbn.entropy (pwd.takeWhile (· ≠ 0))
  ⟨(UInt32.ofNat (EntropyWorker.score entropy)).toInt32, entropy,
    zxcvbn.crackTimeSeconds entropy, decide (EntropyWorker.score entropy < 3)⟩

namespace EntropyWorker

/-- `wire_buf` for any answer. -/
def wireBytes (answer : EntropyScore) : SecureBytes :=
  littleEndian 4 answer.score.toUInt32.toNat ++
    littleEndian 8 answer.entropyBits.toNat ++
    littleEndian 8 answer.crackTimeSeconds.toNat ++
    [if answer.isWeak then 1 else 0]

/-- A response has the expected size. -/
theorem length_wireBytes (answer : EntropyScore) :
    (wireBytes answer).length = EntropyEvaluator.responseSize := by
  simp [wireBytes, length_littleEndian, EntropyEvaluator.responseSize]

/-- The score fits its field. -/
theorem score_lt (entropy : DoubleBits) : score entropy < 2 ^ 32 := by
  unfold score
  split_ifs <;> decide

/-- What the worker fills in is the score on the wire. -/
theorem wireBuf_eq (zxcvbn : Zxcvbn) (pwd : SecureBytes) :
    wireBuf zxcvbn pwd = wireBytes (scoreOf zxcvbn pwd) := by
  have same : (UInt32.ofNat (score (zxcvbn.entropy
      (pwd.takeWhile (· ≠ 0))))).toInt32.toUInt32.toNat =
      score (zxcvbn.entropy (pwd.takeWhile (· ≠ 0))) := by
    rw [UInt32.toUInt32_toInt32]
    exact UInt32.toNat_ofNat_of_lt' (score_lt _)
  unfold wireBuf wireBytes scoreOf
  dsimp only
  rw [same]
  simp only [decide_eq_true_iff]

/-- It has the expected size, too. -/
theorem length_wireBuf (zxcvbn : Zxcvbn) (pwd : SecureBytes) :
    (wireBuf zxcvbn pwd).length = EntropyEvaluator.responseSize := by
  rw [wireBuf_eq, length_wireBytes]

end EntropyWorker

/-- The evaluator reads from a response the answer that was put into it,
whatever its bits are. -/
theorem decodeResponse_wireBytes (answer : EntropyScore) :
    EntropyEvaluator.decodeResponse (EntropyWorker.wireBytes answer) =
      answer := by
  obtain ⟨score, entropy, crackTime, isWeak⟩ := answer
  have first := wordAt_header (littleEndian 8 entropy.toNat ++
    littleEndian 8 crackTime.toNat ++ [if isWeak then 1 else 0])
    score.toUInt32.toNat_lt
  have second := @wordAt_littleEndian 8 _
    (littleEndian 4 score.toUInt32.toNat)
    (littleEndian 8 crackTime.toNat ++ [if isWeak then 1 else 0])
    entropy.toNat_lt
  have third := @wordAt_littleEndian 8 _
    (littleEndian 4 score.toUInt32.toNat ++ littleEndian 8 entropy.toNat)
    [if isWeak then 1 else 0] crackTime.toNat_lt
  have last : (EntropyWorker.wireBytes
      ⟨score, entropy, crackTime, isWeak⟩).getD 20 0 =
      if isWeak then 1 else 0 := by
    unfold EntropyWorker.wireBytes
    rw [List.getD_append_right] <;> simp [length_littleEndian]
  unfold EntropyWorker.wireBytes at last ⊢
  simp only [List.length_append, length_littleEndian] at second third
  simp only [List.append_assoc] at first second third last ⊢
  simp only [EntropyEvaluator.decodeResponse, first, second, third, last,
    UInt64.ofNat_toNat, UInt32.ofNat_toNat, Int32.toInt32_toUInt32]
  cases isWeak with
  | false => rfl
  | true => rfl

/-- And is decoded to the score. -/
theorem decodeResponse_wireBuf (zxcvbn : Zxcvbn) (pwd : SecureBytes) :
    EntropyEvaluator.decodeResponse (EntropyWorker.wireBuf zxcvbn pwd) =
      scoreOf zxcvbn pwd := by
  rw [EntropyWorker.wireBuf_eq, decodeResponse_wireBytes]

/-! ## The worker -/

namespace EntropyWorker

variable (evaluation : SecureBytes → EntropyScore)

/-- What follows the write of the response. -/
def afterResponse (written : Bool) : Program :=
  if written then .exit 0 else .exit 5

/-- What follows the read of the password. -/
def afterPassword : Option SecureBytes → Program
  | none => .exit 4
  | some pwd => .writeAll (wireBytes (evaluation pwd)) afterResponse

/-- What follows the read of the length. -/
def afterHeader : Option SecureBytes → Program
  | none => .exit 3
  | some header =>
      let len := wordAt 4 header 0
      if len = 0 ∨ len > maxLength then .exit 3
      else .readAll len (afterPassword evaluation)

/-- `main` with any evaluation in the place of zxcvbn. -/
def programOf (init : Bool) : Program :=
  if !init then .exit 2 else .readAll 4 (afterHeader evaluation)

/-- The worker is the one that evaluates by zxcvbn. -/
theorem program_eq (zxcvbn : Zxcvbn) :
    program zxcvbn = programOf (scoreOf zxcvbn) zxcvbn.init := by
  have bodies : ∀ len, evaluate zxcvbn len =
      .readAll len (afterPassword (scoreOf zxcvbn)) := by
    intro len
    unfold evaluate
    congr 1
    funext answer
    cases answer with
    | none => rfl
    | some pwd =>
        exact congrArg (fun bytes => Program.writeAll bytes afterResponse)
          (wireBuf_eq zxcvbn pwd)
  unfold program programOf
  split
  · rfl
  · congr 1
    funext answer
    cases answer with
    | none => rfl
    | some header =>
        dsimp only
        rw [bodies]
        rfl

/-- The worker writes its response and nothing before it has read all. -/
theorem writesLast_programOf (init : Bool) :
    (programOf evaluation init).WritesLast := by
  unfold programOf
  split
  · exact .exit
  · apply PipeProcess.Program.WritesLast.readAll
    intro answer
    cases answer with
    | none => exact .exit
    | some header =>
        unfold afterHeader
        dsimp only
        split
        · exact .exit
        · apply PipeProcess.Program.WritesLast.readAll
          intro answer
          cases answer with
          | none => exact .exit
          | some pwd =>
              exact @PipeProcess.Program.WritesLast.writeAll _ _ 0 rfl

/-- What the worker does with a request whose bytes are all there. -/
theorem meaning_programOf {pwd : SecureBytes} (fits : pwd.length < 2 ^ 32) :
    (programOf evaluation true).meaning
        (littleEndian 4 pwd.length ++ pwd) =
      if pwd.length = 0 ∨ pwd.length > maxLength then ⟨[], 3⟩
      else ⟨wireBytes (evaluation pwd), 0⟩ := by
  have header : (littleEndian 4 pwd.length ++ pwd).take 4 =
      littleEndian 4 pwd.length := List.take_left' (length_littleEndian _ _)
  have rest : (littleEndian 4 pwd.length ++ pwd).drop 4 = pwd :=
    List.drop_left' (length_littleEndian _ _)
  have there : 4 ≤ (littleEndian 4 pwd.length ++ pwd).length := by
    simp [length_littleEndian]
  have len : wordAt 4 (littleEndian 4 pwd.length) 0 = pwd.length := by
    rw [← List.append_nil (littleEndian 4 pwd.length)]
    exact wordAt_header [] fits
  simp only [programOf, Bool.not_true, Bool.false_eq_true, if_false,
    PipeProcess.Program.meaning, if_pos there, header, rest, afterHeader, len]
  split
  · rfl
  · simp [afterPassword, afterResponse, PipeProcess.Program.meaning,
      PipeProcess.Result.after]

/-- The worker reads nothing once it writes. -/
theorem writesLast (zxcvbn : Zxcvbn) : (program zxcvbn).WritesLast := by
  rw [program_eq]
  exact writesLast_programOf _ _

/-- What the worker makes of a request. -/
theorem meaning_program {zxcvbn : Zxcvbn} (init : zxcvbn.init = true)
    {pwd : SecureBytes} (fits : pwd.length < 2 ^ 32) :
    (program zxcvbn).meaning (littleEndian 4 pwd.length ++ pwd) =
      if pwd.length = 0 ∨ pwd.length > maxLength then ⟨[], 3⟩
      else ⟨wireBuf zxcvbn pwd, 0⟩ := by
  rw [program_eq, init, meaning_programOf _ fits, wireBuf_eq]

end EntropyWorker

/-! ## The evaluator -/

/-- The lengths that the evaluator handles itself and those that the worker
takes, once they are cut to 32 bits. -/
def Answerable (password : SecureString) : Prop :=
  password = [] ∨
    1 ≤ password.length % 2 ^ 32 ∧
      password.length % 2 ^ 32 ≤ EntropyWorker.maxLength

instance (password : SecureString) : Decidable (Answerable password) :=
  inferInstanceAs (Decidable (_ ∨ _ ∧ _))

/-- The pipes and the worker are there, and the worker takes the request and
exits before the deadline. -/
structure Answered (zxcvbn : Zxcvbn) (exchange : Exchange)
    (password : SecureString) : Prop where
  inputPipe : exchange.inputPipe = true
  outputPipe : exchange.outputPipe = true
  forked : exchange.forked = true
  completes : ∀ buffer, EntropyEvaluator.writeBuf password = .ok buffer →
    ∃ readBuf status, EntropyPipes.Completes (EntropyWorker.program zxcvbn)
      buffer exchange.polls exchange.waits readBuf status

/-- The pipes and the worker are there. -/
structure Exchange.Ready (exchange : Exchange) : Prop where
  inputPipe : exchange.inputPipe = true
  outputPipe : exchange.outputPipe = true
  forked : exchange.forked = true

/-- An exchange that was answered has its two processes and pipes. -/
theorem Answered.ready {zxcvbn : Zxcvbn} {exchange : Exchange}
    {password : SecureString}
    (answered : Answered zxcvbn exchange password) : exchange.Ready :=
  ⟨answered.inputPipe, answered.outputPipe, answered.forked⟩

namespace EntropyEvaluator

/-- The worker is there and answers at once. -/
def promptExchange (zxcvbn : Zxcvbn) (password : SecureString) : Exchange :=
  match writeBuf password with
  | .error _ => EntropyPipes.prompt ⟨[], 0⟩ 0
  | .ok buffer =>
      EntropyPipes.prompt ((EntropyWorker.program zxcvbn).meaning buffer)
        buffer.length

variable {zxcvbn : Zxcvbn} {exchange : Exchange} {password : SecureString}

/-- `evaluate` past its checks. -/
theorem evaluate_of_ready (some : password ≠ []) (ready : exchange.Ready) :
    evaluate exchange password = do
      let buffer ← writeBuf password
      let readBuf ← pollLoop buffer.length exchange.polls ⟨0, true, []⟩
      let status ← waitLoop exchange.waits
      if readBuf.length ≠ responseSize ∨ status ≠ .exited 0 then
        throw (runtimeError ("Entropy evaluator worker execution failed or " ++
          "returned invalid response"))
      return decodeResponse readBuf := by
  have given : password.isEmpty = false := by simpa using some
  simp only [evaluate, given, ready.inputPipe, ready.outputPipe,
    ready.forked]
  rfl

/-- The size of `write_buf` wraps around, or `write_buf` is the request. -/
theorem writeBuf_cases (password : SecureString) :
    (2 ^ 32 ≤ 4 + password.length % 2 ^ 32 ∧
        writeBuf password = .error .outOfBounds) ∨
      writeBuf password =
        .ok (littleEndian 4 (password.length % 2 ^ 32) ++
          password.take (password.length % 2 ^ 32)) := by
  by_cases wraps : (4 + password.length % 2 ^ 32) % 2 ^ 32 <
      4 + password.length % 2 ^ 32
  · exact .inl ⟨by omega, if_pos wraps⟩
  · exact .inr (if_neg wraps)

/-- What the request that is sent means to the worker. -/
theorem meaning_writeBuf (init : zxcvbn.init = true) {buffer : SecureBytes}
    (written : writeBuf password = .ok buffer) :
    (EntropyWorker.program zxcvbn).meaning buffer =
      if password.length % 2 ^ 32 = 0 ∨
          password.length % 2 ^ 32 > EntropyWorker.maxLength then ⟨[], 3⟩
      else
        ⟨EntropyWorker.wireBuf zxcvbn
          (password.take (password.length % 2 ^ 32)), 0⟩ := by
  have bound : password.length % 2 ^ 32 < 2 ^ 32 := Nat.mod_lt _ (by decide)
  have length : (password.take (password.length % 2 ^ 32)).length =
      password.length % 2 ^ 32 := by
    rw [List.length_take]
    exact Nat.min_eq_left (Nat.mod_le _ _)
  have meaning := @EntropyWorker.meaning_program _ init
    (password.take (password.length % 2 ^ 32)) (by rwa [length])
  rcases writeBuf_cases password with ⟨_, wraps⟩ | same
  · rw [wraps] at written
    cases written
  · rw [same] at written
    cases written
    simpa only [length] using meaning

/-- Every password can be sent to a worker that answers at once. -/
theorem answered_promptExchange (init : zxcvbn.init = true)
    (password : SecureString) :
    Answered zxcvbn (promptExchange zxcvbn password) password := by
  rcases writeBuf_cases password with ⟨_, wraps⟩ | sent
  · rw [promptExchange, wraps]
    refine ⟨rfl, rfl, rfl, ?_⟩
    intro buffer written
    rw [wraps] at written
    cases written
  · rw [promptExchange, sent]
    refine ⟨rfl, rfl, rfl, ?_⟩
    intro buffer written
    cases sent.symm.trans written
    refine ⟨_, _, EntropyPipes.completes_prompt rfl ?_ ?_⟩
    · intro empty
      have lengths := congrArg List.length empty
      simp [length_littleEndian] at lengths
    · rw [meaning_writeBuf init sent]
      split
      · exact .inl rfl
      · exact .inr (EntropyWorker.length_wireBuf _ _)

/-- A password that is not empty gets its answer from the worker if the length
is one that the worker takes, and an exception else. -/
theorem evaluate_nonempty (init : zxcvbn.init = true) (some : password ≠ [])
    (answered : Answered zxcvbn exchange password) :
    (1 ≤ password.length % 2 ^ 32 ∧
        password.length % 2 ^ 32 ≤ EntropyWorker.maxLength →
      evaluate exchange password =
        .ok (scoreOf zxcvbn (password.take (password.length % 2 ^ 32)))) ∧
    (¬ (1 ≤ password.length % 2 ^ 32 ∧
        password.length % 2 ^ 32 ≤ EntropyWorker.maxLength) →
      ∃ fault, evaluate exchange password = .error fault) := by
  rw [evaluate_of_ready some answered.ready]
  cases written : writeBuf password with
  | error fault =>
      refine ⟨?_, fun _ => ⟨fault, rfl⟩⟩
      intro taken
      have limit : EntropyWorker.maxLength = 4096 := rfl
      rcases writeBuf_cases password with ⟨wraps, _⟩ | same
      · omega
      · rw [same] at written
        cases written
  | ok buffer =>
      obtain ⟨readBuf, status, completes⟩ := answered.completes buffer written
      obtain ⟨polled, waited, read, exited⟩ :=
        completes.result (EntropyWorker.writesLast zxcvbn)
      rw [meaning_writeBuf init written] at read exited
      simp only [bind, Except.bind, polled, waited]
      constructor
      · intro taken
        rw [if_neg (by omega)] at read exited
        have whole : readBuf = EntropyWorker.wireBuf zxcvbn
            (password.take (password.length % 2 ^ 32)) := by
          rw [read, List.take_of_length_le]
          exact Nat.le_of_eq (EntropyWorker.length_wireBuf _ _)
        rw [if_neg, whole, decodeResponse_wireBuf]
        · rfl
        · rw [whole, exited, EntropyWorker.length_wireBuf]
          simp
      · intro refused
        rw [if_pos (by omega)] at read exited
        rw [if_pos]
        · exact ⟨_, rfl⟩
        · right
          rw [exited]
          decide

/-- Exactly the answerable passwords get an answer. -/
theorem evaluate_eq_ok (init : zxcvbn.init = true)
    (answered : Answered zxcvbn exchange password) :
    (∃ score, evaluate exchange password = .ok score) ↔
      Answerable password := by
  by_cases empty : password = []
  · subst empty
    exact iff_of_true ⟨_, rfl⟩ (.inl rfl)
  · obtain ⟨answer, refusal⟩ := evaluate_nonempty init empty answered
    constructor
    · rintro ⟨score, finished⟩
      right
      by_contra outside
      obtain ⟨fault, failed⟩ := refusal outside
      rw [failed] at finished
      cases finished
    · intro answerable
      exact ⟨_, answer (answerable.resolve_left empty)⟩

end EntropyEvaluator

end DuckPass
