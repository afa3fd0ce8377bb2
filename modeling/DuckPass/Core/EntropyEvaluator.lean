/-
Module: DuckPass.Core.EntropyEvaluator
Purpose: The worker program of `entropy_worker_main.cpp`, and
  `EntropyEvaluator::evaluate` of `entropy_evaluator.cpp`, which runs it for
  one password over two pipes.
Trusted boundary: zxcvbn and `std::pow` are parameters; a `double` is its bits;
  the system calls of `evaluate` are the answers listed in an `Exchange`; the
  machine is little-endian.
Main exports: Zxcvbn, EntropyWorker.program, EntropyScore, AuditFault,
  Exchange, EntropyEvaluator.writeBuf, EntropyEvaluator.evaluate
-/
import DuckPass.Core.Types
import DuckPass.Lib.LittleEndian
import DuckPass.Lib.PipeProcess

namespace DuckPass

/-! ## Numbers on the wire -/

/-- The bits of a `double`. -/
abbrev DoubleBits := UInt64

namespace DoubleBits

/-- Neither a number nor an infinity. -/
def isNan (bits : DoubleBits) : Bool :=
  bits &&& 0x7FFFFFFFFFFFFFFF > 0x7FF0000000000000

/-- A number in the order of the reals; both zeros are 0. -/
def rank (bits : DoubleBits) : Int :=
  if bits < 0x8000000000000000 then bits.toNat
  else -((bits &&& 0x7FFFFFFFFFFFFFFF).toNat : Int)

/-- `<` on `double`. -/
def less (left right : DoubleBits) : Bool :=
  !left.isNan && !right.isNan && decide (left.rank < right.rank)

end DoubleBits

/-- The bytes of a word, least significant first. -/
def littleEndian (width value : Nat) : SecureBytes :=
  (List.range width).map fun index =>
    UInt8.ofNat (LittleEndian.byteAt value index)

/-- The word that the bytes from `offset` on make. -/
def wordAt (width : Nat) (bytes : SecureBytes) (offset : Nat) : Nat :=
  LittleEndian.assemble (fun index => (bytes.getD (offset + index) 0).toNat)
    width

/-! ## The worker -/

/-- `ZxcvbnInit` on the dictionary, `ZxcvbnMatch` on a C string, and the crack
time computed from its answer. -/
structure Zxcvbn where
  init : Bool
  entropy : (pwd : SecureBytes) → DoubleBits
  crackTimeSeconds : (entropy : DoubleBits) → DoubleBits

namespace EntropyWorker

/-- Step 6 of `main`: the thresholds 10, 20, 27 and 33. -/
def score (entropy : DoubleBits) : Nat :=
  if entropy.less 0x4024000000000000 then 0
  else if entropy.less 0x4034000000000000 then 1
  else if entropy.less 0x403B000000000000 then 2
  else if entropy.less 0x4040800000000000 then 3
  else 4

/-- `wire_buf` for a password; the C string ends at the first NUL. -/
def wireBuf (zxcvbn : Zxcvbn) (pwd : SecureBytes) : SecureBytes :=
  let entropy := zxcvbn.entropy (pwd.takeWhile (· ≠ 0))
  let isWeak : UInt8 := if score entropy < 3 then 1 else 0
  littleEndian 4 (score entropy) ++ littleEndian 8 entropy.toNat ++
    littleEndian 8 (zxcvbn.crackTimeSeconds entropy).toNat ++ [isWeak]

def maxLength : Nat := 4096

/-- Steps 4 to 8 of `main`. -/
def evaluate (zxcvbn : Zxcvbn) (len : Nat) : PipeProcess.Program :=
  .readAll len fun answer =>
    match answer with
    | none => .exit 4
    | some pwd =>
        .writeAll (wireBuf zxcvbn pwd) fun written =>
          if written then .exit 0 else .exit 5

/-- `main`. -/
def program (zxcvbn : Zxcvbn) : PipeProcess.Program :=
  if !zxcvbn.init then .exit 2
  else
    .readAll 4 fun answer =>
      match answer with
      | none => .exit 3
      | some header =>
          let len := wordAt 4 header 0
          if len = 0 ∨ len > maxLength then .exit 3 else evaluate zxcvbn len

end EntropyWorker

/-! ## The evaluator -/

structure EntropyScore where
  score : Int32
  entropyBits : DoubleBits
  crackTimeSeconds : DoubleBits
  isWeak : Bool
deriving Repr, Inhabited, DecidableEq

/-- Why a call of the audit does not return: it throws, or it writes outside of
a buffer. -/
inductive AuditFault where
  | threw (error : DuckpassError)
  | outOfBounds
deriving Repr, Inhabited, DecidableEq

/-- How `write` on the input pipe goes: so many bytes, `EINTR` or `EAGAIN`, or
another error. -/
inductive WriteAnswer where
  | wrote (count : Nat)
  | again
  | failed
deriving Repr, Inhabited, DecidableEq

/-- What `poll` reports for the input pipe, and how the call that follows
goes. -/
inductive InputEvents where
  | quiet
  | writable (answer : WriteAnswer)
  | hungUp
deriving Repr, Inhabited, DecidableEq

/-- How `read` on the output pipe goes. -/
inductive ReadAnswer where
  | bytes (chunk : SecureBytes)
  | ended
  | again
  | failed
deriving Repr, Inhabited, DecidableEq

inductive OutputEvents where
  | quiet
  | readable (answer : ReadAnswer)
deriving Repr, Inhabited, DecidableEq

/-- How one `poll` goes. -/
inductive PollAnswer where
  | timedOut
  | interrupted
  | failed
  | ready (input : InputEvents) (output : OutputEvents)
deriving Repr, Inhabited, DecidableEq

/-- What `waitpid` reports of a child that has ended. -/
inductive WaitStatus where
  | exited (code : UInt8)
  | signaled
deriving Repr, Inhabited, DecidableEq

/-- How one `waitpid` with `WNOHANG` goes. -/
inductive WaitAnswer where
  | running
  | interrupted
  | failed
  | reaped (status : WaitStatus)
deriving Repr, Inhabited, DecidableEq

/-- How the system calls of one evaluation go.  The lists end with the
deadline. -/
structure Exchange where
  inputPipe : Bool
  outputPipe : Bool
  forked : Bool
  polls : List PollAnswer
  waits : List WaitAnswer

namespace EntropyEvaluator

def runtimeError (message : String) : AuditFault :=
  .threw (.runtimeError message)

/-- `write_buf`.  Its size is the sum of an `int` and a `uint32_t`, which wraps
around; the bytes do not fit then. -/
def writeBuf (password : SecureString) : Except AuditFault SecureBytes :=
  let pwdLen := password.length % 2 ^ 32
  if (4 + pwdLen) % 2 ^ 32 < 4 + pwdLen then .error .outOfBounds
  else .ok (littleEndian 4 pwdLen ++ password.take pwdLen)

/-- The state of the loop: the bytes written, whether the input pipe is still
open, and the bytes read. -/
structure PollState where
  writeOffset : Nat
  inputOpen : Bool
  readBuf : SecureBytes
deriving Repr, Inhabited, DecidableEq

def responseSize : Nat := 21

/-- The part of a round that writes; `size` is the size of `write_buf`. -/
def PollState.write (state : PollState) (size : Nat) :
    InputEvents → PollState
  | .quiet => state
  | .writable (.wrote count) =>
      if count > 0 then
        { state with
          writeOffset := state.writeOffset + count
          inputOpen := decide (state.writeOffset + count < size) }
      else state
  | .writable .again => state
  | .writable .failed => { state with inputOpen := false }
  | .hungUp => { state with inputOpen := false }

/-- The part of a round that reads, and whether it leaves the loop. -/
def PollState.read (state : PollState) : OutputEvents → PollState × Bool
  | .quiet => (state, false)
  | .readable (.bytes chunk) =>
      ({ state with readBuf := state.readBuf ++ chunk }, false)
  | .readable .ended => (state, true)
  | .readable .again => (state, false)
  | .readable .failed => (state, true)

/-- A round in which `poll` reports events. -/
def PollState.round (state : PollState) (size : Nat) (input : InputEvents)
    (output : OutputEvents) : PollState × Bool :=
  (if state.inputOpen then state.write size input else state).read output

def timedOut : AuditFault :=
  runtimeError
    "Entropy evaluator worker execution timed out (overall 5s deadline)"

/-- The loop; it answers the bytes read. -/
def pollLoop (size : Nat) : List PollAnswer → PollState →
    Except AuditFault SecureBytes
  | [], state =>
      if state.readBuf.length < responseSize then .error timedOut
      else .ok state.readBuf
  | answer :: answers, state =>
      if state.readBuf.length < responseSize then
        match answer with
        | .timedOut => .error timedOut
        | .interrupted => pollLoop size answers state
        | .failed =>
            .error (runtimeError "poll() failed on entropy worker pipes")
        | .ready input output =>
            if (state.round size input output).2 then
              .ok (state.round size input output).1.readBuf
            else pollLoop size answers (state.round size input output).1
      else .ok state.readBuf

/-- The loop over `waitpid`. -/
def waitLoop : List WaitAnswer → Except AuditFault WaitStatus
  | .reaped status :: _ => .ok status
  | .running :: answers => waitLoop answers
  | .interrupted :: answers => waitLoop answers
  | _ =>
      .error (runtimeError ("Entropy evaluator worker execution timed out " ++
        "waiting for process termination"))

/-- The score that a response carries. -/
def decodeResponse (readBuf : SecureBytes) : EntropyScore where
  score := (UInt32.ofNat (wordAt 4 readBuf 0)).toInt32
  entropyBits := UInt64.ofNat (wordAt 8 readBuf 4)
  crackTimeSeconds := UInt64.ofNat (wordAt 8 readBuf 12)
  isWeak := readBuf.getD 20 0 ≠ 0

/-- `evaluate`. -/
def evaluate (exchange : Exchange) (password : SecureString) :
    Except AuditFault EntropyScore := do
  if password.isEmpty then
    return ⟨0, 0, 0, true⟩
  if !exchange.inputPipe then
    throw (runtimeError "Failed to create input pipe for entropy worker")
  if !exchange.outputPipe then
    throw (runtimeError "Failed to create output pipe for entropy worker")
  if !exchange.forked then
    throw (runtimeError "Failed to fork entropy evaluator worker process")
  let buffer ← writeBuf password
  let readBuf ← pollLoop buffer.length exchange.polls ⟨0, true, []⟩
  let status ← waitLoop exchange.waits
  if readBuf.length ≠ responseSize ∨ status ≠ .exited 0 then
    throw (runtimeError ("Entropy evaluator worker execution failed or " ++
      "returned invalid response"))
  return decodeResponse readBuf

end EntropyEvaluator

end DuckPass
