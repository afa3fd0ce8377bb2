/-
Module: DuckPass.Core.LineEditor
Purpose: `read_line_interactive` of `terminal_utils.cpp` on a terminal: the
  loop over the bytes of the keys, the completion on TAB, what is written to
  the terminal on the way, and what its guard throws and discards; and
  `read_password` there.
Trusted boundary: `std::iscntrl` is that of the C locale; standard input stays
  a terminal; how the calls on it go is given beforehand, and the keys are the
  bytes that `read` returns, which for `read_password` come from the terminal's
  own line editing.
Main exports: LineRequest, Completion, LineRequest.completionOf,
  Completion.found, LineRequest.complete, LineEditor, LineEditor.step,
  LineEditor.editLine, LineRequest.readLineInteractive, TerminalCall,
  LineRequest.call, readPassword, mainPrompt
-/
import DuckPass.Core.ShellInput

namespace DuckPass

/-- The arguments of a call. -/
structure LineRequest where
  prompt : SecureBytes
  commands : List SecureString
  services : List SecureString
deriving Repr, Inhabited, DecidableEq

/-! ## Completion -/

/-- What stays of the input, what is completed, and by what. -/
structure Completion where
  baseInput : SecureBytes
  prefixToMatch : SecureBytes
  currentCandidates : List SecureString
deriving Repr, Inhabited, DecidableEq

def isBlank (c : UInt8) : Bool := c == 0x20

/-- The word before the first space. -/
def commandWord (buffer : SecureBytes) : SecureBytes :=
  buffer.takeWhile (! isBlank ·)

/-- The input from the first space on. -/
def afterCommand (buffer : SecureBytes) : SecureBytes :=
  buffer.dropWhile (! isBlank ·)

/-- The input from `arg_start` on, empty where `find_first_not_of` finds
nothing. -/
def argumentPart (buffer : SecureBytes) : SecureBytes :=
  (afterCommand buffer).dropWhile isBlank

/-- The input before `arg_start`. -/
def beforeArgument (buffer : SecureBytes) : SecureBytes :=
  commandWord buffer ++ (afterCommand buffer).takeWhile isBlank

/-- "Analyze context to decide whether to complete commands or services". -/
def LineRequest.completionOf (request : LineRequest) (buffer : SecureString) :
    Option Completion :=
  if (afterCommand buffer).isEmpty then some ⟨[], buffer, request.commands⟩
  else if commandWord buffer = textBytes "get" ∨
      commandWord buffer = textBytes "delete" then
    if (argumentPart buffer).isEmpty then
      some ⟨buffer, [], request.services⟩
    else
      some ⟨beforeArgument buffer, argumentPart buffer, request.services⟩
  else none

/-- "Perform prefix matching against candidates". -/
def Completion.found (completion : Completion) : List SecureString :=
  completion.currentCandidates.filter fun s =>
    completion.prefixToMatch.length ≤ s.length &&
      s.take completion.prefixToMatch.length == completion.prefixToMatch

/-- "Render completion results": the buffer that TAB leaves, and what it
writes. -/
def LineRequest.complete (request : LineRequest) (buffer : SecureString) :
    SecureString × SecureBytes :=
  match request.completionOf buffer with
  | none => (buffer, [])
  | some completion =>
      match completion.found with
      | [] => (buffer, [])
      | [only] =>
          (completion.baseInput ++ only,
            [0x0D, 0x1B, 0x5B, 0x4B] ++ (request.prompt ++
              (completion.baseInput ++ only)))
      | several =>
          (buffer,
            [0x0D, 0x0A] ++ (several.flatMap (· ++ [0x20, 0x20]) ++
              ([0x0D, 0x0A] ++ (request.prompt ++ buffer))))

/-! ## Keys -/

/-- `std::iscntrl`. -/
def isControl (c : UInt8) : Bool := c < 0x20 || c == 0x7F

/-- Which `read` the loop waits in, or that it has ended. -/
inductive Reading where
  | key
  | escape
  | escapeLast
  | returned
deriving Repr, Inhabited, DecidableEq

structure LineEditor where
  buffer : SecureString
  reading : Reading
deriving Repr, Inhabited, DecidableEq

namespace LineEditor

/-- The body of the loop, for the byte that starts a round. -/
def key (request : LineRequest) (buffer : SecureString) (c : UInt8) :
    LineEditor × SecureBytes :=
  if c = 0x0D ∨ c = 0x0A then (⟨buffer, .returned⟩, [0x0D, 0x0A])
  else if c = 0x09 then
    (⟨(request.complete buffer).1, .key⟩, (request.complete buffer).2)
  else if c = 0x7F ∨ c = 0x08 then
    if buffer.isEmpty then (⟨buffer, .key⟩, [])
    else (⟨buffer.dropLast, .key⟩, [0x08, 0x20, 0x08])
  else if c = 0x1B then (⟨buffer, .escape⟩, [])
  else if isControl c then (⟨buffer, .key⟩, [])
  else (⟨buffer ++ [c], .key⟩, [c])

/-- One byte that `read` returns, and what is written before the next
`read`. -/
def step (request : LineRequest) (editor : LineEditor) (c : UInt8) :
    Option (LineEditor × SecureBytes) :=
  match editor.reading with
  | .key => some (key request editor.buffer c)
  | .escape => some (⟨editor.buffer, .escapeLast⟩, [])
  | .escapeLast => some (⟨editor.buffer, .key⟩, [])
  | .returned => none

/-- How the loop has ended, or how far it is when no more bytes have come:
what it has written, and the bytes after those it has read. -/
structure Edited where
  editor : LineEditor
  output : SecureBytes
  rest : SecureBytes
deriving Repr, Inhabited, DecidableEq

def editLine (request : LineRequest) (editor : LineEditor) :
    (input : SecureBytes) → Edited
  | [] => ⟨editor, [], []⟩
  | c :: input =>
      match editor.step request c with
      | none => ⟨editor, [], c :: input⟩
      | some (next, written) =>
          let edited := next.editLine request input
          { edited with output := written ++ edited.output }

end LineEditor

/-- `read_line_interactive` on a terminal that its guard has set;
`editor.buffer` is the line. -/
def LineRequest.readLineInteractive (request : LineRequest)
    (input : SecureBytes) : LineEditor.Edited :=
  let edited := LineEditor.editLine request ⟨[], .key⟩ input
  { edited with output := request.prompt ++ edited.output }

/-! ## The guard -/

/-- What a call meets on a terminal: what has been typed since the last one,
what comes before it returns, and which of `tcgetattr` and of the two
`tcsetattr` of `TerminalModeGuard` succeed. -/
structure TerminalCall where
  ahead : SecureBytes
  keys : SecureBytes
  attributesRead : Bool
  rawSet : Bool
  restored : Bool
deriving Repr, Inhabited, DecidableEq

/-- What the constructor of `TerminalModeGuard` throws. -/
def TerminalCall.thrown (call : TerminalCall) : Option DuckpassError :=
  if ! call.attributesRead then
    some (.runtimeError "Failed to get terminal attributes.")
  else if ! call.rawSet then
    some (.runtimeError "Failed to set terminal to raw mode.")
  else none

/-- `read_line_interactive` on a terminal, with the input that waits after it.
Each `tcsetattr` of the guard is one with `TCSAFLUSH`: it discards what has come
and has not been read. -/
def LineRequest.call (request : LineRequest) (call : TerminalCall) :
    Except DuckpassError (LineEditor.Edited × SecureBytes) :=
  match call.thrown with
  | some error => .error error
  | none =>
      let edited := request.readLineInteractive call.keys
      .ok (edited, if call.restored then [] else edited.rest)

/-- The loop of `read_password` on a terminal, which writes nothing: the
password, and the input that is left. -/
def readPasswordFrom (securePassword : SecureString) :
    (input : SecureBytes) → SecureString × SecureBytes
  | [] => (securePassword, [])
  | c :: input =>
      if endsLine c then (securePassword, input)
      else if c = 0x08 ∨ c = 0x7F then
        readPasswordFrom securePassword.dropLast input
      else readPasswordFrom (securePassword ++ [c]) input

/-- `read_password` on a terminal, with what it writes.  `EchoOffGuard` throws
nothing and discards nothing. -/
def readPassword (prompt input : SecureBytes) :
    (SecureString × SecureBytes) × SecureBytes :=
  (readPasswordFrom [] input, prompt ++ [0x0A])

/-! ## The prompt of the shell -/

def baseCmds : List SecureString :=
  ["add", "get", "delete", "list", "otp", "generate", "edit", "update",
    "rekey", "audit", "exit", "help", "clear"].map textBytes

/-- The call at the top of the loop of `run_interactive_shell`, with the
services that `refresh_services` has found last. -/
def mainPrompt (services : List SecureString) : LineRequest :=
  ⟨textBytes "duckpass> ", baseCmds, services⟩

end DuckPass
