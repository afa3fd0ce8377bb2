/-
Module: DuckPass.Core.TerminalShell
Purpose: `run_interactive_shell` on a terminal: which reader each prompt calls,
  and the loop over what they return.
Trusted boundary: as for `DuckPass.Core.ShellInput` and
  `DuckPass.Core.LineEditor`.
Main exports: LineReader, Prompt.reader, LineReader.read, TerminalEvents,
  runTerminalLoop, runTerminalShell
-/
import DuckPass.Core.LineEditor

namespace DuckPass

/-- A call of `read_line_interactive` or of `read_password`. -/
inductive LineReader where
  | shown (request : LineRequest)
  | hidden (prompt : SecureBytes)
deriving Repr, Inhabited, DecidableEq

/-- The line, and the input that waits after the call.  What waits before it is
for `read_password` alone. -/
def LineReader.read (reader : LineReader) (waiting : SecureBytes)
    (call : TerminalCall) : Except DuckpassError (SecureString × SecureBytes) :=
  match reader with
  | .shown request =>
      (request.call call).map fun read => (read.1.editor.buffer, read.2)
  | .hidden prompt =>
      .ok (readPassword prompt (waiting ++ call.ahead ++ call.keys)).1

/-- A prompt without completions. -/
def LineReader.plain (prompt : String) : LineReader :=
  .shown ⟨textBytes prompt, [], []⟩

/-- The call that is made at a prompt, with the services that
`refresh_services` has found last. -/
def Prompt.reader (services : List SecureString) : Prompt → LineReader
  | .command => .shown (mainPrompt services)
  | .addService => .plain "Service: "
  | .addUsername _ => .plain "Username: "
  | .addPassword _ _ => .hidden (textBytes "Password: ")
  | .addTotp _ _ _ =>
      .plain "2FA Secret (Base32, optional - press ENTER to skip): "
  | .editUsername _ => .plain "New username: "
  | .editPassword _ _ => .hidden (textBytes "New password: ")
  | .editTotp _ _ _ => .plain "New 2FA Secret (Base32, optional): "
  | .rekeyCurrent => .hidden (textBytes "Enter CURRENT Master Password: ")
  | .rekeyNew _ => .hidden (textBytes "Enter NEW Master Password: ")
  | .rekeyAgain _ _ => .hidden (textBytes "Re-enter NEW Master Password: ")
  | .ended => .shown (mainPrompt services)

/-- How the calls go that read the first line, the second, and so on, and which
services `refresh_services` has found before. -/
structure TerminalEvents where
  call : Nat → TerminalCall
  services : Nat → List SecureString

/-- A session with the input that waits and the lines it has read. -/
structure TerminalSession where
  shell : Shell
  waiting : SecureBytes
  count : Nat

/-- The loops of `run_interactive_shell` on a terminal.  No `try` is around a
call that reads a line. -/
def runTerminalLoop (primitives : Primitives) (surroundings : Surroundings)
    (events : TerminalEvents) : (rounds : Nat) → TerminalSession → ShellEnd
  | 0, _ => .running
  | rounds + 1, session =>
      let reader := session.shell.prompt.reader (events.services session.count)
      match reader.read session.waiting (events.call session.count) with
      | .error error => .threw error
      | .ok (line, waiting) =>
          match session.shell.step primitives
              (surroundings.line session.count line) with
          | none => .running
          | some (_, .exited) => .returned
          | some (_, .threw error) => .threw error
          | some (shell, _) =>
              runTerminalLoop primitives surroundings events rounds
                ⟨shell, waiting, session.count + 1⟩

/-- `run_interactive_shell` on a terminal. -/
def runTerminalShell (primitives : Primitives) (faults : LoadFaults)
    (path : Path) (masterPassword : SecureString) (files : Files)
    (clock : Clock) (surroundings : Surroundings) (events : TerminalEvents)
    (rounds : Nat) : ShellEnd :=
  match Shell.start primitives faults path masterPassword files clock with
  | .error _ => .returned
  | .ok shell =>
      runTerminalLoop primitives surroundings events rounds ⟨shell, [], 0⟩

end DuckPass
