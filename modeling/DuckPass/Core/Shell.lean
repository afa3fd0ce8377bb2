/-
Module: DuckPass.Core.Shell
Purpose: `run_interactive_shell` of `shell_command.cpp` as a machine that takes
  one typed line at a time, and the `rekey` subcommand of `rekey_command.cpp`,
  which changes the master password outside the shell.
Trusted boundary: the primitives of `DuckPass.Core.Crypto`; what
  `generate_password` returns is given with the line; the calls that only
  decrypt stored fields, to show or to list them, succeed.
Main exports: ShellCommand, ShellCommand.parse, ShellCommand.copies, Prompt,
  Shell, TypedLine, Shell.start, Shell.step, rekeyCommand
-/
import DuckPass.Core.VaultService

namespace DuckPass

/-! ## Lines -/

/-- `std::isspace` in the C locale. -/
def isSpace (ch : UInt8) : Bool :=
  ch == 0x20 || (0x09 ≤ ch && ch ≤ 0x0D)

def trimFront (text : SecureString) : SecureString := text.dropWhile isSpace

/-- The two trimming loops of the main prompt, and `trim_secure`. -/
def trim (text : SecureString) : SecureString :=
  (trimFront (trimFront text).reverse).reverse

/-- What follows the word in a line that starts with it, without leading
spaces. -/
def argumentOf (word : String) (input : SecureString) : Option SecureString :=
  if textBytes word <+: input then
    some (trimFront (input.drop (textBytes word).length))
  else none

/-- What a line at the main prompt asks for. -/
inductive ShellCommand where
  | exit
  | clear
  | help
  | list (query : SecureString)
  | get (shown : Bool) (service : SecureString)
  | delete (service : SecureString)
  | add
  | otp (service : SecureString)
  | generate (length : SecureString)
  | edit (service : SecureString)
  | rekey
  | audit
  | unknown
deriving Repr, Inhabited, DecidableEq

/-- The dispatch on a trimmed line that is not empty, in the order of the
source. -/
def ShellCommand.parse (input : SecureString) : ShellCommand :=
  if input = textBytes "exit" then .exit
  else if input = textBytes "clear" then .clear
  else if input = textBytes "help" then .help
  else if input = textBytes "list" then .list []
  else if let some query := argumentOf "list " input then .list query
  else if let some arguments := argumentOf "get " input then
    match argumentOf "--show " arguments with
    | some service => .get true service
    | none => .get false arguments
  else if let some service := argumentOf "delete " input then .delete service
  else if input = textBytes "add" then .add
  else if let some service := argumentOf "otp " input then .otp service
  else if input = textBytes "generate" then .generate []
  else if let some length := argumentOf "generate " input then .generate length
  else if let some service := argumentOf "edit " input then .edit service
  else if let some service := argumentOf "update " input then .edit service
  else if input = textBytes "rekey" then .rekey
  else if input = textBytes "audit" then .audit
  else if (argumentOf "audit " input).isSome then .audit
  else .unknown

/-- Whether the command ends with a copy to the clipboard, which a child process
is to clear. -/
def ShellCommand.copies : ShellCommand → Bool
  | get shown _ => !shown
  | otp _ => true
  | generate _ => true
  | _ => false

/-! ## The shell -/

/-- Where the shell waits for a line, with what the running command has read so
far. -/
inductive Prompt where
  | command
  | addService
  | addUsername (service : SecureString)
  | addPassword (service username : SecureString)
  | addTotp (service username password : SecureString)
  | editUsername (service : SecureString)
  | editPassword (service newUser : SecureString)
  | editTotp (service newUser newPass : SecureString)
  | rekeyCurrent
  | rekeyNew (currPwd : SecureString)
  | rekeyAgain (currPwd newPwd1 : SecureString)
  | ended
deriving Repr, Inhabited, DecidableEq

/-- A session: the service it was started with, the directory, and the prompt
it stands at. -/
structure Shell where
  vaultService : VaultService
  files : Files
  prompt : Prompt

/-- A line that is typed at a prompt.  The other fields say how the calls go
that the shell makes before the next prompt: those of a locked section, the
clock, and `generate_password`. -/
structure TypedLine where
  text : SecureString
  env : CommitEnv
  clock : Clock
  generated : Except DuckpassError SecureString

/-- What the line has led to. -/
inductive ShellReply where
  | ignored
  | exited
  | printed
  | unknownCommand
  | serviceNotFound
  | prompted
  | emptyField
  | alreadyExists
  | passwordsDoNotMatch
  | emptyMasterPassword
  | called (result : Except DuckpassError Unit)
  | threw (error : DuckpassError)
deriving Repr, Inhabited, DecidableEq

namespace Shell

/-- `run_interactive_shell` up to its loop. -/
def start (primitives : Primitives) (faults : LoadFaults) (path : Path)
    (masterPassword : SecureString) (files : Files) (clock : Clock) :
    Except DuckpassError Shell := do
  let vaultService ← VaultService.construct primitives faults path
    masterPassword files clock
  pure ⟨vaultService, files, .command⟩

/-- Go on to another prompt. -/
def ask (shell : Shell) (prompt : Prompt) : Shell × ShellReply :=
  ({ shell with prompt := prompt }, .prompted)

/-- Print something and wait at the same prompt. -/
def say (shell : Shell) (reply : ShellReply) : Shell × ShellReply :=
  (shell, reply)

/-- Go back to the main prompt with nothing done. -/
def cancel (shell : Shell) (reply : ShellReply) : Shell × ShellReply :=
  ({ shell with prompt := .command }, reply)

/-- A writing call of the vault service.  Its exception is caught and
printed. -/
def call (primitives : Primitives) (shell : Shell) (line : TypedLine)
    (request : Request) : Shell × ShellReply :=
  let outcome := request.execute primitives line.env line.clock
    shell.vaultService (.start shell.files)
  (⟨outcome.self, outcome.storage.files, .command⟩, .called outcome.result)

/-- The end of the loop, by `exit` or by an exception that nothing catches. -/
def finish (shell : Shell) (reply : ShellReply) : Shell × ShellReply :=
  ({ shell with prompt := .ended }, reply)

/-- A line at the main prompt.  The commands that only read and print change
neither the instance nor the directory. -/
def runCommand (primitives : Primitives) (shell : Shell) (line : TypedLine) :
    Shell × ShellReply :=
  if (trim line.text).isEmpty then shell.say .ignored
  else
    match ShellCommand.parse (trim line.text) with
    | .exit => shell.finish .exited
    | .delete service => shell.call primitives line (.deleteEntry service)
    | .add => shell.ask .addService
    | .edit service =>
        match shell.vaultService.getEntry service with
        | none => shell.say .serviceNotFound
        | some _ => shell.ask (.editUsername service)
    | .rekey => shell.ask .rekeyCurrent
    | .unknown => shell.say .unknownCommand
    | .clear => shell.say .printed
    | .help => shell.say .printed
    | .list _ => shell.say .printed
    | .get _ _ => shell.say .printed
    | .otp _ => shell.say .printed
    | .generate _ => shell.say .printed
    | .audit => shell.say .printed

/-- The validation loop for the service name of `add`. -/
def readService (shell : Shell) (text : SecureString) : Shell × ShellReply :=
  if (trim text).isEmpty then shell.say .emptyField
  else if (shell.vaultService.getEntry (trim text)).isSome then
    shell.say .alreadyExists
  else shell.ask (.addUsername (trim text))

/-- The validation loops for the user name and the password of `add`. -/
def readField (shell : Shell) (field : SecureString)
    (next : SecureString → Prompt) : Shell × ShellReply :=
  if field.isEmpty then shell.say .emptyField else shell.ask (next field)

/-- An empty line keeps the current value. -/
def optionalField (field : SecureString) : Option SecureString :=
  if field.isEmpty then none else some field

/-- The last line of `edit`: `g` as the password stands for a generated one,
which is made outside the `try`. -/
def finishEdit (primitives : Primitives) (shell : Shell) (line : TypedLine)
    (service newUser newPass : SecureString) : Shell × ShellReply :=
  let update := fun optPass =>
    shell.call primitives line (.updateEntry service (optionalField newUser)
      optPass (optionalField (trim line.text)))
  if newPass = textBytes "g" then
    match line.generated with
    | .error error => shell.finish (.threw error)
    | .ok genPw => update (some genPw)
  else update (optionalField newPass)

/-- The last line of `rekey`.  `curr_pwd` was read and is not looked at. -/
def finishRekey (primitives : Primitives) (shell : Shell) (line : TypedLine)
    (newPwd1 : SecureString) : Shell × ShellReply :=
  if newPwd1 ≠ line.text then shell.cancel .passwordsDoNotMatch
  else if newPwd1.isEmpty then shell.cancel .emptyMasterPassword
  else shell.call primitives line (.rekey newPwd1)

/-- One typed line, unless the loop has ended. -/
def step (primitives : Primitives) (shell : Shell) (line : TypedLine) :
    Option (Shell × ShellReply) :=
  match shell.prompt with
  | .command => some (shell.runCommand primitives line)
  | .addService => some (shell.readService line.text)
  | .addUsername service =>
      some (shell.readField (trim line.text) (.addPassword service))
  | .addPassword service username =>
      some (shell.readField line.text (.addTotp service username))
  | .addTotp service username password =>
      some (shell.call primitives line
        (.addEntry service username password (trim line.text)))
  | .editUsername service =>
      some (shell.ask (.editPassword service (trim line.text)))
  | .editPassword service newUser =>
      some (shell.ask (.editTotp service newUser line.text))
  | .editTotp service newUser newPass =>
      some (shell.finishEdit primitives line service newUser newPass)
  | .rekeyCurrent => some (shell.ask (.rekeyNew line.text))
  | .rekeyNew currPwd => some (shell.ask (.rekeyAgain currPwd line.text))
  | .rekeyAgain _ newPwd1 => some (shell.finishRekey primitives line newPwd1)
  | .ended => none

end Shell

/-! ## The `rekey` subcommand -/

/-- The callback of `rekey_command.cpp` on a vault file that is there: the
service is constructed with the password that was typed as the current one. -/
def rekeyCommand (primitives : Primitives) (faults : LoadFaults)
    (env : CommitEnv) (path : Path) (oldPwd newPwd1 newPwd2 : SecureString)
    (clock : Clock) (files : Files) : Except DuckpassError Unit × Files :=
  match VaultService.construct primitives faults path oldPwd files clock with
  | .error error => (.error error, files)
  | .ok vaultService =>
      if newPwd1 ≠ newPwd2 then (.ok (), files)
      else
        let outcome := vaultService.rekey primitives env clock newPwd1
          (.start files)
        (outcome.result, outcome.storage.files)

end DuckPass
