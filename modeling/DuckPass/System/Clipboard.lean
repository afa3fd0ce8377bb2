/-
Module: DuckPass.System.Clipboard
Purpose: `secureCopyToClipboard` of `clipboard.ts`: its calls and the
  callbacks of its timers between their `await`s, over the two variables of
  the module and the clipboard of the system.
Trusted boundary: JavaScript runs one callback at a time; an access to the
  clipboard takes effect at some time between the call and the continuation
  of the `await`; the clipboard can be read and cleared; a timer may fire at
  any time after it was set, unless it is cleared.
Main exports: ClipboardTask, ClipboardManager,
  ClipboardManager.secureCopyToClipboard, ClipboardEvent,
  ClipboardManager.step, ClipboardManager.initial, ClipboardManager.run
-/
import DuckPass.Core.DesktopClient
import DuckPass.Lib.Run

namespace DuckPass

/-- A call of `secureCopyToClipboard` or a callback of its timer, by what it
waits for. -/
inductive ClipboardTask where
  /-- A call: `writeText(text)` is to take effect or to fail. -/
  | writing (text : Utf8String)
  /-- A call whose text is on the clipboard, or was, to go on. -/
  | written (text : Utf8String)
  /-- A call whose write has failed, to go on. -/
  | refused
  /-- A callback: `readText()` is to take effect. -/
  | reading
  /-- A callback that has read `current`, to go on. -/
  | read (current : Utf8String)
  /-- A callback: `writeText('')` is to take effect. -/
  | clearing
  /-- A callback that has cleared the clipboard, to go on. -/
  | cleared
deriving DecidableEq

/-- The variables of the module, the timers that are set, the tasks, and the
clipboard.  `copied` says that its text was last put there by
`secureCopyToClipboard`. -/
structure ClipboardManager where
  activeClearTimer : Option Nat
  lastCopiedSecret : Option Utf8String
  timers : List Nat
  created : Nat
  tasks : List ClipboardTask
  clipboard : Utf8String
  copied : Bool

namespace ClipboardManager

def start (manager : ClipboardManager) (task : ClipboardTask) :
    ClipboardManager :=
  { manager with tasks := manager.tasks ++ [task] }

def remove (manager : ClipboardManager) (index : Nat) : ClipboardManager :=
  { manager with tasks := manager.tasks.eraseIdx index }

/-- `if (activeClearTimer) { clearTimeout(activeClearTimer); … }` -/
def clearActiveTimer (manager : ClipboardManager) : ClipboardManager :=
  match manager.activeClearTimer with
  | none => manager
  | some timer =>
      { manager with
        timers := manager.timers.erase timer
        activeClearTimer := none }

/-- The call up to its `await`. -/
def secureCopyToClipboard (manager : ClipboardManager) (text : Utf8String) :
    ClipboardManager :=
  manager.clearActiveTimer.start (.writing text)

/-- The call after its `await`. -/
def setClearTimer (manager : ClipboardManager) (text : Utf8String) :
    ClipboardManager :=
  { manager with
    lastCopiedSecret := some text
    activeClearTimer := some manager.created
    timers := manager.timers ++ [manager.created]
    created := manager.created + 1 }

/-- The `finally` of the callback. -/
def finish (manager : ClipboardManager) : ClipboardManager :=
  { manager with lastCopiedSecret := none, activeClearTimer := none }

/-- The access that a task waits for takes effect. -/
def takeEffect (manager : ClipboardManager) :
    ClipboardTask → Option ClipboardManager
  | .writing text =>
      some ({ manager with clipboard := text, copied := true }.start
        (.written text))
  | .reading => some (manager.start (.read manager.clipboard))
  | .clearing =>
      some ({ manager with clipboard := emptyText, copied := false }.start
        .cleared)
  | _ => none

/-- A task goes on after its `await`, with what a call returns. -/
def resume (manager : ClipboardManager) :
    ClipboardTask → Option (ClipboardManager × Option Bool)
  | .written text => some (manager.setClearTimer text, some true)
  | .refused => some (manager, some false)
  | .read current =>
      if manager.lastCopiedSecret = some current then
        some (manager.start .clearing, none)
      else some (manager.finish, none)
  | .cleared => some (manager.finish, none)
  | _ => none

inductive ClipboardEvent where
  | copy (text : Utf8String)
  | effect (index : Nat)
  | refuse (index : Nat)
  | resume (index : Nat)
  | timer (timer : Nat)
  /-- Text is copied by other means. -/
  | copyElsewhere (text : Utf8String)

def step (manager : ClipboardManager) (event : ClipboardEvent) :
    Option (ClipboardManager × Option Bool) :=
  match event with
  | .copy text => some (manager.secureCopyToClipboard text, none)
  | .effect index =>
      match manager.tasks[index]? with
      | none => none
      | some task =>
          ((manager.remove index).takeEffect task).map fun next =>
            (next, none)
  | .refuse index =>
      match manager.tasks[index]? with
      | some (.writing _) =>
          some ((manager.remove index).start .refused, none)
      | _ => none
  | .resume index =>
      match manager.tasks[index]? with
      | none => none
      | some task => (manager.remove index).resume task
  | .timer timer =>
      if timer ∈ manager.timers then
        some ({ manager with timers := manager.timers.erase timer }.start
          .reading, none)
      else none
  | .copyElsewhere text =>
      some ({ manager with clipboard := text, copied := false }, none)

/-- Nothing has been copied yet. -/
def initial : ClipboardManager where
  activeClearTimer := none
  lastCopiedSecret := none
  timers := []
  created := 0
  tasks := []
  clipboard := emptyText
  copied := false

def run (events : List ClipboardEvent) :
    Option (ClipboardManager × List (Option Bool)) :=
  Run.run step initial events

end ClipboardManager

end DuckPass
