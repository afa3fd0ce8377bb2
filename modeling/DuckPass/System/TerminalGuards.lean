/-
Module: DuckPass.System.TerminalGuards
Purpose: The attributes of the terminal under `TerminalModeGuard` and
  `EchoOffGuard` of `terminal_utils.cpp`, one statement at a time, with
  signals that may arrive between any two.
Trusted boundary: standard input stays a terminal, which nobody else changes; a
  signal handler is not interrupted, and ends the process.
Main exports: Termios, Disposition, GuardPoint, TerminalProcess, GuardEvent,
  TerminalProcess.deliver, TerminalProcess.proceed, TerminalProcess.step
-/
import Mathlib.Logic.Basic

namespace DuckPass

/-- The attributes that are changed. -/
structure Termios where
  cLflag : UInt32
  cIflag : UInt32
  vmin : UInt8
  vtime : UInt8
deriving Repr, Inhabited, DecidableEq

namespace Termios

/-- `ECHO`, and `ECHO | ICANON | ISIG | IEXTEN`. -/
def echo : UInt32 := 0x8

def rawLflags : UInt32 := 0x800B

/-- `BRKINT | ICRNL | INPCK | ISTRIP | IXON`. -/
def rawIflags : UInt32 := 0x532

def raw (attributes : Termios) : Termios :=
  { cLflag := attributes.cLflag &&& ~~~ rawLflags
    cIflag := attributes.cIflag &&& ~~~ rawIflags
    vmin := 1
    vtime := 0 }

def echoOff (attributes : Termios) : Termios :=
  { attributes with cLflag := attributes.cLflag &&& ~~~ echo }

end Termios

inductive TerminalSignal where
  | int
  | term
deriving Repr, Inhabited, DecidableEq

/-- What is registered for a signal: nothing, `handle_signal` of the namespace,
or that of `EchoOffGuard`. -/
inductive Disposition where
  | default
  | modeHandler
  | echoHandler
deriving Repr, Inhabited, DecidableEq

/-- Which statement of a guard is the last one that has been executed. -/
inductive GuardPoint where
  /-- No guard is alive. -/
  | idle
  | rawRead
  | rawSet
  | rawActive
  | rawInt
  /-- The constructor of `TerminalModeGuard` has returned. -/
  | rawReady
  | rawRestored
  /-- `EchoOffGuard` does nothing, for `tcgetattr` has failed. -/
  | echoOn
  | echoRead
  | echoActive
  | echoSet
  | echoInt
  /-- The constructor of `EchoOffGuard` has returned. -/
  | echoReady
  | echoRestored
  | echoInactive
  | echoIntBack
  /-- A signal has ended the process. -/
  | dead
deriving Repr, Inhabited, DecidableEq

/-- The terminal, the static members of both guards, and the dispositions. -/
structure TerminalProcess where
  point : GuardPoint
  terminal : Termios
  origTermios : Termios
  isRawModeActive : Bool
  savedTermios : Termios
  active : Bool
  oldSaInt : Disposition
  oldSaTerm : Disposition
  onInt : Disposition
  onTerm : Disposition
deriving Repr, Inhabited, DecidableEq

/-- A call, the next statement, or a signal, each with whether the system call
that follows fails: `tcgetattr`, the one of the statement, and the `tcsetattr`
of the handler. -/
inductive GuardEvent where
  | readLineInteractive (fails : Bool)
  | readPassword (fails : Bool)
  | proceed (fails : Bool)
  | signal (signal : TerminalSignal) (fails : Bool)
deriving Repr, Inhabited, DecidableEq

namespace TerminalProcess

def start (attributes : Termios) : TerminalProcess :=
  ⟨.idle, attributes, default, false, default, false, .default, .default,
    .default, .default⟩

def disposition (process : TerminalProcess) : TerminalSignal → Disposition
  | .int => process.onInt
  | .term => process.onTerm

/-- `restore_terminal` up to its second statement. -/
def restoreTerminal (process : TerminalProcess) (fails : Bool) :
    TerminalProcess :=
  { process with
    terminal :=
      if process.isRawModeActive && ! fails then process.origTermios
      else process.terminal }

/-- `EchoOffGuard::restore` up to its second statement. -/
def restore (process : TerminalProcess) (fails : Bool) : TerminalProcess :=
  { process with
    terminal :=
      if process.active && ! fails then process.savedTermios
      else process.terminal }

/-- A signal and what its handler does, which is to end the process. -/
def deliver (process : TerminalProcess) (signal : TerminalSignal)
    (fails : Bool) : TerminalProcess :=
  match process.disposition signal with
  | .default => { process with point := .dead }
  | .modeHandler => { process.restoreTerminal fails with point := .dead }
  | .echoHandler => { process.restore fails with point := .dead }

/-- The first statement of the guard of a call. -/
def beginRaw (process : TerminalProcess) (fails : Bool) : TerminalProcess :=
  if fails then process
  else { process with point := .rawRead, origTermios := process.terminal }

def beginEchoOff (process : TerminalProcess) (fails : Bool) :
    TerminalProcess :=
  if fails then { process with point := .echoOn }
  else { process with point := .echoRead, savedTermios := process.terminal }

/-- The next statement.  What the calls read from the terminal comes between
the constructor and the destructor.  A `signal` or `sigaction` that fails leaves
what is registered as it is. -/
def proceed (process : TerminalProcess) (fails : Bool) :
    Option TerminalProcess :=
  match process.point with
  | .idle => none
  | .rawRead =>
      if fails then some { process with point := .idle }
      else
        some { process with
          point := .rawSet
          terminal := process.origTermios.raw }
  | .rawSet =>
      some { process with point := .rawActive, isRawModeActive := true }
  | .rawActive =>
      some { process with
        point := .rawInt
        onInt := if fails then process.onInt else .modeHandler }
  | .rawInt =>
      some { process with
        point := .rawReady
        onTerm := if fails then process.onTerm else .modeHandler }
  | .rawReady =>
      some { process.restoreTerminal fails with point := .rawRestored }
  | .rawRestored =>
      some { process with point := .idle, isRawModeActive := false }
  | .echoOn => some { process with point := .idle }
  | .echoRead => some { process with point := .echoActive, active := true }
  | .echoActive =>
      some { process with
        point := .echoSet
        terminal :=
          if fails then process.terminal else process.savedTermios.echoOff }
  | .echoSet =>
      some { process with
        point := .echoInt
        oldSaInt := if fails then process.oldSaInt else process.onInt
        onInt := if fails then process.onInt else .echoHandler }
  | .echoInt =>
      some { process with
        point := .echoReady
        oldSaTerm := if fails then process.oldSaTerm else process.onTerm
        onTerm := if fails then process.onTerm else .echoHandler }
  | .echoReady => some { process.restore fails with point := .echoRestored }
  | .echoRestored =>
      some { process with point := .echoInactive, active := false }
  | .echoInactive =>
      some { process with
        point := .echoIntBack
        onInt := if fails then process.onInt else process.oldSaInt }
  | .echoIntBack =>
      some { process with
        point := .idle
        onTerm := if fails then process.onTerm else process.oldSaTerm }
  | .dead => none

def step (process : TerminalProcess) :
    GuardEvent → Option (TerminalProcess × Unit)
  | .readLineInteractive fails =>
      if process.point = .idle then some (process.beginRaw fails, ())
      else none
  | .readPassword fails =>
      if process.point = .idle then some (process.beginEchoOff fails, ())
      else none
  | .proceed fails => (process.proceed fails).map (·, ())
  | .signal signal fails =>
      if process.point = .dead then none
      else some (process.deliver signal fails, ())

end TerminalProcess

end DuckPass
