/-
Module: DuckPass.Proofs.TerminalGuards
Purpose: The terminal has its attributes back whenever no call reads from it,
  and a signal that ends the process leaves them as they were, unless it comes
  between the statement that changes them and the one that registers a handler
  for it; as long as the calls that put them back succeed.
Trusted boundary: none
Main exports: TerminalProcess.Restores, TerminalProcess.Registers,
  TerminalProcess.Exposed, TerminalProcess.Sound, TerminalProcess.sound_step,
  TerminalProcess.handled_step, terminal_restored
-/
import DuckPass.Lib.Run
import DuckPass.System.TerminalGuards

namespace DuckPass

/-- The statements after which the attributes are those of a guard. -/
def GuardPoint.Changed : GuardPoint → Prop
  | .rawSet | .rawActive | .rawInt | .rawReady => True
  | .echoSet | .echoInt | .echoReady => True
  | _ => False

/-- The statements that register a handler, or the one that was there before. -/
def GuardPoint.BeforeRegistration (point : GuardPoint) : Prop :=
  point ∈ [rawActive, rawInt, echoSet, echoInt, echoInactive, echoIntBack]

instance (point : GuardPoint) : Decidable point.BeforeRegistration :=
  inferInstanceAs (Decidable (point ∈ _))

namespace TerminalProcess

variable {attributes : Termios} {process next : TerminalProcess}

/-! ## The conditions -/

/-- A destructor puts the attributes back. -/
def Restores (process : TerminalProcess) (event : GuardEvent) : Prop :=
  process.point = .rawReady ∨ process.point = .echoReady →
    event ≠ .proceed true

instance (process : TerminalProcess) (event : GuardEvent) :
    Decidable (process.Restores event) :=
  inferInstanceAs (Decidable (_ → _))

/-- Handlers are registered. -/
def Registers (process : TerminalProcess) (event : GuardEvent) : Prop :=
  process.point.BeforeRegistration → event ≠ .proceed true

instance (process : TerminalProcess) (event : GuardEvent) :
    Decidable (process.Registers event) :=
  inferInstanceAs (Decidable (_ → _))

/-- What is registered for the signal puts back what a guard has taken. -/
def Handles (process : TerminalProcess) (signal : TerminalSignal) : Prop :=
  match process.disposition signal with
  | .default => False
  | .modeHandler => process.isRawModeActive = true
  | .echoHandler => process.active = true

/-- The guard has changed the attributes, and what is registered for the signal
does not put them back. -/
def Exposed (process : TerminalProcess) (signal : TerminalSignal) : Prop :=
  process.point.Changed ∧ ¬ process.Handles signal

/-- The guard has changed the attributes, and the statement is yet to come that
registers its handler for the signal or sets the flag that this one looks at. -/
def Unregistered (process : TerminalProcess) : TerminalSignal → Prop
  | .int =>
      process.point = .rawSet ∨ process.point = .rawActive ∨
        process.point = .echoSet
  | .term =>
      process.point = .rawSet ∨ process.point = .rawActive ∨
        process.point = .rawInt ∨ process.point = .echoSet ∨
        process.point = .echoInt

/-! ## What holds at each statement -/

/-- The static members of the guard that is alive hold the attributes. -/
structure Backed (attributes : Termios) (process : TerminalProcess) : Prop where
  mode : process.isRawModeActive = true → process.origTermios = attributes
  echo : process.active = true → process.savedTermios = attributes

/-- Either the terminal has the attributes, or the guard that has changed them
is active, or about to be. -/
structure Sound (attributes : Termios) (process : TerminalProcess) : Prop where
  backed : Backed attributes process
  here :
    match process.point with
    | .rawRead =>
        process.terminal = attributes ∧ process.origTermios = attributes
    | .rawSet => process.origTermios = attributes
    | .rawActive | .rawInt | .rawReady => process.isRawModeActive = true
    | .echoRead =>
        process.terminal = attributes ∧ process.savedTermios = attributes
    | .echoActive => process.terminal = attributes ∧ process.active = true
    | .echoSet | .echoInt | .echoReady => process.active = true
    | .dead => True
    | _ => process.terminal = attributes

/-- Before the first call nothing is changed. -/
theorem sound_start (attributes : Termios) :
    Sound attributes (start attributes) :=
  ⟨⟨Bool.noConfusion, Bool.noConfusion⟩, rfl⟩

/-! ## One statement -/

/-- `tcgetattr` saves the attributes of the start. -/
theorem sound_beginRaw (sound : Sound attributes process)
    (idle : process.point = .idle) (fails : Bool) :
    Sound attributes (process.beginRaw fails) := by
  obtain ⟨backed, here⟩ := sound
  have same := here
  rw [idle] at same
  cases fails with
  | true => exact ⟨backed, here⟩
  | false => exact ⟨⟨fun _ => same, backed.echo⟩, same, same⟩

/-- In both guards. -/
theorem sound_beginEchoOff (sound : Sound attributes process)
    (idle : process.point = .idle) (fails : Bool) :
    Sound attributes (process.beginEchoOff fails) := by
  obtain ⟨backed, same⟩ := sound
  rw [idle] at same
  cases fails with
  | true => exact ⟨⟨backed.mode, backed.echo⟩, same⟩
  | false => exact ⟨⟨backed.mode, fun _ => same⟩, same, same⟩

/-- Every statement of the guards keeps to it, if the destructors can put the
attributes back. -/
theorem sound_proceed (sound : Sound attributes process) {fails : Bool}
    (restores : process.Restores (.proceed fails))
    (stepped : process.proceed fails = some next) :
    Sound attributes next := by
  obtain ⟨point, terminal, orig, rawMode, saved, active, oldInt, oldTerm, onInt,
    onTerm⟩ := process
  obtain ⟨⟨mode, echo⟩, here⟩ := sound
  cases point with
  | idle => cases stepped
  | rawRead =>
      cases fails with
      | true =>
          cases stepped
          exact ⟨⟨mode, echo⟩, here.1⟩
      | false =>
          cases stepped
          exact ⟨⟨mode, echo⟩, here.2⟩
  | rawSet =>
      cases stepped
      exact ⟨⟨fun _ => here, echo⟩, rfl⟩
  | rawActive =>
      cases stepped
      exact ⟨⟨mode, echo⟩, here⟩
  | rawInt =>
      cases stepped
      exact ⟨⟨mode, echo⟩, here⟩
  | rawReady =>
      cases fails with
      | true => exact absurd rfl (restores (.inl rfl))
      | false =>
          cases stepped
          exact ⟨⟨mode, echo⟩, by simp_all [restoreTerminal]⟩
  | rawRestored =>
      cases stepped
      exact ⟨⟨Bool.noConfusion, echo⟩, here⟩
  | echoOn =>
      cases stepped
      exact ⟨⟨mode, echo⟩, here⟩
  | echoRead =>
      cases stepped
      exact ⟨⟨mode, fun _ => here.2⟩, here.1, rfl⟩
  | echoActive =>
      cases stepped
      exact ⟨⟨mode, echo⟩, here.2⟩
  | echoSet =>
      cases stepped
      exact ⟨⟨mode, echo⟩, here⟩
  | echoInt =>
      cases stepped
      exact ⟨⟨mode, echo⟩, here⟩
  | echoReady =>
      cases fails with
      | true => exact absurd rfl (restores (.inr rfl))
      | false =>
          cases stepped
          exact ⟨⟨mode, echo⟩, by simp_all [restore]⟩
  | echoRestored =>
      cases stepped
      exact ⟨⟨mode, Bool.noConfusion⟩, here⟩
  | echoInactive =>
      cases stepped
      exact ⟨⟨mode, echo⟩, here⟩
  | echoIntBack =>
      cases stepped
      exact ⟨⟨mode, echo⟩, here⟩
  | dead => cases stepped

/-! ## A signal -/

/-- A signal leaves the static members alone. -/
theorem sound_deliver (sound : Sound attributes process)
    (signal : TerminalSignal) (fails : Bool) :
    Sound attributes (process.deliver signal fails) := by
  obtain ⟨⟨mode, echo⟩, _⟩ := sound
  unfold deliver
  cases process.disposition signal with
  | default => exact ⟨⟨mode, echo⟩, trivial⟩
  | modeHandler => exact ⟨⟨mode, echo⟩, trivial⟩
  | echoHandler => exact ⟨⟨mode, echo⟩, trivial⟩

/-- So every step does. -/
theorem sound_step {event : GuardEvent} {reply : Unit}
    (sound : Sound attributes process) (restores : process.Restores event)
    (stepped : process.step event = some (next, reply)) :
    Sound attributes next := by
  unfold step at stepped
  cases event with
  | readLineInteractive fails =>
      dsimp only at stepped
      split at stepped
      · next idle =>
          cases stepped
          exact sound_beginRaw sound idle fails
      · cases stepped
  | readPassword fails =>
      dsimp only at stepped
      split at stepped
      · next idle =>
          cases stepped
          exact sound_beginEchoOff sound idle fails
      · cases stepped
  | proceed fails =>
      obtain ⟨after, taken, same⟩ := Option.map_eq_some_iff.mp stepped
      cases same
      exact sound_proceed sound restores taken
  | signal signal fails =>
      dsimp only at stepped
      split at stepped
      · cases stepped
      · cases stepped
        exact sound_deliver sound signal fails

/-- Where no attribute is changed, no handler changes one. -/
theorem deliver_of_same (backed : Backed attributes process)
    (same : process.terminal = attributes) (signal : TerminalSignal)
    (fails : Bool) : (process.deliver signal fails).terminal = attributes := by
  unfold deliver
  cases process.disposition signal with
  | default => exact same
  | modeHandler =>
      unfold restoreTerminal
      dsimp only
      split
      · next on => exact backed.mode (Bool.and_eq_true_iff.mp on).1
      · exact same
  | echoHandler =>
      unfold restore
      dsimp only
      split
      · next on => exact backed.echo (Bool.and_eq_true_iff.mp on).1
      · exact same

/-- A handler of the guard that is active puts its attributes back. -/
theorem deliver_of_handles (backed : Backed attributes process)
    {signal : TerminalSignal} (handles : process.Handles signal) :
    (process.deliver signal false).terminal = attributes := by
  unfold Handles at handles
  unfold deliver
  cases registered : process.disposition signal with
  | default =>
      rw [registered] at handles
      exact handles.elim
  | modeHandler =>
      rw [registered] at handles
      dsimp only [restoreTerminal]
      rw [handles]
      exact backed.mode handles
  | echoHandler =>
      rw [registered] at handles
      dsimp only [restore]
      rw [handles]
      exact backed.echo handles

/-- A handler of a guard that is not active does nothing. -/
theorem deliver_of_not_handles {signal : TerminalSignal}
    (idle : ¬ process.Handles signal) (fails : Bool) :
    (process.deliver signal fails).terminal = process.terminal := by
  unfold Handles at idle
  unfold deliver
  cases registered : process.disposition signal with
  | default => rfl
  | modeHandler =>
      rw [registered] at idle
      dsimp only [restoreTerminal]
      rw [Bool.eq_false_iff.mpr idle]
      rfl
  | echoHandler =>
      rw [registered] at idle
      dsimp only [restore]
      rw [Bool.eq_false_iff.mpr idle]
      rfl

/-- At a statement after which the attributes are not those of a guard, they
are those of the start. -/
theorem Sound.terminal (sound : Sound attributes process)
    (alive : process.point ≠ .dead) (same : ¬ process.point.Changed) :
    process.terminal = attributes := by
  obtain ⟨_, here⟩ := sound
  cases point : process.point with
  | rawSet | rawActive | rawInt | rawReady | echoSet | echoInt | echoReady =>
      rw [point] at same
      exact absurd trivial same
  | rawRead | echoRead | echoActive =>
      rw [point] at here
      exact here.1
  | dead => exact absurd point alive
  | _ =>
      rw [point] at here
      exact here

/-- A signal that does not find the terminal exposed leaves it as it was at the
start. -/
theorem deliver_restores (sound : Sound attributes process)
    (alive : process.point ≠ .dead) {signal : TerminalSignal}
    (safe : ¬ process.Exposed signal) :
    (process.deliver signal false).terminal = attributes := by
  by_cases handles : process.Handles signal
  · exact deliver_of_handles sound.backed handles
  · have same : ¬ process.point.Changed := fun changed =>
      safe ⟨changed, handles⟩
    exact deliver_of_same sound.backed (sound.terminal alive same) signal false

/-! ## The handlers -/

/-- What the guard that is alive has registered so far. -/
def Registered (process : TerminalProcess) : Prop :=
  match process.point with
  | .rawInt => process.onInt = .modeHandler
  | .rawReady => process.onInt = .modeHandler ∧ process.onTerm = .modeHandler
  | .echoInt => process.onInt = .echoHandler
  | .echoReady => process.onInt = .echoHandler ∧ process.onTerm = .echoHandler
  | _ => True

/-- Each statement that registers a handler adds it to those there are. -/
theorem registered_proceed (registered : Registered process) {fails : Bool}
    (registers : process.Registers (.proceed fails))
    (stepped : process.proceed fails = some next) : Registered next := by
  obtain ⟨point, terminal, orig, rawMode, saved, active, oldInt, oldTerm, onInt,
    onTerm⟩ := process
  have succeeds (before : point.BeforeRegistration) : fails = false :=
    Bool.eq_false_iff.mpr fun failed =>
      registers before (congrArg GuardEvent.proceed failed)
  cases point with
  | idle | dead => cases stepped
  | rawRead =>
      cases fails with
      | true =>
          cases stepped
          trivial
      | false =>
          cases stepped
          trivial
  | rawActive | echoSet =>
      obtain rfl := succeeds (by decide)
      cases stepped
      rfl
  | rawInt | echoInt =>
      obtain rfl := succeeds (by decide)
      cases stepped
      exact ⟨registered, rfl⟩
  | _ =>
      cases stepped
      trivial

/-- No other step takes one away while its guard is alive. -/
theorem registered_step {event : GuardEvent} {reply : Unit}
    (registered : Registered process) (registers : process.Registers event)
    (stepped : process.step event = some (next, reply)) :
    Registered next := by
  unfold step at stepped
  cases event with
  | readLineInteractive fails =>
      dsimp only at stepped
      split at stepped
      · cases stepped
        cases fails with
        | true => exact registered
        | false => trivial
      · cases stepped
  | readPassword fails =>
      dsimp only at stepped
      split at stepped
      · cases stepped
        cases fails with
        | true => trivial
        | false => trivial
      · cases stepped
  | proceed fails =>
      obtain ⟨after, taken, same⟩ := Option.map_eq_some_iff.mp stepped
      cases same
      exact registered_proceed registered registers taken
  | signal signal fails =>
      dsimp only at stepped
      split at stepped
      · cases stepped
      · cases stepped
        unfold deliver
        cases process.disposition signal with
        | default => trivial
        | modeHandler => trivial
        | echoHandler => trivial

/-- The handler of a raw terminal puts it back. -/
theorem handles_of_mode (on : process.isRawModeActive = true)
    (signal : TerminalSignal)
    (registered : process.disposition signal = .modeHandler) :
    process.Handles signal := by
  rw [Handles, registered]
  exact on

/-- So does that of a terminal without echo. -/
theorem handles_of_echo (on : process.active = true) (signal : TerminalSignal)
    (registered : process.disposition signal = .echoHandler) :
    process.Handles signal := by
  rw [Handles, registered]
  exact on

/-- If handlers are registered, a signal finds the terminal exposed only before
the registration of its handler. -/
theorem unregistered_of_exposed (sound : Sound attributes process)
    (registered : Registered process) {signal : TerminalSignal}
    (exposed : process.Exposed signal) : process.Unregistered signal := by
  obtain ⟨_, here⟩ := sound
  obtain ⟨changed, unhandled⟩ := exposed
  unfold Registered at registered
  cases point : process.point with
  | rawSet => cases signal <;> simp [Unregistered, point]
  | rawActive => cases signal <;> simp [Unregistered, point]
  | echoSet => cases signal <;> simp [Unregistered, point]
  | rawInt =>
      rw [point] at here registered
      cases signal with
      | int => exact absurd (handles_of_mode here .int registered) unhandled
      | term => simp [Unregistered, point]
  | echoInt =>
      rw [point] at here registered
      cases signal with
      | int => exact absurd (handles_of_echo here .int registered) unhandled
      | term => simp [Unregistered, point]
  | rawReady =>
      rw [point] at here registered
      cases signal with
      | int => exact absurd (handles_of_mode here .int registered.1) unhandled
      | term => exact absurd (handles_of_mode here .term registered.2) unhandled
  | echoReady =>
      rw [point] at here registered
      cases signal with
      | int => exact absurd (handles_of_echo here .int registered.1) unhandled
      | term => exact absurd (handles_of_echo here .term registered.2) unhandled
  | _ =>
      rw [point] at changed
      exact changed.elim

end TerminalProcess

/-- Whichever calls a process has made, whatever has failed in them except the
`tcsetattr` of a destructor, and wherever it has got to: between two calls the
terminal has the attributes it had at the start; and a signal leaves it with
these if its handler can put them back, except where the terminal is exposed to
it, where it leaves the attributes that the guard has set.  If handlers can be
registered, it is exposed to a signal only before the handler is. -/
theorem terminal_restored {attributes : Termios} {last : TerminalProcess}
    {events : List GuardEvent} {replies : List Unit}
    (restores : Run.Along TerminalProcess.step TerminalProcess.Restores
      (.start attributes) events)
    (ran : Run.run TerminalProcess.step (.start attributes) events =
      some (last, replies)) :
    (last.point = .idle → last.terminal = attributes) ∧
      (∀ signal, last.point ≠ .dead →
        (¬ last.Exposed signal →
            (last.deliver signal false).terminal = attributes) ∧
          (last.Exposed signal → ∀ fails,
            (last.deliver signal fails).terminal = last.terminal)) ∧
      (Run.Along TerminalProcess.step TerminalProcess.Registers
          (.start attributes) events →
        ∀ signal, last.Exposed signal → last.Unregistered signal) := by
  have sound := Run.invariant TerminalProcess.sound_step
    (TerminalProcess.sound_start attributes) restores ran
  refine ⟨fun idle => ?_, fun signal alive => ⟨?_, ?_⟩, ?_⟩
  · refine sound.terminal ?_ ?_
    · rw [idle]
      exact GuardPoint.noConfusion
    · rw [idle]
      exact id
  · exact TerminalProcess.deliver_restores sound alive
  · exact fun exposed fails =>
      TerminalProcess.deliver_of_not_handles exposed.2 fails
  · intro registers signal exposed
    have registered := Run.invariant TerminalProcess.registered_step
      (show TerminalProcess.Registered (.start attributes) from trivial)
      registers ran
    exact TerminalProcess.unregistered_of_exposed sound registered exposed

namespace TerminalProcess

/-- A terminal with line editing and echo. -/
def cooked : Termios := ⟨0x8A3B, 0x500, 1, 0⟩

/-- A password is read with echo, for `tcsetattr` fails; then the constructor of
`TerminalModeGuard` comes as far as between its two registrations. -/
def halfRegistering : List GuardEvent :=
  [.readPassword false, .proceed false, .proceed true, .proceed false,
    .proceed false, .proceed false, .proceed false, .proceed false,
    .proceed false, .readLineInteractive false, .proceed false, .proceed false,
    .proceed false]

def halfRegistered : TerminalProcess :=
  Run.reached step (start cooked) halfRegistering

end TerminalProcess

theorem terminal_restored_halfRegistered :
    (TerminalProcess.halfRegistered.deliver .int false).terminal =
        TerminalProcess.cooked ∧
      (TerminalProcess.halfRegistered.deliver .term false).terminal =
        TerminalProcess.cooked.raw ∧
      TerminalProcess.halfRegistered.Unregistered .term := by
  have exposed : TerminalProcess.halfRegistered.Exposed .term :=
    ⟨trivial, id⟩
  have restores : Run.Along TerminalProcess.step TerminalProcess.Restores
      (.start TerminalProcess.cooked) TerminalProcess.halfRegistering := by
    decide
  have restored := @terminal_restored TerminalProcess.cooked
    TerminalProcess.halfRegistered _ _ restores (Run.run_reached rfl)
  refine ⟨?_, ?_, ?_⟩
  · exact (restored.2.1 .int (by decide)).1 fun exposed => exposed.2 rfl
  · exact (restored.2.1 .term (by decide)).2 exposed false
  · exact restored.2.2 (by decide) .term exposed

end DuckPass
