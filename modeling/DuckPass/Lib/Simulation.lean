/-
Module: DuckPass.Lib.Simulation
Purpose: Traces of a labelled transition relation, and the rule that carries a
  simulation of single steps over to whole runs with their answers.
Trusted boundary: none
Main exports: Simulation.Trace, Simulation.Trace.append,
  Simulation.Trace.invariant, Simulation.Trace.forall_labels,
  Simulation.Matches, Simulation.run,
  Simulation.run_zip
-/
import DuckPass.Lib.Run

namespace Simulation

variable {τ δ : Type} {step : τ → δ → τ → Prop}

/-- A finite sequence of steps with their labels. -/
inductive Trace (step : τ → δ → τ → Prop) : τ → List δ → τ → Prop where
  | nil (state : τ) : Trace step state [] state
  | cons {first middle last : τ} {label : δ} {labels : List δ}
      (now : step first label middle) (later : Trace step middle labels last) :
      Trace step first (label :: labels) last

namespace Trace

variable {first middle last : τ} {labels before after : List δ}

theorem append (one : Trace step first before middle)
    (two : Trace step middle after last) :
    Trace step first (before ++ after) last := by
  induction one with
  | nil => exact two
  | cons now _ inductionHypothesis => exact .cons now (inductionHypothesis two)

/-- A trace over two lists of labels passes through a state between them. -/
theorem split (trace : Trace step first (before ++ after) last) :
    ∃ middle, Trace step first before middle ∧
      Trace step middle after last := by
  induction before generalizing first with
  | nil => exact ⟨first, .nil first, trace⟩
  | cons label labels inductionHypothesis =>
      cases trace with
      | cons now later =>
          obtain ⟨middle, one, two⟩ := inductionHypothesis later
          exact ⟨middle, .cons now one, two⟩

/-- What every step with an admitted label preserves, a trace of such labels
preserves. -/
theorem invariant {Inv : τ → Prop} {admitted : δ → Prop}
    (preserved : ∀ {state next : τ} {label : δ}, Inv state → admitted label →
      step state label next → Inv next)
    (holds : Inv first) (all : ∀ label ∈ labels, admitted label)
    (trace : Trace step first labels last) : Inv last := by
  induction trace with
  | nil => exact holds
  | cons now _ inductionHypothesis =>
      exact inductionHypothesis
        (preserved holds (all _ List.mem_cons_self) now)
        fun label member => all label (List.mem_cons_of_mem _ member)

/-- What an invariant says of the labels of single steps holds of all labels
of a trace. -/
theorem forall_labels {Inv : τ → Prop} {admitted shown : δ → Prop}
    (preserved : ∀ {state next : τ} {label : δ}, Inv state → admitted label →
      step state label next → Inv next)
    (shows : ∀ {state next : τ} {label : δ}, Inv state → admitted label →
      step state label next → shown label)
    (holds : Inv first) (all : ∀ label ∈ labels, admitted label)
    (trace : Trace step first labels last) : ∀ label ∈ labels, shown label := by
  induction trace with
  | nil => exact fun _ member => absurd member List.not_mem_nil
  | cons now _ inductionHypothesis =>
      have admits := all _ List.mem_cons_self
      have later := inductionHypothesis (preserved holds admits now)
        fun label member => all label (List.mem_cons_of_mem _ member)
      exact List.forall_mem_cons.mpr ⟨shows holds admits now, later⟩

end Trace

/-! ## Simulation -/

variable {σ ε ρ : Type}

/-- The labels say, event by event and answer by answer, what was seen of a
run. -/
inductive Matches (label : ε → ρ → δ → Prop) :
    List ε → List ρ → List δ → Prop where
  | nil : Matches label [] [] []
  | cons {event : ε} {reply : ρ} {now : δ} {events : List ε}
      {replies : List ρ} {later : List δ} (head : label event reply now)
      (tail : Matches label events replies later) :
      Matches label (event :: events) (reply :: replies) (now :: later)

namespace Matches

variable {label : ε → ρ → δ → Prop} {event : ε} {reply : ρ}
  {events others : List ε} {replies answers : List ρ} {labels : List δ}

/-- The labels of two runs in a row fall into those of the one and those of
the other. -/
theorem split (pairs : events.length = replies.length)
    (shown : Matches label (events ++ others) (replies ++ answers) labels) :
    ∃ before after, labels = before ++ after ∧
      Matches label events replies before ∧
      Matches label others answers after := by
  induction events generalizing replies labels with
  | nil =>
      cases replies with
      | nil => exact ⟨[], labels, rfl, .nil, shown⟩
      | cons reply replies => cases pairs
  | cons event events inductionHypothesis =>
      cases replies with
      | nil => cases pairs
      | cons reply replies =>
          cases shown with
          | cons head tail =>
              obtain ⟨before, after, rfl, one, two⟩ :=
                inductionHypothesis (Nat.succ.inj pairs) tail
              exact ⟨_ :: before, after, rfl, .cons head one, two⟩

theorem length_eq (shown : Matches label events replies labels) :
    events.length = replies.length := by
  induction shown with
  | nil => rfl
  | cons _ _ inductionHypothesis => exact congrArg Nat.succ inductionHypothesis

/-- Labels that are the events with their answers are the two lists zipped. -/
theorem eq_zip {labels : List (ε × ρ)}
    (shown : Matches (fun event reply now => now = (event, reply)) events
      replies labels) : labels = events.zip replies := by
  induction shown with
  | nil => rfl
  | cons head _ inductionHypothesis =>
      rw [head, inductionHypothesis, List.zip_cons_cons]

end Matches

/-- If every step from a related state is matched by a labelled step into
related states, every run is matched by a trace. -/
theorem run {concrete : σ → ε → Option (σ × ρ)} {condition : σ → ε → Prop}
    {related : σ → τ → Prop} {label : ε → ρ → δ → Prop}
    (matched : ∀ {state next : σ} {spec : τ} {event : ε} {reply : ρ},
      related state spec → condition state event →
      concrete state event = some (next, reply) →
      ∃ now specNext, label event reply now ∧ step spec now specNext ∧
        related next specNext)
    {state last : σ} {spec : τ} {events : List ε} {replies : List ρ}
    (start : related state spec)
    (along : Run.Along concrete condition state events)
    (finished : Run.run concrete state events = some (last, replies)) :
    ∃ labels specLast, Matches label events replies labels ∧
      Trace step spec labels specLast ∧ related last specLast := by
  induction events generalizing state spec replies with
  | nil =>
      cases finished
      exact ⟨[], spec, .nil, .nil spec, start⟩
  | cons event events inductionHypothesis =>
      obtain ⟨next, reply, later, stepped, rest, rfl⟩ := Run.run_cons finished
      obtain ⟨admitted, ahead⟩ := along.cons stepped
      obtain ⟨now, specNext, shown, specStepped, afterwards⟩ :=
        matched start admitted stepped
      obtain ⟨labels, specLast, ends, trace, ended⟩ :=
        inductionHypothesis afterwards ahead rest
      exact ⟨now :: labels, specLast, .cons shown ends,
        .cons specStepped trace, ended⟩

/-- The same where a label is an event with its answer. -/
theorem run_zip {step : τ → ε × ρ → τ → Prop}
    {concrete : σ → ε → Option (σ × ρ)} {condition : σ → ε → Prop}
    {related : σ → τ → Prop}
    (matched : ∀ {state next : σ} {spec : τ} {event : ε} {reply : ρ},
      related state spec → condition state event →
      concrete state event = some (next, reply) →
      ∃ specNext, step spec (event, reply) specNext ∧ related next specNext)
    {state last : σ} {spec : τ} {events : List ε} {replies : List ρ}
    (start : related state spec)
    (along : Run.Along concrete condition state events)
    (finished : Run.run concrete state events = some (last, replies)) :
    ∃ specLast, Trace step spec (events.zip replies) specLast ∧
      related last specLast := by
  have labelled {state next : σ} {spec : τ} {event : ε} {reply : ρ}
      (before : related state spec) (admitted : condition state event)
      (stepped : concrete state event = some (next, reply)) :
      ∃ now specNext, now = (event, reply) ∧ step spec now specNext ∧
        related next specNext := by
    obtain ⟨specNext, taken, afterwards⟩ := matched before admitted stepped
    exact ⟨_, specNext, rfl, taken, afterwards⟩
  obtain ⟨labels, specLast, shown, trace, ended⟩ :=
    run labelled start along finished
  exact ⟨specLast, shown.eq_zip ▸ trace, ended⟩

end Simulation
