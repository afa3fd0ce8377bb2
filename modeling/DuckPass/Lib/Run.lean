/-
Module: DuckPass.Lib.Run
Purpose: Runs of a deterministic partial step function that answers each event,
  steps that meet a condition along a run, the invariant rule, runs that come
  to an end, and two runs side by side.
Trusted boundary: none
Main exports: Run.run, Run.Along, Run.Along.last, Run.along_of_forall,
  Run.invariant, Run.invariant_of_step, Run.length_add_le, Run.completes,
  Run.reached, Run.pair
-/
import Mathlib.Logic.Basic

namespace Run

variable {σ ε ρ : Type} {step : σ → ε → Option (σ × ρ)}

/-- The state after a list of events and the replies they got. -/
def run (step : σ → ε → Option (σ × ρ)) (state : σ) :
    List ε → Option (σ × List ρ)
  | [] => some (state, [])
  | event :: events =>
      match step state event with
      | none => none
      | some (next, reply) =>
          match run step next events with
          | none => none
          | some (last, replies) => some (last, reply :: replies)

/-- Every event of the run meets the condition in the state it finds. -/
def Along (step : σ → ε → Option (σ × ρ)) (condition : σ → ε → Prop)
    (state : σ) : List ε → Prop
  | [] => True
  | event :: events =>
      condition state event ∧
        match step state event with
        | none => True
        | some (next, _) => Along step condition next events

/-- Whether a condition holds along a run can be computed with the run. -/
def Along.decidable {condition : σ → ε → Prop}
    [∀ state event, Decidable (condition state event)] (state : σ) :
    (events : List ε) → Decidable (Along step condition state events)
  | [] => .isTrue trivial
  | event :: events =>
      have : Decidable (match step state event with
          | none => True
          | some (next, _) => Along step condition next events) :=
        match step state event with
        | none => .isTrue trivial
        | some (next, _) => Along.decidable next events
      inferInstanceAs (Decidable (_ ∧ _))

instance {condition : σ → ε → Prop}
    [∀ state event, Decidable (condition state event)] (state : σ)
    (events : List ε) : Decidable (Along step condition state events) :=
  Along.decidable state events

/-- The first step of a run and what is left of it. -/
theorem run_cons {state last : σ} {event : ε} {events : List ε}
    {replies : List ρ}
    (finished : run step state (event :: events) = some (last, replies)) :
    ∃ next reply later, step state event = some (next, reply) ∧
      run step next events = some (last, later) ∧
      replies = reply :: later := by
  unfold run at finished
  cases first : step state event with
  | none =>
      rw [first] at finished
      cases finished
  | some result =>
      obtain ⟨next, reply⟩ := result
      rw [first] at finished
      dsimp only at finished
      cases rest : run step next events with
      | none =>
          rw [rest] at finished
          cases finished
      | some result =>
          obtain ⟨final, later⟩ := result
          rw [rest] at finished
          cases finished
          exact ⟨next, reply, later, rfl, rest, rfl⟩

/-- A step and a run after it. -/
theorem run_of_step {state next last : σ} {event : ε} {events : List ε}
    {reply : ρ} {replies : List ρ} (stepped : step state event =
      some (next, reply)) (ran : run step next events = some (last, replies)) :
    run step state (event :: events) = some (last, reply :: replies) := by
  rw [run, stepped]
  dsimp only
  rw [ran]

/-- A run of two lists is a run of the first followed by one of the second. -/
theorem run_append {state last : σ} {events later : List ε}
    {replies : List ρ}
    (finished : run step state (events ++ later) = some (last, replies)) :
    ∃ middle first second, run step state events = some (middle, first) ∧
      run step middle later = some (last, second) ∧
      replies = first ++ second := by
  induction events generalizing state replies with
  | nil => exact ⟨state, [], replies, rfl, finished, rfl⟩
  | cons event events inductionHypothesis =>
      obtain ⟨next, reply, rest, stepped, ran, rfl⟩ := run_cons finished
      obtain ⟨middle, first, second, before, after, rfl⟩ :=
        inductionHypothesis ran
      exact ⟨middle, reply :: first, second, run_of_step stepped before, after,
        rfl⟩

/-- A run followed by a run is a run. -/
theorem run_trans {state middle last : σ} {events later : List ε}
    {first second : List ρ}
    (before : run step state events = some (middle, first))
    (after : run step middle later = some (last, second)) :
    run step state (events ++ later) = some (last, first ++ second) := by
  induction events generalizing state first with
  | nil =>
      cases before
      exact after
  | cons event events inductionHypothesis =>
      obtain ⟨next, reply, rest, stepped, ran, rfl⟩ := run_cons before
      exact run_of_step stepped (inductionHypothesis ran)

theorem Along.cons {condition : σ → ε → Prop} {state next : σ} {event : ε}
    {events : List ε} {reply : ρ}
    (along : Along step condition state (event :: events))
    (stepped : step state event = some (next, reply)) :
    condition state event ∧ Along step condition next events := by
  obtain ⟨now, later⟩ := along
  rw [stepped] at later
  exact ⟨now, later⟩

theorem along_cons {condition : σ → ε → Prop} {state next : σ} {event : ε}
    {events : List ε} {reply : ρ} (now : condition state event)
    (stepped : step state event = some (next, reply))
    (later : Along step condition next events) :
    Along step condition state (event :: events) := by
  refine ⟨now, ?_⟩
  rw [stepped]
  exact later

/-- The condition along a run with one more event holds along the run and of
that event in the state the run ends in. -/
theorem Along.last {condition : σ → ε → Prop} {state last : σ} {event : ε}
    {events : List ε} {replies : List ρ}
    (along : Along step condition state (events ++ [event]))
    (finished : run step state events = some (last, replies)) :
    Along step condition state events ∧ condition last event := by
  induction events generalizing state replies with
  | nil =>
      cases finished
      exact ⟨trivial, along.1⟩
  | cons head events inductionHypothesis =>
      obtain ⟨next, reply, later, stepped, rest, _⟩ := run_cons finished
      obtain ⟨now, ahead⟩ := Along.cons along stepped
      obtain ⟨before, ended⟩ := inductionHypothesis ahead rest
      exact ⟨along_cons now stepped before, ended⟩

theorem Along.mono {condition weaker : σ → ε → Prop} {state : σ}
    {events : List ε} (along : Along step condition state events)
    (implies : ∀ state event, condition state event → weaker state event) :
    Along step weaker state events := by
  induction events generalizing state with
  | nil => trivial
  | cons event events inductionHypothesis =>
      obtain ⟨now, later⟩ := along
      refine ⟨implies state event now, ?_⟩
      revert later
      cases step state event with
      | none => exact id
      | some result => exact inductionHypothesis

/-- A condition on events alone holds along every run of such events. -/
theorem along_of_forall {condition : ε → Prop} {events : List ε}
    (all : ∀ event ∈ events, condition event) (state : σ) :
    Along step (fun _ event => condition event) state events := by
  induction events generalizing state with
  | nil => trivial
  | cons event events inductionHypothesis =>
      refine ⟨all event List.mem_cons_self, ?_⟩
      have later := inductionHypothesis fun other member =>
        all other (List.mem_cons_of_mem event member)
      cases step state event with
      | none => trivial
      | some result => exact later result.1

/-- What every step under the condition preserves holds at the end of every
run under the condition. -/
theorem invariant {Inv : σ → Prop} {condition : σ → ε → Prop}
    (preserved : ∀ {state next : σ} {event : ε} {reply : ρ}, Inv state →
      condition state event → step state event = some (next, reply) →
      Inv next)
    {state last : σ} {events : List ε} {replies : List ρ}
    (holds : Inv state) (along : Along step condition state events)
    (finished : run step state events = some (last, replies)) : Inv last := by
  induction events generalizing state replies with
  | nil =>
      cases finished
      exact holds
  | cons event events inductionHypothesis =>
      obtain ⟨next, reply, later, stepped, rest, _⟩ := run_cons finished
      obtain ⟨now, ahead⟩ := along.cons stepped
      exact inductionHypothesis (preserved holds now stepped) ahead rest

/-- What every step preserves holds at the end of every run. -/
theorem invariant_of_step {Inv : σ → Prop}
    (preserved : ∀ {state next : σ} {event : ε} {reply : ρ}, Inv state →
      step state event = some (next, reply) → Inv next)
    {state last : σ} {events : List ε} {replies : List ρ} (holds : Inv state)
    (finished : run step state events = some (last, replies)) : Inv last :=
  @invariant _ _ _ step Inv (fun _ _ => True)
    (fun holds _ stepped => preserved holds stepped) _ _ _ _ holds
    (along_of_forall (fun _ _ => trivial) _) finished

/-! ## Runs that come to an end -/

/-- If every step makes a measure smaller, it bounds the length of runs. -/
theorem length_add_le {measure : σ → Nat}
    (decreases : ∀ {state next : σ} {event : ε} {reply : ρ},
      step state event = some (next, reply) → measure next < measure state)
    {state last : σ} {events : List ε} {replies : List ρ}
    (finished : run step state events = some (last, replies)) :
    events.length + measure last ≤ measure state := by
  induction events generalizing state replies with
  | nil =>
      cases finished
      exact Nat.le_of_eq (Nat.zero_add _)
  | cons event events inductionHypothesis =>
      obtain ⟨next, reply, later, stepped, rest, _⟩ := run_cons finished
      have smaller := decreases stepped
      have bounded := inductionHypothesis rest
      rw [List.length_cons]
      omega

/-- If besides a state that is not done can take a step, a run can always be
continued until it is done. -/
theorem completes {Inv done : σ → Prop} {measure : σ → Nat}
    (preserved : ∀ {state next : σ} {event : ε} {reply : ρ}, Inv state →
      step state event = some (next, reply) → Inv next)
    (decreases : ∀ {state next : σ} {event : ε} {reply : ρ},
      step state event = some (next, reply) → measure next < measure state)
    (enabled : ∀ {state : σ}, Inv state → ¬ done state →
      ∃ event next reply, step state event = some (next, reply))
    {state : σ} (holds : Inv state) :
    ∃ events last replies, run step state events = some (last, replies) ∧
      done last := by
  induction size : measure state using Nat.strongRecOn generalizing state with
  | ind size inductionHypothesis =>
      by_cases already : done state
      · exact ⟨[], state, [], rfl, already⟩
      · obtain ⟨event, next, reply, stepped⟩ := enabled holds already
        obtain ⟨events, last, replies, ran, reached⟩ := inductionHypothesis _
          (size ▸ decreases stepped) (preserved holds stepped) rfl
        exact ⟨event :: events, last, reply :: replies,
          run_of_step stepped ran, reached⟩

/-! ## The state a run leads to -/

/-- The state after a run, for runs that are evaluated. -/
def reached (step : σ → ε → Option (σ × ρ)) (state : σ) (events : List ε) :
    σ :=
  match run step state events with
  | some (last, _) => last
  | none => state

theorem run_reached {state : σ} {events : List ε} {replies : List ρ}
    (answers : (run step state events).map Prod.snd = some replies) :
    run step state events = some (reached step state events, replies) := by
  unfold reached
  cases finished : run step state events with
  | none =>
      rw [finished] at answers
      cases answers
  | some result =>
      rw [finished] at answers
      cases answers
      rfl

theorem step_reached {state : σ} {event : ε} {reply : ρ}
    (answer : (step state event).map Prod.snd = some reply) :
    step state event = some (reached step state [event], reply) := by
  unfold reached run run
  cases stepped : step state event with
  | none =>
      rw [stepped] at answer
      cases answer
  | some result =>
      rw [stepped] at answer
      cases answer
      rfl

/-! ## Two copies side by side -/

/-- Two copies of a system, each taking a step of its own. -/
def pair (step : σ → ε → Option (σ × ρ)) (states : σ × σ) (events : ε × ε) :
    Option ((σ × σ) × (ρ × ρ)) :=
  match step states.1 events.1, step states.2 events.2 with
  | some (first, reply), some (second, answer) =>
      some ((first, second), (reply, answer))
  | _, _ => none

theorem pair_eq_some {states next : σ × σ} {events : ε × ε}
    {replies : ρ × ρ}
    (stepped : pair step states events = some (next, replies)) :
    step states.1 events.1 = some (next.1, replies.1) ∧
      step states.2 events.2 = some (next.2, replies.2) := by
  unfold pair at stepped
  split at stepped
  · next one two =>
      cases stepped
      exact ⟨one, two⟩
  · cases stepped

end Run
