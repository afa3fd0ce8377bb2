/-
Module: DuckPass.Proofs.ScoreOverflow
Purpose: How large the scores of `fuzzy_match` get: quadratic in the length of
  a row of matches, and so beyond an `int` for names that the agent accepts.
Trusted boundary: none
Main exports: greedyHits, matchWeight, fuzzyMatchLoop_score,
  ScoreValues.fuzzyMatch_computes, scores_fit_iff, scores_overflow
-/
import DuckPass.Core.Ipc
import DuckPass.Core.ScoreValues
import DuckPass.Proofs.FuzzyListing
import Mathlib.Data.Nat.Choose.Basic
import Mathlib.Tactic.Positivity

namespace DuckPass

/-! ## The weight of a scan -/

/-- For each character of the target that the scan looks at, whether it is
the next one of the query. -/
def greedyHits : (query target : SecureString) → List Bool
  | [], _ => []
  | _, [] => []
  | queryChar :: query, targetChar :: target =>
      if toLower queryChar = toLower targetChar then
        true :: greedyHits query target
      else false :: greedyHits (queryChar :: query) target

/-- The pairs of characters within one row of hits. -/
def pairsInRows (hits : List Bool) : Nat :=
  ((hits.splitOn false).map fun row => row.length.choose 2).sum

/-- The hits at a word boundary, with the character before the first. -/
def boundaryHits (hits : List Bool) (previous : Option UInt8)
    (target : SecureString) : Nat :=
  (hits.zip (previous :: target.map some)).countP fun position =>
    position.1 && atWordBoundary position.2

/-- Ten for each hit, five for each pair of hits in one row, twenty-five for
each hit at a word boundary. -/
def matchWeight (query target : SecureString) : Nat :=
  let hits := greedyHits query target
  10 * hits.count true + 5 * pairsInRows hits +
    25 * boundaryHits hits none target

/-- The length of the row a scan begins with. -/
def leadingHits (hits : List Bool) : Nat := (hits.takeWhile id).length

/-- The first row of hits. -/
theorem splitOn_false (hits : List Bool) :
    ∃ rows, hits.splitOn false = hits.takeWhile id :: rows := by
  induction hits with
  | nil => exact ⟨[], rfl⟩
  | cons hit hits inductionHypothesis =>
      obtain ⟨rows, split⟩ := inductionHypothesis
      rw [List.splitOn_cons_eq_if_modifyHead, split]
      cases hit with
      | false => exact ⟨_, rfl⟩
      | true => exact ⟨rows, rfl⟩

/-- A hit makes a pair with each one that follows it in its row. -/
theorem pairsInRows_true (hits : List Bool) :
    pairsInRows (true :: hits) = leadingHits hits + pairsInRows hits := by
  obtain ⟨rows, split⟩ := splitOn_false hits
  unfold pairsInRows leadingHits
  rw [List.splitOn_cons_eq_if_modifyHead, split]
  simp [Nat.choose_succ_succ, Nat.add_assoc]

/-- A miss ends a row. -/
theorem pairsInRows_false (hits : List Bool) :
    pairsInRows (false :: hits) = pairsInRows hits := by
  unfold pairsInRows
  rw [List.splitOn_cons_eq_if_modifyHead]
  simp

/-- A hit at a word boundary counts. -/
theorem boundaryHits_cons (hit : Bool) (hits : List Bool)
    (previous : Option UInt8) (ch : UInt8) (target : SecureString) :
    boundaryHits (hit :: hits) previous (ch :: target) =
      boundaryHits hits (some ch) target +
        if hit && atWordBoundary previous then 1 else 0 :=
  List.countP_cons

/-- What the scan adds to a score, after `consecutive` hits in a row. -/
def weightAfter (hits : List Bool) (previous : Option UInt8)
    (target : SecureString) (consecutive : Int) : Int :=
  10 * hits.count true +
    5 * (pairsInRows hits + consecutive * leadingHits hits) +
    25 * boundaryHits hits previous target

theorem weightAfter_nil (previous : Option UInt8) (target : SecureString)
    (consecutive : Int) : weightAfter [] previous target consecutive = 0 := by
  simp [weightAfter, pairsInRows, leadingHits, boundaryHits]

/-- What a hit adds. -/
theorem weightAfter_true (hits : List Bool) (previous : Option UInt8)
    (ch : UInt8) (target : SecureString) (consecutive : Int) :
    weightAfter (true :: hits) previous (ch :: target) consecutive =
      10 + 5 * consecutive + (if atWordBoundary previous then 25 else 0) +
        weightAfter hits (some ch) target (consecutive + 1) := by
  have longer : leadingHits (true :: hits) = leadingHits hits + 1 := rfl
  unfold weightAfter
  rw [List.count_cons_self, pairsInRows_true, longer, boundaryHits_cons,
    Bool.true_and]
  split
  · push_cast
    ring
  · push_cast
    ring

/-- A miss adds nothing and ends the row. -/
theorem weightAfter_false (hits : List Bool) (previous : Option UInt8)
    (ch : UInt8) (target : SecureString) (consecutive : Int) :
    weightAfter (false :: hits) previous (ch :: target) consecutive =
      weightAfter hits (some ch) target 0 := by
  have none : leadingHits (false :: hits) = 0 := rfl
  unfold weightAfter
  rw [List.count_cons_of_ne Bool.false_ne_true, pairsInRows_false, none,
    boundaryHits_cons]
  simp

/-- Nothing is ever taken away. -/
theorem weightAfter_nonneg (hits : List Bool) (previous : Option UInt8)
    (target : SecureString) {consecutive : Int} (counted : 0 ≤ consecutive) :
    0 ≤ weightAfter hits previous target consecutive := by
  unfold weightAfter
  positivity

/-- From the start it is the weight of the match. -/
theorem weightAfter_zero (query target : SecureString) :
    weightAfter (greedyHits query target) none target 0 =
      matchWeight query target := by
  unfold weightAfter matchWeight
  push_cast
  ring

/-- Without a hit there is no weight. -/
theorem matchWeight_of_no_hits {query target : SecureString}
    (none : greedyHits query target = []) : matchWeight query target = 0 := by
  simp [matchWeight, none, pairsInRows, boundaryHits]

/-- What one more match makes of a score. -/
def scoreAfter (previous : Option UInt8) (score consecutive : Int) : Int :=
  score + 10 + 5 * consecutive + if atWordBoundary previous then 25 else 0

/-- A match adds ten, and five for each one before it in its row. -/
theorem le_scoreAfter (previous : Option UInt8) (score consecutive : Int) :
    score + 10 + 5 * consecutive ≤ scoreAfter previous score consecutive := by
  unfold scoreAfter
  split <;> omega

/-- The score of the source's branches. -/
theorem scoreAfter_eq (previous : Option UInt8) (score : Int)
    {consecutive : Int} (counted : 0 ≤ consecutive) :
    (if atWordBoundary previous then
        (if consecutive + 1 > 1 then
            score + 10 + (consecutive + 1 - 1) * 5
          else score + 10) + 25
      else
        if consecutive + 1 > 1 then score + 10 + (consecutive + 1 - 1) * 5
        else score + 10) =
      scoreAfter previous score consecutive := by
  unfold scoreAfter
  split <;> split <;> omega

/-- The loop's score is what it has so far and the weight that is left. -/
theorem fuzzyMatchLoop_score (query target : SecureString)
    (previous : Option UInt8) (score : Int) {consecutive : Int}
    (counted : 0 ≤ consecutive) :
    (fuzzyMatchLoop query target previous score consecutive).2 =
      score +
        weightAfter (greedyHits query target) previous target consecutive := by
  induction target generalizing query previous score consecutive with
  | nil =>
      cases query with
      | nil => simp [fuzzyMatchLoop, greedyHits, weightAfter_nil]
      | cons queryChar query =>
          simp [fuzzyMatchLoop, greedyHits, weightAfter_nil]
  | cons targetChar target inductionHypothesis =>
      cases query with
      | nil => simp [fuzzyMatchLoop, greedyHits, weightAfter_nil]
      | cons queryChar query =>
          rw [fuzzyMatchLoop, greedyHits]
          split
          · dsimp only
            rw [scoreAfter_eq previous score counted, weightAfter_true,
              inductionHypothesis query _ _ (Int.le_add_one counted)]
            unfold scoreAfter
            omega
          · rw [weightAfter_false]
            exact inductionHypothesis _ _ _ (Int.le_refl 0)

/-- Scores only grow in the loop. -/
theorem le_fuzzyMatchLoop (query target : SecureString)
    (previous : Option UInt8) (score : Int) {consecutive : Int}
    (counted : 0 ≤ consecutive) :
    score ≤ (fuzzyMatchLoop query target previous score consecutive).2 := by
  rw [fuzzyMatchLoop_score query target previous score counted]
  exact Int.le_add_of_nonneg_right (weightAfter_nonneg _ _ _ counted)

/-! ## The values on the way -/

/-- The values of an `int`. -/
def FitsInt (value : Int) : Prop :=
  -2147483648 ≤ value ∧ value ≤ 2147483647

namespace ScoreValues

open Traced (Computes Records)

/-- A value on the way to a score. -/
def UpTo (bound value : Int) : Prop := 0 ≤ value ∧ value ≤ bound

theorem UpTo.fitsInt {value : Int} (between : UpTo 2147483647 value) :
    FitsInt value :=
  ⟨by have := between.1; omega, between.2⟩

/-- A value that is allowed. -/
theorem computed_computes {allowed : Int → Prop} {value : Int}
    (fine : allowed value) :
    Computes allowed (computed value) (.ok value) :=
  Computes.emit_bind fine (Computes.pure value)

/-- The bonus for a row stays within the bound if the sum does. -/
theorem rowBonus_computes {score consecutive bound : Int}
    (nonneg : 0 ≤ score) (counted : 0 ≤ consecutive)
    (fits : score + 5 * consecutive ≤ bound) :
    Computes (UpTo bound) (rowBonus score (consecutive + 1))
      (.ok (score + 5 * consecutive)) := by
  unfold rowBonus
  split
  · have bonus : UpTo bound ((consecutive + 1 - 1) * 5) :=
      ⟨by omega, by omega⟩
    have same : score + 5 * consecutive =
        score + (consecutive + 1 - 1) * 5 := by omega
    rw [same] at fits ⊢
    exact Computes.ok_bind (computed_computes bonus)
      (computed_computes ⟨by omega, fits⟩)
  · have none : consecutive = 0 := by omega
    rw [none, Int.mul_zero, Int.add_zero]
    exact Computes.pure score

/-- So does that for a boundary. -/
theorem boundaryBonus_computes (previous : Option UInt8)
    {score bound : Int} (nonneg : 0 ≤ score)
    (fits : score + (if atWordBoundary previous then 25 else 0) ≤ bound) :
    Computes (UpTo bound) (boundaryBonus previous score)
      (.ok (score + if atWordBoundary previous then 25 else 0)) := by
  unfold boundaryBonus
  split
  · next boundary =>
      rw [if_pos boundary] at fits
      exact computed_computes ⟨by omega, fits⟩
  · rw [Int.add_zero]
    exact Computes.pure score

/-- So does the score of a match, the intermediate values included. -/
theorem scoreMatch_computes (previous : Option UInt8)
    {score consecutive bound : Int} (nonneg : 0 ≤ score)
    (counted : 0 ≤ consecutive)
    (fits : scoreAfter previous score consecutive ≤ bound) :
    Computes (UpTo bound) (scoreMatch previous score (consecutive + 1))
      (.ok (scoreAfter previous score consecutive)) := by
  have least := le_scoreAfter previous score consecutive
  apply Computes.ok_bind (computed_computes ⟨by omega, by omega⟩)
  apply Computes.ok_bind
    (rowBonus_computes (by omega) counted (by omega))
  exact boundaryBonus_computes previous (by omega) fits

/-! ### The score itself is among them -/

/-- A value that is recorded is the last one. -/
theorem computed_records (start value : Int) :
    Records id start (computed value) value :=
  ⟨rfl, .inr List.mem_cons_self⟩

/-- The bonus for a row is recorded. -/
theorem rowBonus_records (score : Int) {consecutive : Int}
    (counted : 0 ≤ consecutive) :
    Records id score (rowBonus score (consecutive + 1))
      (score + 5 * consecutive) := by
  unfold rowBonus
  split
  · have same : score + 5 * consecutive =
        score + (consecutive + 1 - 1) * 5 := by omega
    rw [same]
    exact Records.skip rfl (computed_records score _)
  · have none : consecutive = 0 := by omega
    rw [none, Int.mul_zero, Int.add_zero]
    exact Records.pure id score

/-- So is that for a boundary. -/
theorem boundaryBonus_records (previous : Option UInt8) (score : Int) :
    Records id score (boundaryBonus previous score)
      (score + if atWordBoundary previous then 25 else 0) := by
  unfold boundaryBonus
  split
  · exact computed_records score _
  · rw [Int.add_zero]
    exact Records.pure id score

/-- So is the score of a match. -/
theorem scoreMatch_records (previous : Option UInt8) (score : Int)
    {consecutive : Int} (counted : 0 ≤ consecutive) :
    Records id score (scoreMatch previous score (consecutive + 1))
      (scoreAfter previous score consecutive) :=
  (computed_records score _).bind
    ((rowBonus_records _ counted).bind (boundaryBonus_records previous _))

/-! ### All rounds -/

/-- The values of the loop end with its score. -/
theorem fuzzyMatchLoop_records (query target : SecureString)
    (previous : Option UInt8) (score : Int) {consecutive : Int}
    (counted : 0 ≤ consecutive) :
    Records Prod.snd score
      (fuzzyMatchLoop query target previous score consecutive)
      (DuckPass.fuzzyMatchLoop query target previous score consecutive) := by
  induction target generalizing query previous score consecutive with
  | nil =>
      cases query with
      | nil => exact Records.pure Prod.snd ([], score)
      | cons queryChar query =>
          exact Records.pure Prod.snd (queryChar :: query, score)
  | cons targetChar target inductionHypothesis =>
      cases query with
      | nil => exact Records.pure Prod.snd ([], score)
      | cons queryChar query =>
          rw [fuzzyMatchLoop, DuckPass.fuzzyMatchLoop]
          split
          · dsimp only
            rw [scoreAfter_eq previous score counted]
            apply Records.skip rfl
            apply (scoreMatch_records previous score counted).bind
            exact inductionHypothesis _ _ _ (Int.le_add_one counted)
          · apply Records.skip rfl
            exact inductionHypothesis _ _ _ (Int.le_refl 0)

/-- Every value of the loop is at most the score it ends with. -/
theorem fuzzyMatchLoop_computes (query target : SecureString)
    (previous : Option UInt8) {score consecutive bound : Int}
    (counted : 0 ≤ consecutive) (below : consecutive ≤ score)
    (fits : (DuckPass.fuzzyMatchLoop query target previous score
      consecutive).2 ≤ bound) :
    Computes (UpTo bound)
      (fuzzyMatchLoop query target previous score consecutive)
      (.ok (DuckPass.fuzzyMatchLoop query target previous score
        consecutive)) := by
  induction target generalizing query previous score consecutive with
  | nil =>
      cases query with
      | nil => exact Computes.pure _
      | cons queryChar query => exact Computes.pure _
  | cons targetChar target inductionHypothesis =>
      cases query with
      | nil => exact Computes.pure _
      | cons queryChar query =>
          rw [DuckPass.fuzzyMatchLoop] at fits ⊢
          rw [fuzzyMatchLoop]
          split
          · next same =>
              rw [if_pos same] at fits
              dsimp only at fits ⊢
              rw [scoreAfter_eq previous score counted] at fits ⊢
              have least := le_scoreAfter previous score consecutive
              have grows := le_fuzzyMatchLoop query target (some targetChar)
                (scoreAfter previous score consecutive)
                (Int.le_add_one counted)
              apply Computes.ok_bind
                (computed_computes ⟨by omega, by omega⟩)
              apply Computes.ok_bind
                (scoreMatch_computes previous (by omega) counted (by omega))
              exact inductionHypothesis _ _ (by omega) (by omega) fits
          · next differs =>
              rw [if_neg differs] at fits
              have grows := le_fuzzyMatchLoop (queryChar :: query) target
                (some targetChar) score (Int.le_refl 0)
              apply Computes.ok_bind
                (computed_computes ⟨Int.le_refl 0, by omega⟩)
              exact inductionHypothesis _ _ (Int.le_refl 0) (by omega) fits

/-- Where the weight fits, everything does, and the record is one of
`fuzzy_match` itself. -/
theorem fuzzyMatch_computes {query target : SecureString}
    (queryAdmitted : query.length ≤ maxPayload)
    (targetAdmitted : target.length ≤ maxPayload)
    (fits : matchWeight query target ≤ 2147483647) :
    Computes FitsInt (fuzzyMatch query target)
      (.ok (DuckPass.fuzzyMatch query target)) := by
  have zero : FitsInt 0 := ⟨by decide, by decide⟩
  have score := fuzzyMatchLoop_score query target none 0 (Int.le_refl 0)
  rw [weightAfter_zero, Int.zero_add] at score
  have loop := @fuzzyMatchLoop_computes query target none 0 0 2147483647
    (Int.le_refl 0) (Int.le_refl 0) (by omega)
  have nonneg := le_fuzzyMatchLoop query target none 0 (Int.le_refl 0)
  unfold fuzzyMatch DuckPass.fuzzyMatch
  split
  · exact Computes.pure 1
  · split
    · exact Computes.pure 0
    · apply Computes.ok_bind (computed_computes zero)
      apply Computes.ok_bind (computed_computes zero)
      apply Computes.ok_bind (loop.mono fun _ between => between.fitsInt)
      have found := fuzzyMatchLoop_found_iff query target none 0 0
      revert score nonneg found
      rcases DuckPass.fuzzyMatchLoop query target none 0 0 with
        ⟨_ | ⟨char, left⟩, score⟩
      · intro score nonneg found
        have shorter : query.length ≤ target.length := by
          simpa using (found.mp rfl).length_le
        unfold maxPayload at queryAdmitted targetAdmitted
        dsimp only at score nonneg ⊢
        apply Computes.ok_bind (computed_computes ⟨by omega, by omega⟩)
        apply Computes.ok_bind (computed_computes ⟨by omega, by omega⟩)
        apply Computes.ok_bind (computed_computes ⟨by omega, by omega⟩)
        exact Computes.pure _
      · intro _ _ _
        exact Computes.pure 0

/-- The score before the length penalty is among the values. -/
theorem matchWeight_recorded (query target : SecureString) :
    matchWeight query target = 0 ∨
      (matchWeight query target : Int) ∈
        (fuzzyMatch query target).events := by
  cases query with
  | nil => exact .inl (matchWeight_of_no_hits (by rw [greedyHits]))
  | cons queryChar query =>
      cases target with
      | nil => exact .inl (matchWeight_of_no_hits rfl)
      | cons targetChar target =>
          have tracked := fuzzyMatchLoop_records (queryChar :: query)
            (targetChar :: target) none 0 (Int.le_refl 0)
          have score := fuzzyMatchLoop_score (queryChar :: query)
            (targetChar :: target) none 0 (Int.le_refl 0)
          rw [weightAfter_zero, Int.zero_add] at score
          rcases tracked.recorded with unchanged | recorded
          · left
            omega
          · right
            rw [score] at recorded
            apply List.mem_cons_of_mem
            apply List.mem_cons_of_mem
            exact Traced.mem_events_of_first recorded

end ScoreValues

/-- For a query and a name that the agent accepts, the values of `fuzzy_match`
fit in an `int` exactly if the weight of the scan does. -/
theorem scores_fit_iff {query target : SecureString}
    (queryAdmitted : query.length ≤ maxPayload)
    (targetAdmitted : target.length ≤ maxPayload) :
    (∀ value ∈ (ScoreValues.fuzzyMatch query target).events,
        FitsInt value) ↔
      matchWeight query target ≤ 2147483647 := by
  constructor
  · intro fits
    rcases ScoreValues.matchWeight_recorded query target with none | recorded
    · omega
    · have small := (fits _ recorded).2
      omega
  · intro small
    exact (ScoreValues.fuzzyMatch_computes queryAdmitted targetAdmitted
      small).allowed

theorem scores_fit_iff_git :
    (∀ value ∈ (ScoreValues.fuzzyMatch (textBytes "git")
        (textBytes "my-git")).events, FitsInt value) ↔
      matchWeight (textBytes "git") (textBytes "my-git") ≤ 2147483647 :=
  scores_fit_iff (by decide) (by decide)

/-! ## A score that does not fit -/

/-- Every character of a query matches a name that is the same. -/
theorem greedyHits_replicate (count : Nat) (ch : UInt8) :
    greedyHits (List.replicate count ch) (List.replicate count ch) =
      List.replicate count true := by
  induction count with
  | zero => rfl
  | succ count inductionHypothesis =>
      rw [List.replicate_succ, greedyHits, if_pos rfl, inductionHypothesis]
      rfl

/-- A name that is its own query is one row of hits. -/
theorem le_matchWeight_replicate (count : Nat) (ch : UInt8) :
    5 * count.choose 2 ≤
      matchWeight (List.replicate count ch) (List.replicate count ch) := by
  have oneRow : (List.replicate count true).splitOn false =
      [List.replicate count true] :=
    List.splitOn_eq_singleton (by simp)
  unfold matchWeight pairsInRows
  rw [greedyHits_replicate]
  dsimp only
  rw [oneRow]
  simp only [List.map_cons, List.map_nil, List.sum_cons, List.sum_nil,
    List.length_replicate]
  omega

/-- Thirty thousand times the same letter, as the query and as the name. -/
theorem scores_overflow :
    ¬ ∀ query target : SecureString, query.length ≤ maxPayload →
      target.length ≤ maxPayload →
      ∀ value ∈ (ScoreValues.fuzzyMatch query target).events,
        FitsInt value := by
  intro always
  have admitted : (List.replicate 30000 (0x61 : UInt8)).length ≤
      maxPayload := by
    rw [List.length_replicate]
    decide
  have small := (scores_fit_iff admitted admitted).mp
    (always _ _ admitted admitted)
  have large := le_matchWeight_replicate 30000 0x61
  rw [Nat.choose_two_right] at large
  omega

end DuckPass
