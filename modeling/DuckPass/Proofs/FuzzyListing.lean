/-
Module: DuckPass.Proofs.FuzzyListing
Purpose: `list_entries` gives exactly the entries whose names contain the query
  as a subsequence, best match first.  The greedy scan of `fuzzy_match` finds a
  subsequence whenever there is one, and no length penalty hides a match.
Trusted boundary: `std::ranges::sort` rearranges what it is given and leaves it
  in order.
Main exports: FoldedSubsequence, fuzzyMatchLoop_found_iff, fuzzyMatch_pos_iff,
  ScoreFits, fuzzyMatchInt_eq, fuzzy_listing_exact
-/
import DuckPass.Proofs.AgentListing
import Mathlib.Tactic.Ring
import Mathlib.Tactic.Zify

namespace DuckPass

/-- The query is a subsequence of the target, in either case of its letters. -/
def FoldedSubsequence (query target : SecureString) : Prop :=
  (query.map toLower).Sublist (target.map toLower)

instance (query target : SecureString) :
    Decidable (FoldedSubsequence query target) :=
  inferInstanceAs (Decidable (List.Sublist _ _))

/-! ## The scan -/

/-- The greedy scan uses up the query exactly if the query is a subsequence:
where the characters agree, matching them at once loses nothing. -/
theorem fuzzyMatchLoop_found_iff (query target : SecureString)
    (previous : Option UInt8) (score consecutive : Int) :
    (fuzzyMatchLoop query target previous score consecutive).1 = [] ↔
      FoldedSubsequence query target := by
  unfold FoldedSubsequence
  induction target generalizing query previous score consecutive with
  | nil =>
      cases query with
      | nil => simp [fuzzyMatchLoop]
      | cons queryChar query => simp [fuzzyMatchLoop]
  | cons targetChar target inductionHypothesis =>
      cases query with
      | nil => simp [fuzzyMatchLoop]
      | cons queryChar query =>
          rw [fuzzyMatchLoop, List.map_cons, List.map_cons]
          split
          · next same =>
              rw [inductionHypothesis, same]
              exact List.cons_sublist_cons.symm
          · next differs =>
              rw [inductionHypothesis, List.map_cons]
              constructor
              · exact List.Sublist.cons _
              · intro found
                rcases List.sublist_cons_iff.mp found with
                  later | ⟨rest, same, _⟩
                · exact later
                · exact absurd (List.cons.inj same).1 differs

/-- Whatever the length penalty takes off, a match scores at least one. -/
theorem fuzzyMatch_pos_iff (query target : SecureString) :
    0 < fuzzyMatch query target ↔ FoldedSubsequence query target := by
  cases query with
  | nil => simp [fuzzyMatch, FoldedSubsequence]
  | cons queryChar query =>
      cases target with
      | nil => simp [fuzzyMatch, FoldedSubsequence]
      | cons targetChar target =>
          rw [← fuzzyMatchLoop_found_iff (queryChar :: query)
            (targetChar :: target) none 0 0]
          simp only [fuzzyMatch, List.isEmpty_cons, Bool.false_eq_true,
            if_false]
          rcases fuzzyMatchLoop (queryChar :: query) (targetChar :: target)
            none 0 0 with ⟨_ | ⟨char, left⟩, score⟩
          · exact iff_of_true (Int.lt_of_lt_of_le Int.one_pos
              (Int.le_max_left _ _)) rfl
          · exact iff_of_false (Int.lt_irrefl 0) (List.cons_ne_nil _ _)

/-! ## Scores in `int` -/

/-- The most that `count` more matching characters add to a score after
`consecutive` of them in a row. -/
def scoreBound : (count : Nat) → (consecutive : Int) → Int
  | 0, _ => 0
  | count + 1, consecutive =>
      35 + 5 * consecutive + scoreBound count (consecutive + 1)

theorem scoreBound_nonneg (count : Nat) {consecutive : Int}
    (counted : 0 ≤ consecutive) : 0 ≤ scoreBound count consecutive := by
  induction count generalizing consecutive with
  | zero => exact Int.le_refl 0
  | succ count inductionHypothesis =>
      have rest := inductionHypothesis (Int.le_add_one counted)
      rw [scoreBound]
      omega

/-- A longer row can only add more. -/
theorem scoreBound_mono (count : Nat) {shorter longer : Int}
    (le : shorter ≤ longer) :
    scoreBound count shorter ≤ scoreBound count longer := by
  induction count generalizing shorter longer with
  | zero => exact Int.le_refl 0
  | succ count inductionHypothesis =>
      have rest := inductionHypothesis (Int.add_le_add_right le 1)
      rw [scoreBound, scoreBound]
      omega

theorem two_mul_scoreBound (count : Nat) (consecutive : Int) :
    2 * scoreBound count consecutive =
      5 * (count : Int) ^ 2 + 65 * count + 10 * consecutive * count := by
  induction count generalizing consecutive with
  | zero => simp [scoreBound]
  | succ count inductionHypothesis =>
      rw [scoreBound, Int.mul_add, inductionHypothesis]
      push_cast
      ring

/-- Sizes for which every value that `fuzzy_match` computes fits in an
`int`. -/
structure ScoreFits (query target : SecureString) : Prop where
  query : 5 * query.length ^ 2 + 65 * query.length ≤ 2 * intMax
  target : 2 * target.length ≤ intMax

theorem asInt_of_le {value : Int} (nonneg : 0 ≤ value)
    (small : value ≤ intMax) : asInt value = some value := by
  apply if_pos
  unfold intMax at small
  omega

/-- One more match is scored alike, and by no more than the bound. -/
theorem scoreMatchInt_eq {previous : Option UInt8} {score consecutive : Int}
    (nonneg : 0 ≤ score) (counted : 1 ≤ consecutive)
    (fits : score + 30 + 5 * consecutive ≤ intMax) :
    ∃ after, scoreMatchInt previous score consecutive = some after ∧
      after =
        (let base := if consecutive > 1
          then score + 10 + (consecutive - 1) * 5 else score + 10
        if atWordBoundary previous then base + 25 else base) ∧
      0 ≤ after ∧ after ≤ score + 30 + 5 * consecutive := by
  have added := @asInt_of_le (score + 10) (by omega) (by omega)
  simp only [scoreMatchInt, added, Option.bind_eq_bind, Option.bind_some]
  by_cases row : consecutive > 1
  · have bonus := @asInt_of_le ((consecutive - 1) * 5)
      (by omega) (by omega)
    have summed := @asInt_of_le (score + 10 + (consecutive - 1) * 5)
      (by omega) (by omega)
    simp only [if_pos row, bonus, summed, Option.bind_some]
    split
    · exact ⟨_, asInt_of_le (by omega) (by omega), rfl, by omega, by omega⟩
    · exact ⟨_, rfl, rfl, by omega, by omega⟩
  · simp only [if_neg row]
    split
    · exact ⟨_, asInt_of_le (by omega) (by omega), rfl, by omega, by omega⟩
    · exact ⟨_, rfl, rfl, by omega, by omega⟩

/-- While the bound fits, no operation of the loop overflows. -/
theorem fuzzyMatchLoopInt_eq (query target : SecureString)
    (previous : Option UInt8) {score consecutive : Int} (nonneg : 0 ≤ score)
    (counted : 0 ≤ consecutive)
    (fits : score + scoreBound query.length consecutive ≤ intMax) :
    fuzzyMatchLoopInt query target previous score consecutive =
        some (fuzzyMatchLoop query target previous score consecutive) ∧
      0 ≤ (fuzzyMatchLoop query target previous score consecutive).2 ∧
      (fuzzyMatchLoop query target previous score consecutive).2 ≤
        intMax := by
  induction target generalizing query previous score consecutive with
  | nil =>
      have bound := scoreBound_nonneg query.length counted
      have small : score ≤ intMax := by omega
      cases query with
      | nil => exact ⟨rfl, nonneg, small⟩
      | cons queryChar query => exact ⟨rfl, nonneg, small⟩
  | cons targetChar target inductionHypothesis =>
      cases query with
      | nil =>
          rw [List.length_nil, scoreBound, Int.add_zero] at fits
          exact ⟨rfl, nonneg, fits⟩
      | cons queryChar query =>
          rw [fuzzyMatchLoop, fuzzyMatchLoopInt]
          split
          · rw [List.length_cons, scoreBound] at fits
            have rest := scoreBound_nonneg query.length
              (Int.le_add_one counted)
            obtain ⟨after, scored, value, afterNonneg, afterBound⟩ :=
              @scoreMatchInt_eq previous score (consecutive + 1) nonneg
                (by omega) (by omega)
            rw [@asInt_of_le (consecutive + 1) (by omega) (by omega)]
            simp only [Option.bind_eq_bind, Option.bind_some, scored]
            rw [show (if atWordBoundary previous = true then _ else _) = after
              from value.symm]
            exact inductionHypothesis query (some targetChar) afterNonneg
              (Int.le_add_one counted) (by omega)
          · have reset := scoreBound_mono (queryChar :: query).length counted
            exact inductionHypothesis (queryChar :: query) (some targetChar)
              nonneg (Int.le_refl 0) (by omega)

/-- For such sizes the `int` computation has the result of the unbounded
one. -/
theorem fuzzyMatchInt_eq {query target : SecureString}
    (fits : ScoreFits query target) :
    fuzzyMatchInt query target = some (fuzzyMatch query target) := by
  unfold fuzzyMatchInt fuzzyMatch
  split
  · rfl
  split
  · rfl
  have closed := two_mul_scoreBound query.length 0
  have bound := fits.query
  obtain ⟨same, nonneg, small⟩ :=
    @fuzzyMatchLoopInt_eq query target none 0 0 (Int.le_refl 0)
      (Int.le_refl 0) (by zify at bound; omega)
  have found := fuzzyMatchLoop_found_iff query target none 0 0
  rw [same]
  revert nonneg small found
  rcases fuzzyMatchLoop query target none 0 0 with ⟨_ | ⟨char, left⟩, score⟩
  · intro nonneg small found
    have shorter : query.length ≤ target.length := by
      simpa using (found.mp rfl).length_le
    have targetFits := fits.target
    unfold intMax at targetFits small
    have difference : sizeDifference target.length query.length =
        (target.length : Int) - query.length := by
      unfold sizeDifference
      exact Int.bmod_eq_of_le (by omega) (by omega)
    have penalty : asInt (((target.length : Int) - query.length) * 2) =
        some (((target.length : Int) - query.length) * 2) :=
      asInt_of_le (by omega) (by unfold intMax; omega)
    have final : asInt
        (score - ((target.length : Int) - query.length) * 2) =
          some (score - ((target.length : Int) - query.length) * 2) :=
      if_pos (by dsimp only at nonneg small; omega)
    simp [difference, penalty, final]
  · intro nonneg small found
    rfl

/-! ## The listing -/

/-- Every result carries the score of its entry. -/
theorem score_of_mem_matching {entries : List VaultEntry}
    {query : SecureString} {result : MatchResult}
    (member : result ∈ VaultService.matching entries query) :
    result.score = fuzzyMatch query result.entry.service := by
  obtain ⟨entry, _, kept⟩ := List.mem_filterMap.mp member
  dsimp only at kept
  split at kept
  · cases kept
    rfl
  · cases kept

/-- No match is listed after a worse one. -/
theorem listEntries_ordered {library : Library} (sorts : library.Sorts)
    (self : VaultService) {query : SecureString} (given : query ≠ []) :
    (self.listEntries library query).Pairwise fun earlier later =>
      fuzzyMatch query later.service ≤ fuzzyMatch query earlier.service := by
  unfold VaultService.listEntries
  rw [if_neg (by simpa using given), List.pairwise_map]
  have scored : ∀ result ∈ library.sortByScore
      (VaultService.matching self.vault.entries query),
        result.score = fuzzyMatch query result.entry.service :=
    fun result member =>
      score_of_mem_matching ((sorts.perm _).subset member)
  apply (sorts.ordered _).imp_of_mem
  intro earlier later first second ordered
  rw [← scored earlier first, ← scored later second]
  exact ordered

/-! ## Main result -/

/-- For every vault: the empty query lists all entries in vault order, any
other query a rearrangement of exactly the entries whose names contain it,
with non-increasing scores; and a score is positive exactly for a subsequence,
the `int` score of the source too wherever it does not overflow. -/
theorem fuzzy_listing_exact {library : Library} (sorts : library.Sorts)
    (self : VaultService) :
    self.listEntries library [] = self.vault.entries ∧
    (∀ query, query ≠ [] →
      (self.listEntries library query).Perm
          (self.vault.entries.filter fun entry =>
            FoldedSubsequence query entry.service) ∧
        (self.listEntries library query).Pairwise fun earlier later =>
          fuzzyMatch query later.service ≤
            fuzzyMatch query earlier.service) ∧
    ∀ query target,
      (0 < fuzzyMatch query target ↔ FoldedSubsequence query target) ∧
        (ScoreFits query target →
          fuzzyMatchInt query target = some (fuzzyMatch query target)) := by
  refine ⟨rfl, ?_, fun query target =>
    ⟨fuzzyMatch_pos_iff query target, fuzzyMatchInt_eq⟩⟩
  intro query given
  refine ⟨?_, listEntries_ordered sorts self given⟩
  have kept : (self.vault.entries.filter fun entry =>
      FoldedSubsequence query entry.service) =
        matchingEntries self.vault.entries query :=
    List.filter_congr fun entry _ =>
      decide_eq_decide.mpr (fuzzyMatch_pos_iff query entry.service).symm
  rw [kept]
  exact listEntries_perm sorts self query

namespace FuzzyListing

/-- Three accounts of the tests. -/
def vault : Vault :=
  ((Vault.empty.store ⟨textBytes "google.com", [1], [2], [], 7⟩).store
    ⟨textBytes "git.example", [1], [2], [], 8⟩).store
    ⟨textBytes "GitHub.com", [1], [2], [], 9⟩

end FuzzyListing

open FuzzyListing in
/-- Among them the two that contain the query, the shorter one first. -/
theorem fuzzy_listing_exact_github :
    ((Symbolic.session vault).listEntries Symbolic.library
        (textBytes "git")).Perm
        (vault.entries.filter fun entry =>
          FoldedSubsequence (textBytes "git") entry.service) ∧
      ((Symbolic.session vault).listEntries Symbolic.library
        (textBytes "git")).map VaultEntry.service =
          [textBytes "GitHub.com", textBytes "git.example"] :=
  ⟨((fuzzy_listing_exact Symbolic.library_sorts
      (Symbolic.session vault)).2.1 (textBytes "git") (by decide)).1,
    by decide⟩

end DuckPass
