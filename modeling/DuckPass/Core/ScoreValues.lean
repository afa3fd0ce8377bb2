/-
Module: DuckPass.Core.ScoreValues
Purpose: `fuzzy_match` once more, with every value that the source computes in
  an `int` recorded as it is computed, without regard to what fits in one.
Trusted boundary: none
Main exports: RecordedScore, ScoreValues.computed, ScoreValues.scoreMatch,
  ScoreValues.fuzzyMatchLoop, ScoreValues.fuzzyMatch
-/
import DuckPass.Core.VaultQueries
import DuckPass.Lib.Traced

namespace DuckPass

/-- A computation with `int` values; it never fails. -/
abbrev RecordedScore := Traced Empty Int

namespace ScoreValues

open Traced (emit)

/-- The result of one operation, or what one assignment stores. -/
def computed (value : Int) : RecordedScore Int := do
  emit value
  pure value

/-- The bonus for consecutive matches. -/
def rowBonus (score consecutive : Int) : RecordedScore Int :=
  if consecutive > 1 then do
    let bonus ← computed ((consecutive - 1) * 5)
    computed (score + bonus)
  else pure score

/-- The bonus for a match at a word boundary. -/
def boundaryBonus (previous : Option UInt8) (score : Int) :
    RecordedScore Int :=
  if atWordBoundary previous then computed (score + 25) else pure score

/-- The score after one more matching character. -/
def scoreMatch (previous : Option UInt8) (score consecutive : Int) :
    RecordedScore Int := do
  let score ← computed (score + 10)
  let score ← rowBonus score consecutive
  boundaryBonus previous score

/-- The loop of `fuzzy_match`. -/
def fuzzyMatchLoop : (query target : SecureString) →
    (previous : Option UInt8) → (score consecutiveMatches : Int) →
    RecordedScore (SecureString × Int)
  | [], _, _, score, _ => pure ([], score)
  | query, [], _, score, _ => pure (query, score)
  | queryChar :: query, targetChar :: target, previous, score, consecutive =>
      if toLower queryChar = toLower targetChar then do
        let consecutive ← computed (consecutive + 1)
        let score ← scoreMatch previous score consecutive
        fuzzyMatchLoop query target (some targetChar) score consecutive
      else do
        let consecutive ← computed 0
        fuzzyMatchLoop (queryChar :: query) target (some targetChar) score
          consecutive

/-- `fuzzy_match`. -/
def fuzzyMatch (query target : SecureString) : RecordedScore Int :=
  if query.isEmpty then pure 1
  else if target.isEmpty then pure 0
  else do
    let score ← computed 0
    let consecutive ← computed 0
    let (left, score) ← fuzzyMatchLoop query target none score consecutive
    if left.isEmpty then do
      let lengthDifference ←
        computed ((target.length : Int) - query.length)
      let penalty ← computed (lengthDifference * 2)
      let score ← computed (score - penalty)
      pure (max 1 score)
    else pure 0

end ScoreValues

end DuckPass
