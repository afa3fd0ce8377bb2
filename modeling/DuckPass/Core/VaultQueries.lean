/-
Module: DuckPass.Core.VaultQueries
Purpose: The reading methods of `VaultService`: `list_entries` with the fuzzy
  matching of `utils.cpp`, and `get_totp_code`.
Trusted boundary: HMAC-SHA1 and the order in which `std::ranges::sort` leaves
  equal scores are parameters.
Main exports: fuzzyMatch, fuzzyMatchInt, Library, VaultService.listEntries,
  VaultService.getTotpCode
-/
import DuckPass.Core.VaultService

namespace DuckPass

/-! ## Fuzzy matching -/

/-- `std::tolower` in the C locale. -/
def toLower (ch : UInt8) : UInt8 :=
  if 0x41 ≤ ch ∧ ch ≤ 0x5A then ch + 0x20 else ch

/-- A match here begins a word: it is the first character of the target or
follows `.`, `-` or `_`. -/
def atWordBoundary (previous : Option UInt8) : Bool :=
  match previous with
  | none => true
  | some ch => ch == 0x2E || ch == 0x2D || ch == 0x5F

/-- The loop of `fuzzy_match`: what is left of the query, and the score.  The
source counts in an `int`; scores here do not wrap, and `fuzzyMatchInt` below
says when those of the source do not either. -/
def fuzzyMatchLoop : (query target : SecureString) →
    (previous : Option UInt8) → (score consecutiveMatches : Int) →
    SecureString × Int
  | [], _, _, score, _ => ([], score)
  | query, [], _, score, _ => (query, score)
  | queryChar :: query, targetChar :: target, previous, score, consecutive =>
      if toLower queryChar = toLower targetChar then
        let consecutive := consecutive + 1
        let score := score + 10
        let score :=
          if consecutive > 1 then score + (consecutive - 1) * 5 else score
        let score := if atWordBoundary previous then score + 25 else score
        fuzzyMatchLoop query target (some targetChar) score consecutive
      else
        fuzzyMatchLoop (queryChar :: query) target (some targetChar) score 0

/-- `fuzzy_match`: zero unless the query is a subsequence of the target. -/
def fuzzyMatch (query target : SecureString) : Int :=
  if query.isEmpty then 1
  else if target.isEmpty then 0
  else
    match fuzzyMatchLoop query target none 0 0 with
    | ([], score) =>
        max 1 (score - ((target.length : Int) - query.length) * 2)
    | (_ :: _, _) => 0

/-! ### The same in `int`

An operation of the source on `int` values overflows, with undefined behaviour,
where its result below is missing. -/

/-- The result of an operation on `int` values. -/
def asInt (value : Int) : Option Int :=
  if -2147483648 ≤ value ∧ value ≤ 2147483647 then some value else none

/-- `static_cast<int>` of the difference of two sizes. -/
def sizeDifference (minuend subtrahend : Nat) : Int :=
  ((minuend : Int) - subtrahend).bmod 4294967296

/-- The score after one more matching character. -/
def scoreMatchInt (previous : Option UInt8) (score consecutive : Int) :
    Option Int := do
  let score ← asInt (score + 10)
  let score ←
    if consecutive > 1 then do
      let bonus ← asInt ((consecutive - 1) * 5)
      asInt (score + bonus)
    else some score
  if atWordBoundary previous then asInt (score + 25) else some score

/-- The loop of `fuzzy_match` with every `int` operation checked. -/
def fuzzyMatchLoopInt : (query target : SecureString) →
    (previous : Option UInt8) → (score consecutiveMatches : Int) →
    Option (SecureString × Int)
  | [], _, _, score, _ => some ([], score)
  | query, [], _, score, _ => some (query, score)
  | queryChar :: query, targetChar :: target, previous, score, consecutive =>
      if toLower queryChar = toLower targetChar then do
        let consecutive ← asInt (consecutive + 1)
        let score ← scoreMatchInt previous score consecutive
        fuzzyMatchLoopInt query target (some targetChar) score consecutive
      else
        fuzzyMatchLoopInt (queryChar :: query) target (some targetChar)
          score 0

/-- `fuzzy_match` with every `int` operation checked. -/
def fuzzyMatchInt (query target : SecureString) : Option Int :=
  if query.isEmpty then some 1
  else if target.isEmpty then some 0
  else do
    let (left, score) ← fuzzyMatchLoopInt query target none 0 0
    if left.isEmpty then
      let penalty ← asInt (sizeDifference target.length query.length * 2)
      let score ← asInt (score - penalty)
      some (max 1 score)
    else some 0

/-! ## Queries -/

/-- An entry that matches a query. -/
structure MatchResult where
  entry : VaultEntry
  score : Int
deriving Repr, Inhabited, DecidableEq

/-- The library calls that the queries make. -/
structure Library where
  hmacSha1 : HmacSha1
  sortByScore : List MatchResult → List MatchResult

/-- `std::ranges::sort` with `a.score > b.score`: a rearrangement in which no
score is followed by a higher one. -/
structure Library.Sorts (library : Library) : Prop where
  perm : ∀ results, (library.sortByScore results).Perm results
  ordered : ∀ results,
    (library.sortByScore results).Pairwise fun a b => b.score ≤ a.score

namespace VaultService

/-- The entries that `list_entries` keeps for a query, with their scores. -/
def matching (entries : List VaultEntry) (query : SecureString) :
    List MatchResult :=
  entries.filterMap fun entry =>
    let score := fuzzyMatch query entry.service
    if score > 0 then some ⟨entry, score⟩ else none

/-- `list_entries`. -/
def listEntries (library : Library) (self : VaultService)
    (query : SecureString) : List VaultEntry :=
  if query.isEmpty then self.vault.entries
  else
    (library.sortByScore (matching self.vault.entries query)).map
      MatchResult.entry

/-- `get_totp_code`: the code and the seconds left. -/
def getTotpCode (library : Library) (self : VaultService)
    (service : SecureString) (clock : Clock) :
    Except DuckpassError (SecureString × UInt32) :=
  match self.vault.getEntry service with
  | none => .error (.invalidArgument "Service not found.")
  | some entry =>
      if entry.totpSecret.isEmpty then
        .error (.invalidArgument ("Service '" ++ quoteBytes service ++
          "' does not have a 2FA TOTP secret configured."))
      else generateTotp library.hmacSha1 entry.totpSecret 0 30 6 clock

end VaultService

end DuckPass
