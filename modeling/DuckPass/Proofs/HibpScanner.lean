/-
Module: DuckPass.Proofs.HibpScanner
Purpose: What `check_password` makes of a response with status 200, whatever
  bytes it consists of.
Trusted boundary: as for `DuckPass.Core.HibpChecker`.
Main exports: Names, Listed, scanResponse_spec, breach_response_parsed,
  breach_response_parsed_mixed
-/
import DuckPass.Core.HibpChecker
import DuckPass.Lib.Positional

namespace DuckPass

/-! ## What a response says -/

/-- The part of the line before its first colon is the suffix, and the part
behind it is `count`. -/
def Names (suffix : SecureString) (line count : SecureBytes) : Prop :=
  line = suffix ++ 0x3A :: count ∧ 0x3A ∉ suffix

/-- The maximal run of other bytes than CR and LF that begins at `start` names
the suffix. -/
def Listed (body : SecureBytes) (suffix : SecureString) (start : Nat)
    (count : SecureBytes) : Prop :=
  ∃ stop, Scan.MaximalRun notLineEnd body start stop ∧
    Names suffix (Scan.slice body start stop) count

def IsDecimal (count : SecureBytes) : Prop :=
  count ≠ [] ∧ ∀ c ∈ count, 0x30 ≤ c ∧ c ≤ 0x39

instance (count : SecureBytes) : Decidable (IsDecimal count) :=
  @instDecidableAnd _ _ inferInstance
    (List.decidableBAll (fun c => 0x30 ≤ c ∧ c ≤ 0x39) count)

/-- The number that decimal digits write. -/
def decimalValue (count : SecureBytes) : Nat :=
  Positional.value 10 (count.map fun c => c.toNat - 0x30)

/-- A line has one count. -/
theorem Listed.count_unique {body count other : SecureBytes}
    {suffix : SecureString} {start : Nat}
    (listed : Listed body suffix start count)
    (again : Listed body suffix start other) : count = other := by
  obtain ⟨stop, run, line, _⟩ := listed
  obtain ⟨otherStop, otherRun, otherLine, _⟩ := again
  obtain ⟨_, rfl⟩ := run.unique otherRun (Nat.le_refl _) run.nonempty
  rw [line] at otherLine
  exact (List.cons.inj (List.append_cancel_left otherLine)).2

/-! ## Lines -/

/-- A line names the suffix exactly if a count is taken from it. -/
theorem countStr_eq_some_iff {suffix line count : SecureBytes} :
    countStr suffix line = some count ↔ Names suffix line count := by
  constructor
  · intro found
    unfold countStr at found
    split at found
    · cases found
    · split at found
      · cases found
      · next colonPos colon =>
          split at found
          · next same =>
              cases found
              obtain ⟨inLine, isColon, earlier⟩ :=
                List.findIdx?_eq_some_iff_getElem.mp colon
              refine ⟨?_, ?_⟩
              · rw [← same, ← of_decide_eq_true isColon,
                  List.getElem_cons_drop, List.take_append_drop]
              · rw [← same]
                intro inside
                obtain ⟨index, before, found⟩ :=
                  List.mem_iff_getElem.mp inside
                rw [List.length_take] at before
                rw [List.getElem_take] at found
                have fails := earlier index (by omega)
                rw [found] at fails
                exact fails rfl
          · cases found
  · rintro ⟨rfl, free⟩
    have nonempty : (suffix ++ 0x3A :: count).isEmpty = false := by
      cases suffix <;> rfl
    have colon : (suffix ++ 0x3A :: count).findIdx? (· = 0x3A) =
        some suffix.length := by
      rw [List.findIdx?_append, List.findIdx?_eq_none_iff.mpr]
      · simp [List.findIdx?_cons]
      · intro c member
        apply decide_eq_false
        rintro rfl
        exact free member
    simp [countStr, nonempty, colon]

/-- Such a line is not empty. -/
theorem nonempty_of_names {p : UInt8 → Bool} {body count : SecureBytes}
    {suffix : SecureString} {start : Nat}
    (names : Names suffix
      (Scan.slice body start (Scan.extent p body start)) count) :
    start < Scan.extent p body start := by
  by_contra empty
  have none : Scan.extent p body start - start = 0 := by omega
  rw [Scan.slice, none, List.take_zero] at names
  cases suffix with
  | nil => cases names.1
  | cons first rest => cases names.1

/-- The scanner stands where a line may begin. -/
def Boundary (buffer : SecureBytes) (pos : Nat) : Prop :=
  buffer.length ≤ pos ∨ pos = 0 ∨ ¬ Scan.At notLineEnd buffer (pos - 1)

/-- The scan goes on at the beginning of a line. -/
theorem boundary_nextLine (buffer : SecureBytes) (pos : Nat) :
    Boundary buffer (nextLine buffer (lineEndFrom buffer pos)) := by
  have skipped : lineEndFrom buffer pos ≤
      nextLine buffer (lineEndFrom buffer pos) := Scan.le_extent _
  rcases Nat.lt_or_eq_of_le skipped with further | same
  · refine .inr (.inr (Scan.not_at_of_at_not ?_))
    have inside : nextLine buffer (lineEndFrom buffer pos) - 1 <
        Scan.extent isLineEnd buffer (lineEndFrom buffer pos) := by
      change _ < nextLine buffer (lineEndFrom buffer pos)
      omega
    obtain ⟨member, found, ends⟩ :=
      Scan.at_of_lt_extent (by omega) inside
    exact ⟨member, found, by simp [notLineEnd, ends]⟩
  · -- Neither a line end nor another byte stands here.
    apply Or.inl
    rw [← same]
    by_contra inside
    have fails := Scan.not_at_extent isLineEnd buffer (lineEndFrom buffer pos)
    have holds := Scan.not_at_extent notLineEnd buffer pos
    unfold nextLine at same
    rw [← same] at fails
    exact holds (Scan.at_not_of_not_at (Nat.lt_of_not_le inside) fails)

/-- A line that begins before the next one is the one at `pos`. -/
theorem listed_at_pos {buffer count : SecureBytes} {suffix : SecureString}
    {pos start : Nat} (boundary : Boundary buffer pos)
    (listed : Listed buffer suffix start count) (begins : pos ≤ start)
    (before : start < nextLine buffer (lineEndFrom buffer pos)) :
    start = pos ∧ Names suffix
      (Scan.slice buffer pos (lineEndFrom buffer pos)) count := by
  obtain ⟨stop, run, names⟩ := listed
  have first := run.inside start (Nat.le_refl _) run.nonempty
  have inList := first.lt_length
  have inLine : start < lineEndFrom buffer pos := by
    by_contra behind
    obtain ⟨member, found, isEnd⟩ : Scan.At isLineEnd buffer start :=
      Scan.at_of_lt_extent (Nat.le_of_not_lt behind) before
    obtain ⟨other, foundOther, notEnd⟩ := first
    rw [found] at foundOther
    cases foundOther
    simp [notLineEnd, isEnd] at notEnd
  have front : pos = 0 ∨ ¬ Scan.At notLineEnd buffer (pos - 1) := by
    rcases boundary with atEnd | boundary
    · omega
    · exact boundary
  have line := Scan.maximalRun_extent front
    (Nat.lt_of_le_of_lt begins inLine)
  obtain ⟨rfl, rfl⟩ := line.unique run begins inLine
  exact ⟨rfl, names⟩

/-! ## The scanner -/

/-- The first line from `pos` on that names the suffix. -/
structure FirstListed (buffer : SecureBytes) (suffix : SecureString)
    (pos start : Nat) (count : SecureBytes) : Prop where
  listed : Listed buffer suffix start count
  begins : pos ≤ start
  first : ∀ other otherCount, Listed buffer suffix other otherCount →
    pos ≤ other → start ≤ other

/-- How the loop ends. -/
inductive Scanned (buffer : SecureBytes) (suffix : SecureString) (pos : Nat)
    (result : HibpResult) : HibpResult → Prop where
  | found {start : Nat} {count : SecureBytes}
      (first : FirstListed buffer suffix pos start count) :
      Scanned buffer suffix pos result { result with
        isPwned := true
        breachCount := parseCount count 0 }
  | absent (none : ∀ start count, Listed buffer suffix start count →
      ¬ pos ≤ start) : Scanned buffer suffix pos result result

/-- The line at `pos` names the suffix. -/
theorem firstListed_here {buffer count : SecureBytes} {suffix : SecureString}
    {pos : Nat} (boundary : Boundary buffer pos) (more : pos < buffer.length)
    (found : countStr suffix (Scan.slice buffer pos (lineEndFrom buffer pos)) =
      some count) :
    FirstListed buffer suffix pos pos count := by
  have names := countStr_eq_some_iff.mp found
  have front : pos = 0 ∨ ¬ Scan.At notLineEnd buffer (pos - 1) :=
    boundary.resolve_left (Nat.not_le_of_lt more)
  exact {
    listed := ⟨_, Scan.maximalRun_extent front (nonempty_of_names names), names⟩
    begins := Nat.le_refl pos
    first := fun _ _ _ begins => begins }

/-- The line at `pos` does not: what is said of the lines behind it is said of
all from `pos` on. -/
theorem Scanned.skip {buffer : SecureBytes} {suffix : SecureString}
    {pos : Nat} {result last : HibpResult} (boundary : Boundary buffer pos)
    (more : pos < buffer.length)
    (missing : countStr suffix
      (Scan.slice buffer pos (lineEndFrom buffer pos)) = none)
    (scanned : Scanned buffer suffix
      (nextLine buffer (lineEndFrom buffer pos)) result last) :
    Scanned buffer suffix pos result last := by
  have later : ∀ start count, Listed buffer suffix start count →
      pos ≤ start → nextLine buffer (lineEndFrom buffer pos) ≤ start := by
    intro start count listed begins
    by_contra before
    obtain ⟨_, names⟩ := listed_at_pos boundary listed begins
      (Nat.lt_of_not_le before)
    rw [countStr_eq_some_iff.mpr names] at missing
    cases missing
  have further := lt_nextLine more
  cases scanned with
  | found first =>
      exact .found {
        listed := first.listed
        begins := Nat.le_trans (Nat.le_of_lt further) first.begins
        first := fun other otherCount listed begins =>
          first.first other otherCount listed
            (later other otherCount listed begins) }
  | absent none =>
      apply Scanned.absent
      intro start count listed begins
      exact none start count listed (later start count listed begins)

/-- From the beginning of a line the scan finds the first line that names the
suffix. -/
theorem scanResponse_spec {buffer : SecureBytes} {suffix : SecureString}
    {rounds pos : Nat} {result last : HibpResult}
    (boundary : Boundary buffer pos)
    (finished : scanResponse buffer suffix rounds pos result = some last) :
    Scanned buffer suffix pos result last := by
  induction rounds generalizing pos with
  | zero => cases finished
  | succ rounds inductionHypothesis =>
      unfold scanResponse at finished
      split at finished
      · next more =>
          dsimp only at finished
          split at finished
          · next count found =>
              cases finished
              exact .found (firstListed_here boundary more found)
          · next missing =>
              apply Scanned.skip boundary more missing
              exact inductionHypothesis (boundary_nextLine buffer pos) finished
      · next atEnd =>
          cases finished
          apply Scanned.absent
          intro start count listed begins
          obtain ⟨stop, run, _⟩ := listed
          have inList :=
            (run.inside start (Nat.le_refl _) run.nonempty).lt_length
          omega

/-! ## The count -/

/-- Digits are added up, with the wrap-around of 64 bits. -/
theorem parseCount_decimal {count : SecureBytes} (breachCount : Nat)
    (digits : ∀ c ∈ count, 0x30 ≤ c ∧ c ≤ 0x39) :
    parseCount count (Int64.ofNat breachCount) =
      Int64.ofNat ((count.map fun c => c.toNat - 0x30).foldl
        (fun number digit => 10 * number + digit) breachCount) := by
  induction count generalizing breachCount with
  | nil => rfl
  | cons c rest inductionHypothesis =>
      have digit := digits c List.mem_cons_self
      have others := fun other member =>
        digits other (List.mem_cons_of_mem c member)
      have step : Int64.ofNat breachCount * 10 +
          Int64.ofNat (c.toNat - 0x30) =
          Int64.ofNat (10 * breachCount + (c.toNat - 0x30)) := by
        rw [Int64.ofNat_add, Int64.ofNat_mul, Int64.mul_comm]
        rfl
      rw [parseCount, if_pos digit, step, inductionHypothesis _ others]
      rfl

/-- A count that fits is read as it is. -/
theorem parseCount_toInt {count : SecureBytes} (decimal : IsDecimal count)
    (fits : decimalValue count < 2 ^ 63) :
    (parseCount count 0).toInt = decimalValue count := by
  have value : parseCount count 0 = Int64.ofNat (decimalValue count) :=
    parseCount_decimal 0 decimal.2
  rw [value, Int64.toInt_ofNat_of_lt fits]

/-! ## Requests -/

/-- What `check_password` makes of a response with status 200 that it gets
after fewer than four rate limits. -/
theorem requestLoop_response {replies : Nat → CurlReply}
    {suffix : SecureString} {body : SecureBytes} (result : HibpResult)
    {attempt : Nat}
    (limited : ∀ earlier < attempt, ∃ refusal,
      replies earlier = .response 429 refusal)
    (answered : replies attempt = .response 200 body) {left retryCount : Nat}
    (before : retryCount ≤ attempt) (inTime : attempt ≤ maxRetries)
    (rounds : left + retryCount = maxRetries + 1) :
    requestLoop replies suffix left retryCount result =
      scanResponse body suffix (body.length + 1) 0 result := by
  induction left generalizing retryCount with
  | zero => omega
  | succ left inductionHypothesis =>
      unfold requestLoop
      rcases Nat.lt_or_eq_of_le before with earlier | rfl
      · obtain ⟨refusal, refused⟩ := limited retryCount earlier
        have goesOn : ¬ retryCount + 1 > maxRetries := by omega
        rw [refused]
        dsimp only
        rw [if_pos rfl, if_neg goesOn]
        exact inductionHypothesis earlier (by omega)
      · rw [answered]
        dsimp only
        rw [if_neg (by decide), if_neg (by decide)]

/-- After refusals for too many requests, the first answer decides. -/
theorem checkPassword_response {env : LookupEnv} {sha1 : SecureString}
    (long : 5 ≤ sha1.length) (initialized : env.initialized = true)
    {attempt : Nat} (inTime : attempt ≤ maxRetries)
    (limited : ∀ earlier < attempt, ∃ refusal,
      env.replies (sha1.take 5) earlier = .response 429 refusal)
    {body : SecureBytes}
    (answered : env.replies (sha1.take 5) attempt = .response 200 body) :
    ∃ result, checkPassword env sha1 = some result ∧
      Scanned body (sha1.drop 5) 0 ⟨false, 0, []⟩ result := by
  obtain ⟨result, finished⟩ :=
    Option.isSome_iff_exists.mp (checkPassword_isSome env sha1)
  refine ⟨result, finished, ?_⟩
  have short : ¬ sha1.length < 5 := Nat.not_lt.mpr long
  have ready : ¬ (!env.initialized) = true := by simp [initialized]
  rw [checkPassword, if_neg short, if_neg ready,
    requestLoop_response _ limited answered (Nat.zero_le _) inTime rfl]
    at finished
  exact scanResponse_spec (.inr (.inl rfl)) finished

/-! ## Main result -/

/-- For every response with status 200, whatever bytes it consists of: the
lookup comes to an end, it reports a breach exactly if some maximal run of
other bytes than CR and LF names the suffix, and if what stands behind the
colon in the first such run is a decimal number that fits in a `long`, that is
the count. -/
theorem breach_response_parsed (env : LookupEnv) (sha1 : SecureString)
    (long : 5 ≤ sha1.length) (initialized : env.initialized = true)
    (attempt : Nat) (inTime : attempt ≤ maxRetries)
    (limited : ∀ earlier < attempt, ∃ refusal,
      env.replies (sha1.take 5) earlier = .response 429 refusal)
    (body : SecureBytes)
    (answered : env.replies (sha1.take 5) attempt = .response 200 body) :
    ∃ result, checkPassword env sha1 = some result ∧
      (result.isPwned = true ↔
        ∃ start count, Listed body (sha1.drop 5) start count) ∧
      ∀ start count, FirstListed body (sha1.drop 5) 0 start count →
        IsDecimal count → decimalValue count < 2 ^ 63 →
          result.breachCount.toInt = decimalValue count := by
  obtain ⟨result, finished, scanned⟩ := checkPassword_response long
    initialized inTime limited answered
  refine ⟨result, finished, ?_⟩
  cases scanned with
  | @found start count first =>
      refine ⟨⟨fun _ => ⟨start, count, first.listed⟩, fun _ => rfl⟩, ?_⟩
      intro other otherCount otherFirst decimal fits
      have same : other = start := Nat.le_antisymm
        (otherFirst.first start count first.listed (Nat.zero_le _))
        (first.first other otherCount otherFirst.listed (Nat.zero_le _))
      rw [same] at otherFirst
      have sameCount := first.listed.count_unique otherFirst.listed
      rw [← sameCount] at decimal fits ⊢
      exact parseCount_toInt decimal fits
  | absent none =>
      refine ⟨⟨?_, ?_⟩, ?_⟩
      · intro impossible
        cases impossible
      · rintro ⟨start, count, listed⟩
        exact absurd (Nat.zero_le _) (none start count listed)
      · intro start count first
        exact absurd (Nat.zero_le _) (none start count first.listed)

/-- The line of the suffix with the count 120, line ends of three kinds, an
empty line and a line of another suffix without a line end behind it. -/
def mixedBody : SecureBytes :=
  textBytes "CD:120\r\n\n\rAB:7"

/-- The first request is refused, and the second is answered. -/
def mixedReplies : LookupEnv where
  initialized := true
  replies _ attempt :=
    if attempt = 0 then .response 429 [] else .response 200 mixedBody

theorem breach_response_parsed_mixed :
    ∃ result,
      checkPassword mixedReplies (textBytes "00000CD") = some result ∧
        result.isPwned = true ∧ result.breachCount.toInt = 120 := by
  have limited : ∀ earlier < 1, ∃ refusal,
      mixedReplies.replies ((textBytes "00000CD").take 5) earlier =
        .response 429 refusal := by
    intro earlier before
    rw [Nat.lt_one_iff.mp before]
    exact ⟨[], rfl⟩
  obtain ⟨result, finished, pwned, count⟩ :=
    breach_response_parsed mixedReplies (textBytes "00000CD") (by decide) rfl
      1 (by decide) limited mixedBody rfl
  have run : Scan.MaximalRun notLineEnd mixedBody 0 6 :=
    Scan.maximalRun_extent (.inl rfl) (by decide)
  have listed : Listed mixedBody ((textBytes "00000CD").drop 5) 0
      (textBytes "120") := ⟨6, run, rfl, by decide⟩
  refine ⟨result, finished, pwned.mpr ⟨0, _, listed⟩, ?_⟩
  exact count 0 (textBytes "120")
    ⟨listed, Nat.le_refl 0, fun other _ _ _ => Nat.zero_le other⟩
    (by decide) (by decide)

end DuckPass
