/-
Module: DuckPass.Proofs.AuditVerdict
Purpose: When the text of an online audit shows an entry as secure, and what
  has been checked of it then.
Trusted boundary: as for `DuckPass.Core.AuditEngine` and
  `DuckPass.Core.HibpChecker`.
Main exports: LookupCompletes, ChecksPassed, ShownSecure, Flagged,
  checkPassword_pwned, secure_means_checked_iff, failed_lookup_secure
-/
import DuckPass.Proofs.AuditReuse
import DuckPass.Proofs.AuditStale
import DuckPass.Proofs.HibpScanner

namespace DuckPass

variable {env : AuditEnv} {config : AuditConfig} {vault : Vault}

/-! ## Lookups -/

/-- After fewer than four rate limits the API answers with status 200. -/
structure Answers (lookup : LookupEnv) (sha1 : SecureString) (attempt : Nat)
    (body : SecureBytes) : Prop where
  initialized : lookup.initialized = true
  inTime : attempt ≤ maxRetries
  limited : ∀ earlier < attempt, ∃ refusal,
    lookup.replies (sha1.take 5) earlier = .response 429 refusal
  answered : lookup.replies (sha1.take 5) attempt = .response 200 body

/-- The loop reports a breach only from a response with status 200. -/
theorem requestLoop_pwned {replies : Nat → CurlReply} {suffix : SecureString}
    {left retryCount : Nat} {result last : HibpResult}
    (clean : result.isPwned = false)
    (rounds : left + retryCount = maxRetries + 1)
    (finished : requestLoop replies suffix left retryCount result = some last)
    (pwned : last.isPwned = true) :
    ∃ attempt body, attempt ≤ maxRetries ∧
      (∀ earlier, retryCount ≤ earlier → earlier < attempt →
        ∃ refusal, replies earlier = .response 429 refusal) ∧
      replies attempt = .response 200 body := by
  induction left generalizing retryCount with
  | zero =>
      cases finished
      rw [clean] at pwned
      cases pwned
  | succ left inductionHypothesis =>
      unfold requestLoop at finished
      split at finished
      · cases finished
        exact absurd (clean.symm.trans pwned) Bool.false_ne_true
      · next code body replied =>
          split at finished
          · next limit =>
              split at finished
              · cases finished
                exact absurd (clean.symm.trans pwned) Bool.false_ne_true
              · obtain ⟨attempt, later, inTime, limited, answered⟩ :=
                  inductionHypothesis (by omega) finished
                refine ⟨attempt, later, inTime, ?_, answered⟩
                intro earlier since before
                rcases Nat.lt_or_eq_of_le since with after | rfl
                · exact limited earlier after before
                · exact ⟨body, limit ▸ replied⟩
          · split at finished
            · cases finished
              exact absurd (clean.symm.trans pwned) Bool.false_ne_true
            · next other =>
                refine ⟨retryCount, body, by omega, ?_,
                  (not_not.mp other) ▸ replied⟩
                intro earlier since before
                exact absurd before (Nat.not_lt.mpr since)

theorem checkPassword_pwned {lookup : LookupEnv} {sha1 : SecureString}
    {result : HibpResult} (finished : checkPassword lookup sha1 = some result)
    (pwned : result.isPwned = true) :
    ∃ attempt body, Answers lookup sha1 attempt body := by
  unfold checkPassword at finished
  split at finished
  · cases finished
    cases pwned
  · split at finished
    · cases finished
      cases pwned
    · next ready =>
        obtain ⟨attempt, body, inTime, limited, answered⟩ :=
          requestLoop_pwned rfl (Nat.add_zero _) finished pwned
        refine ⟨attempt, body, by simpa using ready, inTime, ?_, answered⟩
        exact fun earlier => limited earlier (Nat.zero_le _)

/-- What a lookup that is answered says of the suffix. -/
theorem Answers.isPwned_iff {lookup : LookupEnv} {sha1 : SecureString}
    {attempt : Nat} {body : SecureBytes}
    (answers : Answers lookup sha1 attempt body) (long : 5 ≤ sha1.length)
    {result : HibpResult} (finished : checkPassword lookup sha1 = some result) :
    result.isPwned = true ↔
      ∃ start count, Listed body (sha1.drop 5) start count := by
  obtain ⟨other, same, scanned⟩ := checkPassword_response long
    answers.initialized answers.inTime answers.limited answers.answered
  cases finished.symm.trans same
  cases scanned with
  | @found start count first =>
      exact iff_of_true rfl ⟨start, count, first.listed⟩
  | absent none =>
      apply iff_of_false Bool.false_ne_true
      rintro ⟨start, count, listed⟩
      exact none start count listed (Nat.zero_le _)

theorem length_sha1Of (env : AuditEnv) (password : SecureString) :
    5 ≤ (sha1Of env password).length := by
  have pairs : ∀ bytes : SecureBytes,
      (bytes.flatMap (hexByte true)).length = 2 * bytes.length := by
    intro bytes
    induction bytes with
    | nil => rfl
    | cons byte bytes inductionHypothesis =>
        rw [List.flatMap_cons, List.length_append, inductionHypothesis,
          List.length_cons, Nat.mul_succ, Nat.add_comm]
        rfl
  rw [sha1Of, pairs, (env.digests.sha1 password).property]
  decide

/-- The lookup for the entry completes with a 200 response, and the thread hands
the result over. -/
def LookupCompletes (env : AuditEnv) (index : Nat) (entry : VaultEntry)
    (body : SecureBytes) : Prop :=
  (env.calls index).thread = none ∧
    ∃ attempt, Answers (env.calls index).lookup (sha1Of env entry.password)
      attempt body

theorem finalHibp_isPwned_iff {index : Nat} {entry : VaultEntry} :
    (finalHibp (outcomeAt env index entry)).isPwned = true ↔
      ∃ body, LookupCompletes env index entry body ∧
        ∃ start count, Listed body ((sha1Of env entry.password).drop 5) start
          count := by
  unfold outcomeAt EntryCalls.outcome
  cases thread : (env.calls index).thread with
  | some exception =>
      apply iff_of_false
      · cases exception <;> exact Bool.false_ne_true
      · rintro ⟨_, ⟨handed, _⟩, _⟩
        rw [thread] at handed
        cases handed
  | none =>
      have finished := Option.some_get (checkPassword_isSome
        (env.calls index).lookup (sha1Of env entry.password))
      constructor
      · intro pwned
        obtain ⟨attempt, body, answers⟩ :=
          checkPassword_pwned finished.symm pwned
        exact ⟨body, ⟨thread, attempt, answers⟩,
          (answers.isPwned_iff (length_sha1Of _ _) finished.symm).mp pwned⟩
      · rintro ⟨body, ⟨_, attempt, answers⟩, listed⟩
        exact (answers.isPwned_iff (length_sha1Of _ _) finished.symm).mpr
          listed

/-! ## The text -/

/-- In the text of the report the line of the entry says "Secure". -/
def ShownSecure (report : AuditReport) (index : Nat) : Prop :=
  ∃ result, report.entries[index]? = some result ∧
    printReport report =
      reportHeader ++ (report.entries.take index).flatMap printEntry ++
        (printColumns result ++ textBytes "Secure" ++ textBytes "\n") ++
        (report.entries.drop (index + 1)).flatMap printEntry ++
        reportSummary report

theorem issues_eq_nil_iff {result : EntryAuditResult} :
    issues result = [] ↔
      result.entropy.isWeak = false ∧ result.hibp.isPwned = false ∧
        result.isReused = false ∧ result.isStale = false := by
  simp only [issues, List.append_eq_nil_iff, and_assoc]
  have empty : ∀ (flag : Bool) (text : SecureBytes),
      (if flag then [text] else []) = [] ↔ flag = false := by
    intro flag text
    cases flag <;> simp
  simp only [empty]

/-- No issue begins like the word that stands for none. -/
theorem take_issue {result : EntryAuditResult} {issue : SecureBytes}
    (member : issue ∈ issues result) :
    2 ≤ issue.length ∧ issue.take 2 ≠ (textBytes "Secure").take 2 := by
  have listed : ∀ (flag : Bool) (text : SecureBytes),
      issue ∈ (if flag then [text] else []) → issue = text := by
    intro flag text inside
    cases flag with
    | false => cases inside
    | true => exact List.mem_singleton.mp inside
  simp only [issues, List.mem_append] at member
  rcases member with ((weak | pwned) | reused) | stale
  · rw [listed _ _ weak]
    decide
  · rw [listed _ _ pwned]
    simp only [textBytes, String.toList_append, List.map_append,
      List.append_assoc]
    refine ⟨by simp, ?_⟩
    rw [List.take_append_of_le_length (by decide)]
    decide
  · rw [listed _ _ reused]
    decide
  · rw [listed _ _ stale]
    decide

theorem issuesColumn_eq_secure_iff {result : EntryAuditResult} :
    issuesColumn result = textBytes "Secure" ↔ issues result = [] := by
  constructor
  · intro secure
    cases found : issues result with
    | nil => rfl
    | cons issue rest =>
        have differs := @take_issue result issue
          (found ▸ List.mem_cons_self)
        obtain ⟨behind, column⟩ : ∃ behind,
            issuesColumn result = issue ++ behind := by
          rw [issuesColumn, found, if_neg (by simp)]
          cases rest with
          | nil => exact ⟨[], by simp [List.intercalate]⟩
          | cons => exact ⟨_, rfl⟩
        rw [column] at secure
        have front := congrArg (List.take 2) secure
        rw [List.take_append_of_le_length differs.1] at front
        exact absurd front differs.2
  · intro none
    rw [issuesColumn, none]
    rfl

theorem shownSecure_iff {report : AuditReport} {index : Nat}
    {result : EntryAuditResult}
    (present : report.entries[index]? = some result) :
    ShownSecure report index ↔ issues result = [] := by
  have split : report.entries = report.entries.take index ++
      result :: report.entries.drop (index + 1) := by
    obtain ⟨inside, rfl⟩ := List.getElem?_eq_some_iff.mp present
    rw [List.getElem_cons_drop, List.take_append_drop]
  have printed : printReport report =
      reportHeader ++ (report.entries.take index).flatMap printEntry ++
        (printColumns result ++ issuesColumn result ++ textBytes "\n") ++
        (report.entries.drop (index + 1)).flatMap printEntry ++
        reportSummary report := by
    rw [printReport]
    conv_lhs => rw [split]
    simp [printEntry]
  rw [← issuesColumn_eq_secure_iff]
  constructor
  · rintro ⟨other, otherPresent, text⟩
    cases present.symm.trans otherPresent
    rw [printed] at text
    simpa using text
  · intro secure
    exact ⟨result, present, by rw [printed, secure]⟩

/-! ## Main result -/

/-- Every check has been made and passed. -/
structure ChecksPassed (env : AuditEnv) (config : AuditConfig) (vault : Vault)
    (index : Nat) (entry : VaultEntry) : Prop where
  notWeak : ∃ score, EntropyEvaluator.evaluate (env.calls index).exchange
    entry.password = .ok score ∧ score.isWeak = false
  notReused : ¬ ∃ other, other ≠ index ∧
    HasPassword vault entry.password other
  notStale : ¬ Aged env.now config.staleThresholdSeconds entry.lastUpdated
  notBreached : ∃ body, LookupCompletes env index entry body ∧
    ¬ ∃ start count,
      Listed body ((sha1Of env entry.password).drop 5) start count

/-- Something else than a breach is the matter with the entry, or its memory
says so. -/
def Flagged (env : AuditEnv) (config : AuditConfig) (vault : Vault)
    (index : Nat) (entry : VaultEntry) : Prop :=
  (scoreAt env index entry).isWeak = true ∨
    (env.calls index).indeterminate.isReused = true ∨
    (∃ other second, other ≠ index ∧ vault.entries[other]? = some second ∧
      hashOf env second.password = hashOf env entry.password) ∨
    isStale env.now config entry.lastUpdated = true

/-- What the report shows as secure. -/
theorem issues_finishedResult {index : Nat} {entry : VaultEntry}
    (online : config.checkOnline = true)
    (present : vault.entries[index]? = some entry) :
    issues (finishedResult env config vault.entries index entry) = [] ↔
      ¬ Flagged env config vault index entry ∧
        (finalHibp (outcomeAt env index entry)).isPwned = false := by
  rw [issues_eq_nil_iff, Flagged, ← one_lt_sharing present]
  simp only [finishedResult, freshResult, online, if_true,
    Bool.or_eq_false_iff, decide_eq_false_iff_not, not_or,
    Bool.not_eq_true]
  tauto

/-- An entry that nothing flags and whose lookup completed without a breach has
passed every check. -/
theorem checksPassed_of_unflagged {index : Nat} {entry : VaultEntry}
    {body : SecureBytes}
    (evaluates : ∃ score, EntropyEvaluator.evaluate
      (env.calls index).exchange entry.password = .ok score)
    (unflagged : ¬ Flagged env config vault index entry)
    (completes : LookupCompletes env index entry body)
    (clean : (finalHibp (outcomeAt env index entry)).isPwned = false) :
    ChecksPassed env config vault index entry := by
  simp only [Flagged, not_or] at unflagged
  obtain ⟨strong, _, alone, fresh⟩ := unflagged
  obtain ⟨score, evaluated⟩ := evaluates
  constructor
  · refine ⟨score, evaluated, ?_⟩
    have scored : scoreAt env index entry = score := by
      rw [scoreAt, evaluated]
    rw [← scored]
    exact Bool.eq_false_iff.mpr strong
  · rintro ⟨other, differs, found⟩
    obtain ⟨second, secondPresent, same⟩ := Option.map_eq_some_iff.mp found
    exact alone ⟨other, second, differs, secondPresent, by rw [same]⟩
  · intro aged
    apply fresh
    have past := (@isStale_iff env.now _ config).mpr fun future =>
      absurd aged.2.1 (UInt64.not_le.mpr future)
    rw [past]
    exact decide_eq_true aged
  · refine ⟨body, completes, ?_⟩
    intro listed
    exact absurd (finalHibp_isPwned_iff.mpr ⟨body, completes, listed⟩)
      (by simp [clean])

/-- In the text of an online audit "Secure" means that every check has passed,
if and only if each entry whose lookup does not complete with a 200 response is
flagged for something else. -/
theorem secure_means_checked_iff (env : AuditEnv) (vault : Vault)
    (config : AuditConfig) (report : AuditReport)
    (online : config.checkOnline = true)
    (returned : runAudit env vault config = .ok report) :
    (∀ index entry, vault.entries[index]? = some entry →
      ShownSecure report index → ChecksPassed env config vault index entry) ↔
    ∀ index entry, vault.entries[index]? = some entry →
      (∃ body, LookupCompletes env index entry body) ∨
        Flagged env config vault index entry := by
  obtain ⟨proceeds, rfl⟩ := runAudit_eq_ok.mp returned
  have shown : ∀ {index entry}, vault.entries[index]? = some entry →
      (ShownSecure (describedReport env config vault.entries) index ↔
        ¬ Flagged env config vault index entry ∧
          (finalHibp (outcomeAt env index entry)).isPwned = false) := by
    intro index entry present
    rw [← issues_finishedResult online present]
    apply shownSecure_iff
    simp only [describedReport, getElem?_finishedResults, present,
      Option.map_some]
  constructor
  · intro secure index entry present
    by_contra unchecked
    obtain ⟨incomplete, unflagged⟩ := not_or.mp unchecked
    have clean : (finalHibp (outcomeAt env index entry)).isPwned = false := by
      rw [← Bool.not_eq_true, finalHibp_isPwned_iff]
      rintro ⟨body, completes, _⟩
      exact incomplete ⟨body, completes⟩
    obtain ⟨body, completes, _⟩ := (secure index entry present
      ((shown present).mpr ⟨unflagged, clean⟩)).notBreached
    exact incomplete ⟨body, completes⟩
  · intro checked index entry present secure
    obtain ⟨unflagged, clean⟩ := (shown present).mp secure
    obtain ⟨body, completes⟩ :=
      (checked index entry present).resolve_right unflagged
    exact checksPassed_of_unflagged (proceeds (entry, index)
      (List.mem_zipIdx_iff_getElem?.mpr present)).evaluated unflagged
        completes clean

namespace AuditVerdict

/-- The host cannot be resolved. -/
def noNetwork : LookupEnv where
  initialized := true
  replies _ _ := .failed (textBytes "Couldn't resolve host name")

def accounts : Vault := Vault.empty.store (Symbolic.entry 0x41 7)

def surroundings (lookup : LookupEnv) : AuditEnv :=
  let quiet := Symbolic.audit 7 false accounts
  { quiet with
    calls := fun index => { quiet.calls index with lookup := lookup } }

def online : AuditConfig := { checkOnline := true }

def report (lookup : LookupEnv) : AuditReport :=
  describedReport (surroundings lookup) online accounts.entries

theorem returned (lookup : LookupEnv) :
    runAudit (surroundings lookup) accounts online = .ok (report lookup) := by
  apply runAudit_eq_ok.mpr ⟨?_, rfl⟩
  rintro ⟨entry, index⟩ member
  have present := List.mem_zipIdx_iff_getElem?.mp member
  constructor
  · apply (EntropyEvaluator.evaluate_eq_ok rfl
      (Symbolic.answered_audit 7 false present)).mpr
    have answerable : ∀ entry ∈ accounts.entries,
        Answerable entry.password := by
      decide +kernel
    exact answerable entry (List.mem_of_getElem? present)
  · rfl
  · exact fun _ => ⟨rfl, rfl⟩

theorem shown {lookup : LookupEnv}
    (clean : ((report lookup).entries.map issues)[0]? = some []) :
    ShownSecure (report lookup) 0 := by
  rw [List.getElem?_map] at clean
  obtain ⟨result, present, none⟩ := Option.map_eq_some_iff.mp clean
  exact (shownSecure_iff present).mpr none

end AuditVerdict

/-- Without a network every lookup fails, and the entry is shown as secure. -/
theorem failed_lookup_secure :
    ¬ ∀ (env : AuditEnv) (vault : Vault) (config : AuditConfig)
        (report : AuditReport), config.checkOnline = true →
      runAudit env vault config = .ok report →
      ∀ index entry, vault.entries[index]? = some entry →
        ShownSecure report index →
        ChecksPassed env config vault index entry := by
  intro secure
  have shown : ShownSecure (AuditVerdict.report AuditVerdict.noNetwork) 0 :=
    AuditVerdict.shown (by decide +kernel)
  obtain ⟨body, ⟨_, attempt, answers⟩, _⟩ := (secure _ _ _ _ rfl
    (AuditVerdict.returned AuditVerdict.noNetwork) 0 _ rfl shown).notBreached
  cases answers.answered

/-- With a network the entry is shown as secure after all checks. -/
theorem secure_means_checked_iff_network :
    ShownSecure (AuditVerdict.report Symbolic.noBreaches) 0 ∧
      ∀ index entry, AuditVerdict.accounts.entries[index]? = some entry →
        ShownSecure (AuditVerdict.report Symbolic.noBreaches) index →
        ChecksPassed (AuditVerdict.surroundings Symbolic.noBreaches)
          AuditVerdict.online AuditVerdict.accounts index entry := by
  refine ⟨AuditVerdict.shown (by decide +kernel), ?_⟩
  apply (secure_means_checked_iff _ _ _ _ rfl
    (AuditVerdict.returned Symbolic.noBreaches)).mpr
  intro index entry _
  exact .inl ⟨[], rfl, 0, rfl, Nat.zero_le _,
    fun earlier before => absurd before (Nat.not_lt_zero earlier), rfl⟩

end DuckPass
