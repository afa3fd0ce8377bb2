/-
Module: DuckPass.Proofs.AuditReport
Purpose: When `run_audit` returns, and what its report says of every entry.
Trusted boundary: as for `DuckPass.Core.AuditEngine`.
Main exports: Proceeds, sharing, finishedResult, describedReport,
  runAudit_eq_ok
-/
import Mathlib.Data.List.Flatten
import DuckPass.Core.AuditEngine

namespace DuckPass

variable {env : AuditEnv} {config : AuditConfig}

/-! ## One round -/

/-- The key of a password in the hash map. -/
def hashOf (env : AuditEnv) (password : SecureString) : SecureString :=
  (env.digests.sha256 password).val.flatMap (hexByte false)

/-- What a lookup is made with. -/
def sha1Of (env : AuditEnv) (password : SecureString) : SecureString :=
  (env.digests.sha1 password).val.flatMap (hexByte true)

/-- What the lookup of an entry gives. -/
def outcomeAt (env : AuditEnv) (index : Nat) (entry : VaultEntry) :
    Except ThreadException HibpResult :=
  (env.calls index).outcome (sha1Of env entry.password)

/-- The round for an entry throws nothing. -/
structure Proceeds (env : AuditEnv) (config : AuditConfig) (index : Nat)
    (entry : VaultEntry) : Prop where
  evaluated : ∃ score, EntropyEvaluator.evaluate (env.calls index).exchange
    entry.password = .ok score
  hashed : (env.calls index).sha256Fault = none
  started : config.checkOnline = true →
    (env.calls index).sha1Fault = none ∧ (env.calls index).asyncFault = none

/-- The score that the evaluator answers. -/
def scoreAt (env : AuditEnv) (index : Nat) (entry : VaultEntry) :
    EntropyScore :=
  match EntropyEvaluator.evaluate (env.calls index).exchange entry.password
      with
  | .ok score => score
  | .error _ => default

/-- The result that a round pushes. -/
def freshResult (env : AuditEnv) (config : AuditConfig) (index : Nat)
    (entry : VaultEntry) : EntryAuditResult where
  service := cString entry.service
  username := cString entry.username
  entropy := scoreAt env index entry
  hibp :=
    if config.checkOnline then
      ⟨(env.calls index).indeterminate.isPwned,
        (env.calls index).indeterminate.breachCount, []⟩
    else ⟨false, 0, textBytes "Online check disabled"⟩
  isReused := (env.calls index).indeterminate.isReused
  reusedWith := []
  isStale := isStale env.now config entry.lastUpdated
  lastUpdated := entry.lastUpdated

/-- What a round makes of the progress. -/
def AuditProgress.advance (progress : AuditProgress) (env : AuditEnv)
    (config : AuditConfig) (index : Nat) (entry : VaultEntry) :
    AuditProgress where
  report := progress.report.push (freshResult env config index entry)
  hashToIndices :=
    Grouping.insert (hashOf env entry.password) index progress.hashToIndices
  hibpFutures := progress.hibpFutures ++
    if config.checkOnline then [outcomeAt env index entry] else []

/-- A call that returns in the audit returns by itself. -/
theorem liftError_eq_ok {α : Type} {call : Except DuckpassError α}
    {value : α} : liftError call = .ok value ↔ call = .ok value := by
  cases call <;> simp [liftError]

/-- A hash is computed if OpenSSL does not fail, and is the digest in
hexadecimal. -/
theorem computeHash_eq_ok {size : Nat} {fault : Option String}
    {digest : SecureBytes → Bytes size} {uppercase : Bool}
    {input hash : SecureString} :
    computeHash fault digest uppercase input = .ok hash ↔
      fault = none ∧ (digest input).val.flatMap (hexByte uppercase) = hash := by
  cases fault <;> simp [computeHash]

/-- A lookup is started if its hash and its thread can be made. -/
theorem startLookup_eq_ok {index : Nat} {entry : VaultEntry}
    {started : HibpResult × List (Except ThreadException HibpResult)} :
    startLookup env config index entry.password = .ok started ↔
      (config.checkOnline = true → (env.calls index).sha1Fault = none ∧
        (env.calls index).asyncFault = none) ∧
      started = ((freshResult env config index entry).hibp,
        if config.checkOnline then [outcomeAt env index entry] else []) := by
  unfold startLookup
  cases online : config.checkOnline with
  | false => simp [online, freshResult, pure, Except.pure, eq_comm]
  | true =>
      simp only [if_true, bind_eq_ok, liftError_eq_ok, computeSha1,
        computeHash_eq_ok, freshResult, online, outcomeAt, sha1Of]
      cases threads : (env.calls index).asyncFault with
      | none => simp [pure, Except.pure, eq_comm]
      | some message => simp [throw, throwThe, MonadExceptOf.throw]

/-- A round returns if its calls do, and then its results are known. -/
theorem auditEntry_eq_ok {index : Nat} {entry : VaultEntry}
    {progress next : AuditProgress} :
    auditEntry env config index entry progress = .ok next ↔
      Proceeds env config index entry ∧
        next = progress.advance env config index entry := by
  simp only [auditEntry, bind_eq_ok, liftError_eq_ok, computeSha256,
    computeHash_eq_ok, startLookup_eq_ok]
  constructor
  · rintro ⟨score, evaluated, hash, ⟨hashed, rfl⟩, started, ⟨ready, rfl⟩, last⟩
    refine ⟨⟨⟨score, evaluated⟩, hashed, ready⟩, ?_⟩
    cases last
    have scored : scoreAt env index entry = score := by
      rw [scoreAt, evaluated]
    rw [← scored]
    rfl
  · rintro ⟨⟨⟨score, evaluated⟩, hashed, ready⟩, rfl⟩
    refine ⟨score, evaluated, _, ⟨hashed, rfl⟩, _, ⟨ready, rfl⟩, ?_⟩
    have scored : scoreAt env index entry = score := by
      rw [scoreAt, evaluated]
    rw [← scored]
    rfl

/-! ## The loop -/

/-- The results that the rounds push. -/
def freshResults (env : AuditEnv) (config : AuditConfig) (index : Nat)
    (entries : List VaultEntry) : List EntryAuditResult :=
  (entries.zipIdx index).map fun item => freshResult env config item.2 item.1

/-- The hashes of the passwords with the indices of their entries. -/
def hashItems (env : AuditEnv) (index : Nat) (entries : List VaultEntry) :
    List (SecureString × Nat) :=
  (entries.zipIdx index).map fun item => (hashOf env item.1.password, item.2)

def outcomes (env : AuditEnv) (config : AuditConfig) (index : Nat)
    (entries : List VaultEntry) : List (Except ThreadException HibpResult) :=
  if config.checkOnline then
    (entries.zipIdx index).map fun item => outcomeAt env item.2 item.1
  else []

/-- What the loop makes of the progress. -/
def AuditProgress.advanceAll (progress : AuditProgress) (env : AuditEnv)
    (config : AuditConfig) (index : Nat) (entries : List VaultEntry) :
    AuditProgress where
  report :=
    { progress.report with
      entries := progress.report.entries ++
        freshResults env config index entries
      weakPasswords := progress.report.weakPasswords +
        (freshResults env config index entries).countP (·.entropy.isWeak)
      stalePasswords := progress.report.stalePasswords +
        (freshResults env config index entries).countP (·.isStale) }
  hashToIndices := (hashItems env index entries).foldl
    (fun buckets item => Grouping.insert item.1 item.2 buckets)
    progress.hashToIndices
  hibpFutures := progress.hibpFutures ++ outcomes env config index entries

theorem advanceAll_nil (progress : AuditProgress) (index : Nat) :
    progress.advanceAll env config index [] = progress := by
  simp [AuditProgress.advanceAll, freshResults, hashItems, outcomes]

theorem advanceAll_cons (progress : AuditProgress) (index : Nat)
    (entry : VaultEntry) (entries : List VaultEntry) :
    progress.advanceAll env config index (entry :: entries) =
      (progress.advance env config index entry).advanceAll env config
        (index + 1) entries := by
  have counted : ∀ (p : EntryAuditResult → Bool) (count : Nat),
      count + (freshResults env config index (entry :: entries)).countP p =
        (if p (freshResult env config index entry) then count + 1 else count) +
          (freshResults env config (index + 1) entries).countP p := by
    intro p count
    simp only [freshResults, List.zipIdx_cons, List.map_cons, List.countP_cons]
    split <;> omega
  have started : outcomes env config index (entry :: entries) =
      (if config.checkOnline then [outcomeAt env index entry] else []) ++
        outcomes env config (index + 1) entries := by
    unfold outcomes
    split <;> rfl
  simp only [AuditProgress.advanceAll, AuditProgress.advance, AuditReport.push,
    counted, started, List.append_assoc]
  rfl

/-- All rounds return if each does. -/
theorem auditEntries_eq_ok {index : Nat} {entries : List VaultEntry}
    {progress last : AuditProgress} :
    auditEntries env config index entries progress = .ok last ↔
      (∀ item ∈ entries.zipIdx index, Proceeds env config item.2 item.1) ∧
        last = progress.advanceAll env config index entries := by
  induction entries generalizing index progress with
  | nil => simp [auditEntries, advanceAll_nil, eq_comm]
  | cons entry entries inductionHypothesis =>
      rw [auditEntries, bind_eq_ok, advanceAll_cons, List.zipIdx_cons,
        List.forall_mem_cons]
      constructor
      · rintro ⟨next, first, rest⟩
        obtain ⟨proceeds, rfl⟩ := auditEntry_eq_ok.mp first
        obtain ⟨others, same⟩ := inductionHypothesis.mp rest
        exact ⟨⟨proceeds, others⟩, same⟩
      · rintro ⟨⟨proceeds, others⟩, same⟩
        exact ⟨_, auditEntry_eq_ok.mpr ⟨proceeds, rfl⟩,
          inductionHypothesis.mpr ⟨others, same⟩⟩

/-! ## Finalisation -/

/-- What step 5 does to the result at `idx`. -/
def marked (serviceAt : Nat → SecureBytes) (indices : List Nat) (idx : Nat)
    (result : EntryAuditResult) : EntryAuditResult :=
  { result with
    isReused := true
    reusedWith := result.reusedWith ++
      (indices.filter (idx ≠ ·)).map serviceAt }

/-- Marking a result does not change whose it is. -/
theorem serviceAt_markReused (indices : List Nat) (report : AuditReport)
    (idx : Nat) : (markReused indices report idx).serviceAt =
      report.serviceAt := by
  have same : (markReused indices report idx).entries.map
      EntryAuditResult.service =
        report.entries.map EntryAuditResult.service := by
    apply List.ext_getElem?
    intro index
    simp only [markReused, List.getElem?_map, List.getElem?_modify]
    cases report.entries[index]? with
    | none => rfl
    | some result => by_cases here : idx = index <;> simp [here]
  funext index
  rw [AuditReport.serviceAt, AuditReport.serviceAt, same]

/-- Marking several results. -/
theorem foldl_markReused (indices idxs : List Nat) (report : AuditReport) :
    (idxs.foldl (markReused indices) report).serviceAt = report.serviceAt ∧
      idxs.foldl (markReused indices) report =
        { report with
          entries := idxs.foldl (fun entries idx =>
            entries.modify idx (marked report.serviceAt indices idx))
            report.entries } := by
  induction idxs generalizing report with
  | nil => exact ⟨rfl, rfl⟩
  | cons idx idxs inductionHypothesis =>
      obtain ⟨services, folded⟩ :=
        inductionHypothesis (markReused indices report idx)
      rw [serviceAt_markReused] at services folded
      exact ⟨services, folded⟩

/-- The buckets that step 5 looks at. -/
def shared (buckets : List (List Nat)) : List (List Nat) :=
  buckets.filter (1 < ·.length)

/-- The buckets with more than one index. -/
theorem mem_shared {buckets : List (List Nat)} {bucket : List Nat} :
    bucket ∈ shared buckets ↔ bucket ∈ buckets ∧ 1 < bucket.length := by
  simp [shared]

/-- Step 5 over all buckets. -/
theorem foldl_finalizeIndices (buckets : List (List Nat))
    (report : AuditReport) :
    buckets.foldl finalizeIndices report =
      { report with
        entries := (shared buckets).foldl
          (Grouping.updateBucket (marked report.serviceAt)) report.entries
        reusedPasswords := report.reusedPasswords +
          (shared buckets).length } := by
  induction buckets generalizing report with
  | nil => rfl
  | cons indices buckets inductionHypothesis =>
      rw [List.foldl_cons, inductionHypothesis]
      unfold finalizeIndices
      by_cases many : 1 < indices.length
      · obtain ⟨services, folded⟩ := foldl_markReused indices indices
          { report with reusedPasswords := report.reusedPasswords + 1 }
        have first : shared (indices :: buckets) =
            indices :: shared buckets :=
          List.filter_cons_of_pos (decide_eq_true many)
        have same : AuditReport.serviceAt
            { report with reusedPasswords := report.reusedPasswords + 1 } =
              report.serviceAt := rfl
        rw [if_pos many, services, folded, same, first]
        simp only [List.foldl_cons, Grouping.updateBucket, List.length_cons]
        congr 1
        omega
      · have first : shared (indices :: buckets) = shared buckets :=
          List.filter_cons_of_neg (by simpa using many)
        rw [if_neg many, first]

/-- Step 6 fills in the lookup of every result that has one. -/
theorem finalizeHibp_entries (index : Nat)
    (futures : List (Except ThreadException HibpResult))
    (report : AuditReport) (other : Nat) :
    (finalizeHibp index futures report).entries[other]? =
      report.entries[other]?.map fun result =>
        if index ≤ other then
          match futures[other - index]? with
          | some future => { result with hibp := finalHibp future }
          | none => result
        else result := by
  induction futures generalizing index report with
  | nil => simp [finalizeHibp]
  | cons future futures inductionHypothesis =>
      rw [finalizeHibp, inductionHypothesis, List.getElem?_modify]
      cases report.entries[other]? with
      | none => rfl
      | some result =>
          rcases Nat.lt_trichotomy index other with before | rfl | after
          · have next : other - index = other - (index + 1) + 1 := by omega
            simp [Nat.ne_of_lt before, Nat.le_of_lt before,
              Nat.succ_le_of_lt before, next]
          · simp
          · simp [Nat.ne_of_gt after, Nat.not_le.mpr after,
              show ¬ index + 1 ≤ other by omega]

/-- And counts those that were found. -/
theorem finalizeHibp_counts (index : Nat)
    (futures : List (Except ThreadException HibpResult))
    (report : AuditReport) :
    finalizeHibp index futures report =
      { report with
        entries := (finalizeHibp index futures report).entries
        pwnedPasswords := report.pwnedPasswords +
          futures.countP fun future => (finalHibp future).isPwned } := by
  induction futures generalizing index report with
  | nil => rfl
  | cons future futures inductionHypothesis =>
      rw [finalizeHibp, inductionHypothesis, List.countP_cons]
      congr 1
      split
      · exact Nat.add_right_comm _ _ _
      · rfl

/-! ## The report -/

/-- The indices of the entries whose password has the same hash. -/
def sharing (env : AuditEnv) (entries : List VaultEntry)
    (password : SecureString) : List Nat :=
  Grouping.itemsOf (hashOf env password) (hashItems env 0 entries)

/-- The service that the report says an entry is of. -/
def reportedService (entries : List VaultEntry) (index : Nat) : SecureBytes :=
  (entries.map fun entry => cString entry.service).getD index []

/-- What the report says of an entry. -/
def finishedResult (env : AuditEnv) (config : AuditConfig)
    (entries : List VaultEntry) (index : Nat) (entry : VaultEntry) :
    EntryAuditResult :=
  { freshResult env config index entry with
    hibp :=
      if config.checkOnline then finalHibp (outcomeAt env index entry)
      else ⟨false, 0, textBytes "Online check disabled"⟩
    isReused := (env.calls index).indeterminate.isReused ||
      decide (1 < (sharing env entries entry.password).length)
    reusedWith := ((sharing env entries entry.password).filter
      (index ≠ ·)).map (reportedService entries) }

def finishedResults (env : AuditEnv) (config : AuditConfig)
    (entries : List VaultEntry) : List EntryAuditResult :=
  entries.zipIdx.map fun item =>
    finishedResult env config entries item.2 item.1

def describedReport (env : AuditEnv) (config : AuditConfig)
    (entries : List VaultEntry) : AuditReport where
  entries := finishedResults env config entries
  totalEntries := entries.length
  weakPasswords :=
    (finishedResults env config entries).countP (·.entropy.isWeak)
  pwnedPasswords :=
    (finishedResults env config entries).countP (·.hibp.isPwned)
  reusedPasswords :=
    (shared ((Grouping.group (hashItems env 0 entries)).map Prod.snd)).length
  stalePasswords := (finishedResults env config entries).countP (·.isStale)

/-- A count that does not look at what the finalisation changes. -/
theorem countP_finishedResults {p : EntryAuditResult → Bool}
    (entries : List VaultEntry)
    (same : ∀ index entry, p (finishedResult env config entries index entry) =
      p (freshResult env config index entry)) :
    (finishedResults env config entries).countP p =
      (freshResults env config 0 entries).countP p := by
  simp only [finishedResults, freshResults, List.countP_map]
  congr 1
  funext item
  exact same item.2 item.1

/-- Every entry has its own index. -/
theorem nodup_hashItems (entries : List VaultEntry) :
    ((hashItems env 0 entries).map Prod.snd).Nodup := by
  have indices : (hashItems env 0 entries).map Prod.snd =
      (List.range entries.length) := by
    simp only [hashItems, List.map_map, List.range_eq_range']
    exact List.zipIdx_map_snd 0 entries
  rw [indices]
  exact List.nodup_range

/-- An index stands beside the hash of its entry. -/
theorem mem_hashItems {entries : List VaultEntry} {hash : SecureString}
    {index : Nat} :
    (hash, index) ∈ hashItems env 0 entries ↔
      ∃ entry, entries[index]? = some entry ∧
        hashOf env entry.password = hash := by
  simp [hashItems, List.mem_zipIdx_iff_getElem?]

/-- The entries that share a hash with a password. -/
theorem mem_sharing {entries : List VaultEntry} {password : SecureString}
    {index : Nat} :
    index ∈ sharing env entries password ↔
      ∃ entry, entries[index]? = some entry ∧
        hashOf env entry.password = hashOf env password := by
  rw [← mem_hashItems]
  simp [sharing, Grouping.itemsOf]

/-- Each is counted once. -/
theorem nodup_sharing (entries : List VaultEntry) (password : SecureString) :
    (sharing env entries password).Nodup :=
  (nodup_hashItems entries).sublist (List.filter_sublist.map Prod.snd)

/-- A hash occurs more than once if and only if another entry has it. -/
theorem one_lt_sharing {entries : List VaultEntry} {index : Nat}
    {entry : VaultEntry} (present : entries[index]? = some entry) :
    1 < (sharing env entries entry.password).length ↔
      ∃ other second, other ≠ index ∧ entries[other]? = some second ∧
        hashOf env second.password = hashOf env entry.password := by
  have inside : index ∈ sharing env entries entry.password :=
    mem_sharing.mpr ⟨entry, present, rfl⟩
  have once := @nodup_sharing env entries entry.password
  have rest := List.length_erase_of_mem inside
  constructor
  · intro many
    obtain ⟨other, left⟩ := List.exists_mem_of_length_pos
      (show 0 < ((sharing env entries entry.password).erase index).length by
        omega)
    obtain ⟨differs, found⟩ := once.mem_erase_iff.mp left
    obtain ⟨second, secondPresent, same⟩ := mem_sharing.mp found
    exact ⟨other, second, differs, secondPresent, same⟩
  · rintro ⟨other, second, differs, secondPresent, same⟩
    have left := List.length_pos_of_mem (once.mem_erase_iff.mpr
      ⟨differs, mem_sharing.mpr ⟨second, secondPresent, same⟩⟩)
    omega

/-- Whatever the order of the hash map, step 5 marks the results whose password
hash occurs more than once. -/
theorem finalizeReuses_entries (order : IterationOrder)
    {entries : List VaultEntry} (report : AuditReport) {index : Nat}
    {entry : VaultEntry} (present : entries[index]? = some entry) :
    (finalizeReuses order (Grouping.group (hashItems env 0 entries))
      report).entries[index]? = report.entries[index]?.map fun result =>
        if 1 < (sharing env entries entry.password).length then
          marked report.serviceAt (sharing env entries entry.password) index
            result
        else result := by
  have groups := (Grouping.groups_group (hashItems env 0 entries)).perm
    (order.perm _)
  have once : (shared ((order.visit (Grouping.group
      (hashItems env 0 entries))).map Prod.snd)).flatten.Nodup :=
    (groups.nodup_flatten (nodup_hashItems entries)).sublist
      (List.Sublist.flatten List.filter_sublist)
  rw [finalizeReuses, foldl_finalizeIndices]
  have itemInside : (hashOf env entry.password, index) ∈
      hashItems env 0 entries := mem_hashItems.mpr ⟨entry, present, rfl⟩
  split
  · next many =>
      apply Grouping.getElem?_updateBuckets _ once
      · exact mem_shared.mpr
          ⟨List.mem_map.mpr ⟨_, groups.bucket_of_mem itemInside, rfl⟩, many⟩
      · exact mem_sharing.mpr ⟨entry, present, rfl⟩
  · next few =>
      rw [Option.map_id']
      apply Grouping.getElem?_updateBuckets_of_notMem
      intro inside
      obtain ⟨bucket, bucketInside, indexInside⟩ := List.mem_flatten.mp inside
      obtain ⟨member, many⟩ := mem_shared.mp bucketInside
      obtain ⟨pair, pairInside, rfl⟩ := List.mem_map.mp member
      obtain ⟨other, found, same⟩ := mem_hashItems.mp
        ((groups.mem_bucket pairInside).mp indexInside)
      cases present.symm.trans found
      rw [((groups.mem_iff pair).mp pairInside).1, ← same] at many
      exact few many

/-- A password whose hash occurs once is shared with no other entry. -/
theorem filter_sharing_of_few {entries : List VaultEntry} {index : Nat}
    {entry : VaultEntry} (present : entries[index]? = some entry)
    (few : ¬ 1 < (sharing env entries entry.password).length) :
    (sharing env entries entry.password).filter (index ≠ ·) = [] := by
  rw [List.filter_eq_nil_iff]
  intro other found differs
  obtain ⟨second, secondPresent, same⟩ := mem_sharing.mp found
  exact few ((one_lt_sharing present).mpr
    ⟨other, second, (of_decide_eq_true differs).symm, secondPresent, same⟩)

/-- The report before the finalisation. -/
def collectedReport (env : AuditEnv) (config : AuditConfig)
    (entries : List VaultEntry) : AuditReport where
  entries := freshResults env config 0 entries
  totalEntries := entries.length
  weakPasswords := (freshResults env config 0 entries).countP
    (·.entropy.isWeak)
  pwnedPasswords := 0
  reusedPasswords := 0
  stalePasswords := (freshResults env config 0 entries).countP (·.isStale)

/-- The report before the breaches are filled in. -/
def reusedReport (env : AuditEnv) (config : AuditConfig)
    (entries : List VaultEntry) : AuditReport :=
  finalizeReuses env.order (Grouping.group (hashItems env 0 entries))
    (collectedReport env config entries)

/-- An audit returns if every round does, and this is its report. -/
theorem runAudit_steps {vault : Vault} {report : AuditReport} :
    runAudit env vault config = .ok report ↔
      (∀ item ∈ vault.entries.zipIdx, Proceeds env config item.2 item.1) ∧
        report =
          if config.checkOnline then
            finalizeHibp 0 (outcomes env config 0 vault.entries)
              (reusedReport env config vault.entries)
          else reusedReport env config vault.entries := by
  have advanced : AuditProgress.advanceAll
      ⟨⟨[], vault.entries.length, 0, 0, 0, 0⟩, [], []⟩ env config 0
        vault.entries =
      ⟨collectedReport env config vault.entries,
        Grouping.group (hashItems env 0 vault.entries),
        outcomes env config 0 vault.entries⟩ := by
    simp [AuditProgress.advanceAll, collectedReport, Grouping.group]
  rw [runAudit, bind_eq_ok]
  simp only [auditEntries_eq_ok, advanced]
  constructor
  · rintro ⟨progress, ⟨proceeds, rfl⟩, last⟩
    refine ⟨proceeds, ?_⟩
    cases online : config.checkOnline <;> rw [online] at last <;> cases last <;>
      rfl
  · rintro ⟨proceeds, rfl⟩
    refine ⟨_, ⟨proceeds, rfl⟩, ?_⟩
    cases online : config.checkOnline <;> rfl

/-- There is a result for every entry. -/
theorem length_freshResults (entries : List VaultEntry) :
    (freshResults env config 0 entries).length = entries.length := by
  simp [freshResults]

/-- And it names the service of that entry. -/
theorem serviceAt_collectedReport (entries : List VaultEntry) :
    (collectedReport env config entries).serviceAt =
      reportedService entries := by
  have services : (collectedReport env config entries).entries.map
      EntryAuditResult.service =
        entries.map fun entry => cString entry.service := by
    simp only [collectedReport, freshResults, List.map_map]
    change entries.zipIdx.map ((fun entry => cString entry.service) ∘ Prod.fst)
      = _
    rw [← List.map_map, List.zipIdx_map_fst]
  funext index
  rw [AuditReport.serviceAt, services, reportedService]

/-- The result of an entry before the breaches are filled in. -/
theorem reusedReport_entries {entries : List VaultEntry} {index : Nat}
    {entry : VaultEntry} (present : entries[index]? = some entry) :
    (reusedReport env config entries).entries[index]? =
      some { finishedResult env config entries index entry with
        hibp := (freshResult env config index entry).hibp } := by
  have fresh : (freshResults env config 0 entries)[index]? =
      some (freshResult env config index entry) := by
    simp [freshResults, present]
  rw [reusedReport, finalizeReuses_entries env.order _ present]
  simp only [serviceAt_collectedReport]
  change Option.map _ (freshResults env config 0 entries)[index]? = _
  rw [fresh, Option.map_some, Option.some.injEq]
  split
  · next many =>
      simp [marked, finishedResult, freshResult, many]
  · next few =>
      simp only [finishedResult, freshResult, filter_sharing_of_few present few]
      simp [few]

/-- Step 5 neither adds nor drops one. -/
theorem length_reusedReport (entries : List VaultEntry) :
    (reusedReport env config entries).entries.length = entries.length := by
  rw [reusedReport, finalizeReuses, foldl_finalizeIndices]
  exact (Grouping.length_updateBuckets _ _).trans (length_freshResults entries)

/-- The result of one entry. -/
theorem getElem?_finishedResults (entries : List VaultEntry) (index : Nat) :
    (finishedResults env config entries)[index]? =
      entries[index]?.map (finishedResult env config entries index) := by
  simp only [finishedResults, List.getElem?_map, List.getElem?_zipIdx,
    Option.map_map, Nat.zero_add]
  rfl

/-- The results after step 6 are the finished ones. -/
theorem finalEntries (entries : List VaultEntry) :
    (if config.checkOnline then
      finalizeHibp 0 (outcomes env config 0 entries)
        (reusedReport env config entries)
    else reusedReport env config entries).entries =
      finishedResults env config entries := by
  apply List.ext_getElem?
  intro index
  rw [getElem?_finishedResults]
  cases present : entries[index]? with
  | none =>
      have outside : (reusedReport env config entries).entries[index]? =
          none := by
        rw [List.getElem?_eq_none_iff] at present ⊢
        rwa [length_reusedReport]
      cases online : config.checkOnline with
      | false => exact outside
      | true =>
          rw [if_pos rfl, finalizeHibp_entries, outside]
          rfl
  | some entry =>
      have reused := @reusedReport_entries env config _ _ _ present
      cases online : config.checkOnline with
      | false =>
          rw [if_neg (by simp), reused]
          simp [finishedResult, freshResult, online]
      | true =>
          have outcome : (outcomes env config 0 entries)[index]? =
              some (outcomeAt env index entry) := by
            simp [outcomes, online, present]
          rw [if_pos rfl, finalizeHibp_entries, reused]
          simp [outcome, finishedResult, online]

/-- After step 5 only the results and the count of breaches are not final. -/
theorem reusedReport_eq (entries : List VaultEntry) :
    reusedReport env config entries =
      { describedReport env config entries with
        entries := (reusedReport env config entries).entries
        pwnedPasswords := 0 } := by
  have buckets : (shared ((env.order.visit (Grouping.group
      (hashItems env 0 entries))).map Prod.snd)).length =
        (shared ((Grouping.group (hashItems env 0 entries)).map
          Prod.snd)).length :=
    (((env.order.perm _).map Prod.snd).filter _).length_eq
  have weak := @countP_finishedResults env config (·.entropy.isWeak) entries
    fun _ _ => rfl
  have stale := @countP_finishedResults env config (·.isStale) entries
    fun _ _ => rfl
  rw [describedReport, weak, stale, ← buckets, reusedReport, finalizeReuses,
    foldl_finalizeIndices]
  simp [collectedReport]

/-- The report after step 6 is the described one. -/
theorem finalReport_eq (entries : List VaultEntry) :
    (if config.checkOnline then
      finalizeHibp 0 (outcomes env config 0 entries)
        (reusedReport env config entries)
    else reusedReport env config entries) =
      describedReport env config entries := by
  have finished := @finalEntries env config entries
  have reused := @reusedReport_eq env config entries
  cases online : config.checkOnline with
  | false =>
      rw [online] at finished
      have pwned : (finishedResults env config entries).countP
          (·.hibp.isPwned) = 0 := by
        simp [finishedResults, List.countP_map, finishedResult, online]
      rw [if_neg (by simp)] at finished ⊢
      rw [reused, finished, describedReport, pwned]
  | true =>
      rw [online] at finished
      have pwned : (finishedResults env config entries).countP
          (·.hibp.isPwned) =
            (outcomes env config 0 entries).countP
              fun future => (finalHibp future).isPwned := by
        simp only [finishedResults, outcomes, online, if_true,
          List.countP_map, finishedResult]
        rfl
      rw [if_pos rfl] at finished ⊢
      rw [finalizeHibp_counts, finished, ← pwned, reused]
      simp [describedReport]

/-- `run_audit` returns exactly if no round throws, and its report is the
described one. -/
theorem runAudit_eq_ok {vault : Vault} {report : AuditReport} :
    runAudit env vault config = .ok report ↔
      (∀ item ∈ vault.entries.zipIdx, Proceeds env config item.2 item.1) ∧
        report = describedReport env config vault.entries := by
  rw [runAudit_steps, finalReport_eq]

end DuckPass
