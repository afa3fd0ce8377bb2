/-
Module: DuckPass.Proofs.AuditReuse
Purpose: What a report says of passwords that several entries have in common.
Trusted boundary: as for `DuckPass.Core.AuditEngine`; SHA-256 has no collision
  among the passwords of the vault.
Main exports: HasPassword, ReuseExact, CollisionFree, reuse_exact_iff,
  unique_password_reused
-/
import Mathlib.Data.List.Dedup
import DuckPass.Proofs.AuditReport
import DuckPass.System.Symbolic
import DuckPass.System.SymbolicAudit

namespace DuckPass

variable {env : AuditEnv} {config : AuditConfig} {vault : Vault}

/-! ## Passwords in common -/

/-- The entry at `index` has the password. -/
def HasPassword (vault : Vault) (password : SecureString) (index : Nat) :
    Prop :=
  vault.entries[index]?.map VaultEntry.password = some password

instance (vault : Vault) (password : SecureString) (index : Nat) :
    Decidable (HasPassword vault password index) :=
  inferInstanceAs (Decidable (_ = _))

/-- The other entries with the password of the entry at `index`, in the order
of the vault. -/
def othersWith (vault : Vault) (password : SecureString) (index : Nat) :
    List Nat :=
  (List.range vault.entries.length).filter fun other =>
    other ≠ index ∧ HasPassword vault password other

/-- The passwords that occur at least twice, once each. -/
def repeated (vault : Vault) : List SecureString :=
  (vault.entries.map VaultEntry.password).dedup.filter fun password =>
    1 < (vault.entries.map VaultEntry.password).count password

/-- Flags, lists and the count are those of the passwords in common. -/
structure ReuseExact (vault : Vault) (report : AuditReport) : Prop where
  length : report.entries.length = vault.entries.length
  flags : ∀ index entry result, vault.entries[index]? = some entry →
    report.entries[index]? = some result →
    (result.isReused = true ↔
      ∃ other, other ≠ index ∧ HasPassword vault entry.password other)
  lists : ∀ index entry result, vault.entries[index]? = some entry →
    report.entries[index]? = some result →
    result.reusedWith.map some =
      (othersWith vault entry.password index).map fun other =>
        report.entries[other]?.map EntryAuditResult.service
  count : report.reusedPasswords = (repeated vault).length

/-- SHA-256 tells the passwords of the vault apart. -/
def CollisionFree (digests : Digests) (vault : Vault) : Prop :=
  ∀ first ∈ vault.entries, ∀ second ∈ vault.entries,
    digests.sha256 first.password = digests.sha256 second.password →
    first.password = second.password

/-! ## Hashes -/

/-- The digits are different. -/
theorem hexChars_inj {uppercase : Bool} {first second : Nat}
    (firstSmall : first < 16) (secondSmall : second < 16)
    (same : (hexChars uppercase).getD first 0 =
      (hexChars uppercase).getD second 0) : first = second := by
  have distinct : ∀ uppercase : Bool, ∀ first < 16, ∀ second < 16,
      (hexChars uppercase).getD first 0 = (hexChars uppercase).getD second 0 →
      first = second := by
    decide +kernel
  exact distinct uppercase first firstSmall second secondSmall same

/-- So are the bytes in two of them. -/
theorem hexByte_inj {uppercase : Bool} {first second : UInt8}
    (same : hexByte uppercase first = hexByte uppercase second) :
    first = second := by
  have low : ∀ byte : UInt8, (byte &&& 0x0F).toNat = byte.toNat % 16 :=
    fun byte => Nat.and_two_pow_sub_one_eq_mod byte.toNat 4
  have high : ∀ byte : UInt8, (byte >>> 4).toNat = byte.toNat / 16 :=
    fun byte => Nat.shiftRight_eq_div_pow byte.toNat 4
  simp only [hexByte, List.cons.injEq, and_true, low, high] at same
  have firstBound := first.toNat_lt
  have secondBound := second.toNat_lt
  have upper := hexChars_inj (Nat.mod_lt _ (by decide))
    (Nat.mod_lt _ (by decide)) same.1
  have lower := hexChars_inj (Nat.mod_lt _ (by decide))
    (Nat.mod_lt _ (by decide)) same.2
  apply UInt8.toNat_inj.mp
  omega

/-- So are texts of one length. -/
theorem hexText_inj {uppercase : Bool} {first second : SecureBytes}
    (length : first.length = second.length)
    (same : first.flatMap (hexByte uppercase) =
      second.flatMap (hexByte uppercase)) : first = second := by
  induction first generalizing second with
  | nil => exact (List.length_eq_zero_iff.mp length.symm).symm
  | cons byte first inductionHypothesis =>
      cases second with
      | nil => cases length
      | cons other second =>
          obtain ⟨head, tail⟩ := List.append_inj same rfl
          rw [hexByte_inj head,
            inductionHypothesis (Nat.succ.inj length) tail]

/-- The hash in hexadecimal tells digests apart. -/
theorem hashOf_inj {first second : SecureString}
    (same : hashOf env first = hashOf env second) :
    env.digests.sha256 first = env.digests.sha256 second := by
  apply Subtype.ext
  apply hexText_inj _ same
  rw [(env.digests.sha256 first).property, (env.digests.sha256 second).property]

/-- In a collision-free vault the hash map goes by the passwords. -/
theorem CollisionFree.hashOf_eq (free : CollisionFree env.digests vault)
    {first second : VaultEntry} (firstInside : first ∈ vault.entries)
    (secondInside : second ∈ vault.entries) :
    hashOf env first.password = hashOf env second.password ↔
      first.password = second.password :=
  ⟨fun same => free _ firstInside _ secondInside (hashOf_inj same),
    congrArg (hashOf env)⟩

/-! ## The indices that share a hash -/

/-- Without collisions the entries of a hash are those of a password. -/
theorem sharing_eq (free : CollisionFree env.digests vault)
    {entry : VaultEntry} (inside : entry ∈ vault.entries) :
    sharing env vault.entries entry.password =
      (List.range vault.entries.length).filter
        (HasPassword vault entry.password) := by
  have indices : List.range vault.entries.length =
      vault.entries.zipIdx.map Prod.snd := by
    rw [List.zipIdx_map_snd, List.range_eq_range']
  simp only [sharing, Grouping.itemsOf, hashItems, indices, List.filter_map,
    List.map_map]
  congr 1
  apply List.filter_congr
  intro item member
  have present := List.mem_zipIdx_iff_getElem?.mp member
  have same := free.hashOf_eq (List.mem_of_getElem? present) inside
  simp [HasPassword, present, same]

/-- As many as the password is used. -/
theorem length_sharing (free : CollisionFree env.digests vault)
    {entry : VaultEntry} (inside : entry ∈ vault.entries) :
    (sharing env vault.entries entry.password).length =
      (vault.entries.map VaultEntry.password).count entry.password := by
  have passwords : vault.entries.map VaultEntry.password =
      vault.entries.zipIdx.map fun item => item.1.password := by
    change _ = vault.entries.zipIdx.map (VaultEntry.password ∘ Prod.fst)
    rw [← List.map_map, List.zipIdx_map_fst]
  rw [passwords, List.count, List.countP_map, List.countP_eq_length_filter]
  simp only [sharing, Grouping.itemsOf, hashItems, List.filter_map,
    List.length_map]
  congr 1
  apply List.filter_congr
  intro item member
  have present := List.mem_zipIdx_iff_getElem?.mp member
  have same := free.hashOf_eq (List.mem_of_getElem? present) inside
  simp [same, Bool.beq_eq_decide_eq]

/-- And the others than one's own. -/
theorem filter_sharing (free : CollisionFree env.digests vault) {index : Nat}
    {entry : VaultEntry} (present : vault.entries[index]? = some entry) :
    (sharing env vault.entries entry.password).filter (index ≠ ·) =
      othersWith vault entry.password index := by
  rw [sharing_eq free (List.mem_of_getElem? present), List.filter_filter,
    othersWith]
  apply List.filter_congr
  intro other _
  simp [ne_comm]

/-- The other entries with the password. -/
theorem mem_othersWith {password : SecureString} {index other : Nat} :
    other ∈ othersWith vault password index ↔
      other ≠ index ∧ HasPassword vault password other := by
  rw [othersWith, List.mem_filter, decide_eq_true_iff, List.mem_range]
  constructor
  · exact And.right
  · intro found
    refine ⟨?_, found⟩
    obtain ⟨entry, present, _⟩ := Option.map_eq_some_iff.mp found.2
    exact (List.getElem?_eq_some_iff.mp present).1

/-- A hash occurs more than once if and only if another entry has the
password. -/
theorem sharing_many (free : CollisionFree env.digests vault) {index : Nat}
    {entry : VaultEntry} (present : vault.entries[index]? = some entry) :
    1 < (sharing env vault.entries entry.password).length ↔
      ∃ other, other ≠ index ∧ HasPassword vault entry.password other := by
  rw [one_lt_sharing present]
  have inside := List.mem_of_getElem? present
  constructor
  · rintro ⟨other, second, differs, secondPresent, same⟩
    rw [free.hashOf_eq (List.mem_of_getElem? secondPresent) inside] at same
    exact ⟨other, differs, Option.map_eq_some_iff.mpr
      ⟨second, secondPresent, same⟩⟩
  · rintro ⟨other, differs, found⟩
    obtain ⟨second, secondPresent, same⟩ := Option.map_eq_some_iff.mp found
    exact ⟨other, second, differs, secondPresent, by rw [same]⟩

/-- A password is repeated if it is used more than once. -/
theorem mem_repeated {password : SecureString} :
    password ∈ repeated vault ↔
      ∃ entry ∈ vault.entries, entry.password = password ∧
        1 < (vault.entries.map VaultEntry.password).count entry.password := by
  rw [repeated, List.mem_filter, List.mem_dedup, List.mem_map,
    decide_eq_true_iff]
  constructor
  · rintro ⟨⟨entry, inside, rfl⟩, many⟩
    exact ⟨entry, inside, rfl, many⟩
  · rintro ⟨entry, inside, rfl, many⟩
    exact ⟨⟨entry, inside, rfl⟩, many⟩

/-- The bucket of an entry's hash holds more than one index if and only if the
vault holds its password more than once. -/
theorem one_lt_bucket_iff (free : CollisionFree env.digests vault)
    {entry : VaultEntry} (inside : entry ∈ vault.entries) :
    1 < (Grouping.itemsOf (hashOf env entry.password)
      (hashItems env 0 vault.entries)).length ↔
    1 < (vault.entries.map VaultEntry.password).count entry.password := by
  rw [← length_sharing free inside]
  rfl

/-- The keys of the buckets with more than one index are the hashes of the
repeated passwords. -/
theorem shared_keys_perm (free : CollisionFree env.digests vault) :
    (((Grouping.group (hashItems env 0 vault.entries)).filter
      (1 < ·.2.length)).map Prod.fst).Perm
        ((repeated vault).map (hashOf env)) := by
  have groups := Grouping.groups_group (hashItems env 0 vault.entries)
  rw [List.perm_ext_iff_of_nodup]
  · intro hash
    simp only [List.mem_map, List.mem_filter, decide_eq_true_iff]
    constructor
    · rintro ⟨bucket, ⟨member, long⟩, rfl⟩
      obtain ⟨index, indexInside⟩ := List.exists_mem_of_length_pos
        (Nat.lt_of_succ_lt long)
      obtain ⟨entry, present, same⟩ := mem_hashItems.mp
        ((groups.mem_bucket member).mp indexInside)
      have inside := List.mem_of_getElem? present
      rw [((groups.mem_iff bucket).mp member).1, ← same,
        one_lt_bucket_iff free inside] at long
      exact ⟨_, mem_repeated.mpr ⟨entry, inside, rfl, long⟩, same⟩
    · rintro ⟨password, isRepeated, rfl⟩
      obtain ⟨entry, inside, rfl, long⟩ := mem_repeated.mp isRepeated
      obtain ⟨index, present⟩ := List.mem_iff_getElem?.mp inside
      have bucket := groups.bucket_of_mem
        (mem_hashItems.mpr ⟨entry, present, rfl⟩)
      exact ⟨_, ⟨bucket, (one_lt_bucket_iff free inside).mpr long⟩, rfl⟩
  · exact groups.distinct.sublist (List.filter_sublist.map Prod.fst)
  · apply List.Nodup.map_on _ ((List.nodup_dedup _).filter _)
    intro first firstRepeated second secondRepeated same
    obtain ⟨one, oneInside, rfl, _⟩ := mem_repeated.mp firstRepeated
    obtain ⟨two, twoInside, rfl, _⟩ := mem_repeated.mp secondRepeated
    exact (free.hashOf_eq oneInside twoInside).mp same

/-- The buckets with more than one index are as many as the repeated
passwords. -/
theorem length_shared (free : CollisionFree env.digests vault) :
    (shared ((Grouping.group (hashItems env 0 vault.entries)).map
      Prod.snd)).length = (repeated vault).length := by
  have buckets : shared ((Grouping.group (hashItems env 0
      vault.entries)).map Prod.snd) =
        ((Grouping.group (hashItems env 0 vault.entries)).filter
          (1 < ·.2.length)).map Prod.snd := by
    rw [shared, List.filter_map]
    rfl
  rw [buckets, List.length_map, ← List.length_map Prod.fst,
    (shared_keys_perm free).length_eq, List.length_map]

/-! ## Main result -/

/-- What the report says besides the flags. -/
theorem reuse_lists (free : CollisionFree env.digests vault) {index : Nat}
    {entry : VaultEntry} (present : vault.entries[index]? = some entry) :
    (finishedResult env config vault.entries index entry).reusedWith.map some =
      (othersWith vault entry.password index).map fun other =>
        (finishedResults env config vault.entries)[other]?.map
          EntryAuditResult.service := by
  simp only [finishedResult, filter_sharing free present, List.map_map]
  apply List.map_congr_left
  intro other found
  obtain ⟨second, secondPresent, _⟩ :=
    Option.map_eq_some_iff.mp (mem_othersWith.mp found).2
  rw [getElem?_finishedResults, secondPresent]
  simp [reportedService, secondPresent, finishedResult, freshResult]

/-- The reuse that a report shows is exact if and only if the memory of the
results, which nothing initialises, holds no flag for an entry whose password no
other entry has. -/
theorem reuse_exact_iff (env : AuditEnv) (vault : Vault) (config : AuditConfig)
    (report : AuditReport) (free : CollisionFree env.digests vault)
    (returned : runAudit env vault config = .ok report) :
    ReuseExact vault report ↔
      ∀ index entry, vault.entries[index]? = some entry →
        (¬ ∃ other, other ≠ index ∧
          HasPassword vault entry.password other) →
        (env.calls index).indeterminate.isReused = false := by
  obtain ⟨_, rfl⟩ := runAudit_eq_ok.mp returned
  have found : ∀ {index entry}, vault.entries[index]? = some entry →
      (describedReport env config vault.entries).entries[index]? =
        some (finishedResult env config vault.entries index entry) := by
    intro index entry present
    simp only [describedReport, getElem?_finishedResults, present,
      Option.map_some]
  constructor
  · intro exact index entry present alone
    have flag := (exact.flags index entry _ present (found present)).not.mpr
      alone
    simp only [finishedResult, Bool.or_eq_true, not_or] at flag
    exact Bool.eq_false_iff.mpr flag.1
  · intro unset
    constructor
    · simp [describedReport, finishedResults]
    · intro index entry result present same
      cases (found present).symm.trans same
      rw [← sharing_many free present]
      simp only [finishedResult, Bool.or_eq_true, decide_eq_true_iff]
      constructor
      · rintro (flag | many)
        · by_contra few
          rw [sharing_many free present] at few
          rw [unset index entry present few] at flag
          cases flag
        · exact many
      · exact .inr
    · intro index entry result present same
      cases (found present).symm.trans same
      exact reuse_lists free present
    · exact length_shared free

namespace AuditReuse

open Symbolic (audit)

/-- Two accounts with one password and a third with another. -/
def accounts : Vault :=
  ((Vault.empty.store (Symbolic.entry 0x41 7)).store
    ⟨[0x74], [1], [0x41], [], 7⟩).store ⟨[0x75], [1], [0x42], [], 7⟩

def report (isReused : Bool) : AuditReport :=
  describedReport (audit 7 isReused accounts) {} accounts.entries

theorem returned (isReused : Bool) :
    runAudit (audit 7 isReused accounts) accounts {} =
      .ok (report isReused) := by
  cases isReused <;> rfl

theorem collisionFree : CollisionFree Symbolic.digests accounts := by
  unfold CollisionFree
  decide +kernel

end AuditReuse

/-- A password that occurs once is shown as reused if the memory says so. -/
theorem unique_password_reused :
    ¬ ∀ (env : AuditEnv) (vault : Vault) (config : AuditConfig)
        (report : AuditReport), CollisionFree env.digests vault →
      runAudit env vault config = .ok report → ReuseExact vault report := by
  intro exact
  have flag := (exact _ _ _ _ AuditReuse.collisionFree
    (AuditReuse.returned true)).flags 2 _ _ rfl rfl
  obtain ⟨other, differs, same⟩ := flag.mp rfl
  have small : other < 3 := (List.getElem?_eq_some_iff.mp
    (Option.map_eq_some_iff.mp same).choose_spec.1).1
  have alone : ∀ other < 3, other ≠ 2 →
      ¬ HasPassword AuditReuse.accounts [0x42] other := by
    decide +kernel
  exact alone other small differs same

/-- With clear memory the reuse is exact. -/
theorem reuse_exact_iff_clear :
    ReuseExact AuditReuse.accounts (AuditReuse.report false) :=
  (reuse_exact_iff _ _ _ _ AuditReuse.collisionFree
    (AuditReuse.returned false)).mpr fun _ _ _ _ => rfl

end DuckPass
