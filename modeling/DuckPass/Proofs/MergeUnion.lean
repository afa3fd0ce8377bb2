/-
Module: DuckPass.Proofs.MergeUnion
Purpose: `merge_disk_state_with_lock_held` as an operation on vaults: the
  last-writer-wins union of the cached vault and the one on disk, in a fixed
  order, which a second merge leaves as it is.
Trusted boundary: none
Main exports: MergeUnion, mergeEntries_names, mergeEntries_of_settled,
  merge_computes_union
-/
import DuckPass.System.SymbolicAgent

namespace DuckPass

/-- `merged` is the last-writer-wins union of a cached vault and one on disk,
with the deleted services left out of the latter. -/
structure MergeUnion (deletedServices : List SecureString)
    (mine disk merged : Vault) : Prop where
  kept : ∀ service, service ∈ deletedServices ∨ disk.getEntry service = none →
    merged.getEntry service = mine.getEntry service
  taken : ∀ service theirs, service ∉ deletedServices →
    disk.getEntry service = some theirs →
    (∀ entry, mine.getEntry service = some entry →
      theirs.lastUpdated > entry.lastUpdated) →
    merged.getEntry service = some theirs
  retained : ∀ service theirs entry, service ∉ deletedServices →
    disk.getEntry service = some theirs →
    mine.getEntry service = some entry →
    ¬ theirs.lastUpdated > entry.lastUpdated →
    merged.getEntry service = some entry
  distinct : (merged.entries.map VaultEntry.service).Nodup
  ordered : merged.entries.map VaultEntry.service =
    mine.entries.map VaultEntry.service ++
      (disk.entries.map VaultEntry.service).filter fun service =>
        service ∉ deletedServices ∧ mine.getEntry service = none

/-! ## The order of the merged vault -/

theorem Vault.addEntry_names {vault : Vault} {entry : VaultEntry}
    (clock : Clock) :
    (vault.addEntry entry clock).1.entries.map VaultEntry.service =
      if vault.getEntry entry.service = none then
        vault.entries.map VaultEntry.service ++ [entry.service]
      else vault.entries.map VaultEntry.service := by
  have present : vault.getEntry entry.service = none ↔
      entry.service ∉ vault.entries.map VaultEntry.service :=
    KeyedList.lookup_eq_none_iff
  have names : ∀ stored : VaultEntry, stored.service = entry.service →
      (vault.store stored).entries.map VaultEntry.service =
        if vault.getEntry entry.service = none then
          vault.entries.map VaultEntry.service ++ [entry.service]
        else vault.entries.map VaultEntry.service := by
    intro stored same
    rw [Vault.store, KeyedList.map_key_upsert, same]
    by_cases known : entry.service ∈ vault.entries.map VaultEntry.service
    · rw [if_pos known, if_neg fun missing => present.mp missing known]
    · rw [if_neg known, if_pos (present.mpr known)]
  unfold Vault.addEntry
  split
  · exact names _ rfl
  · exact names _ rfl

/-- The names of the cached vault stay where they are; those that the disk adds
follow in its order. -/
theorem mergeEntries_names (deletedServices : List SecureString)
    {entries : List VaultEntry}
    (distinct : KeyedList.Distinct VaultEntry.service entries) (vault : Vault)
    (clock : Clock) :
    (mergeEntries deletedServices entries vault clock).1.entries.map
        VaultEntry.service =
      vault.entries.map VaultEntry.service ++
        (entries.map VaultEntry.service).filter fun service =>
          service ∉ deletedServices ∧ vault.getEntry service = none := by
  induction entries generalizing vault clock with
  | nil => exact (List.append_nil _).symm
  | cons head tail inductionHypothesis =>
      rw [KeyedList.Distinct, List.map_cons, List.nodup_cons] at distinct
      obtain ⟨next, merging, same⟩ :=
        mergeEntries_cons deletedServices head tail vault clock
      -- The tail does not mention the service of the head again.
      have unchanged : (tail.map VaultEntry.service).filter (fun service =>
          service ∉ deletedServices ∧ next.1.getEntry service = none) =
          (tail.map VaultEntry.service).filter fun service =>
            service ∉ deletedServices ∧ vault.getEntry service = none := by
        apply List.filter_congr
        intro service member
        have differs : head.service ≠ service := by
          rintro rfl
          exact distinct.1 member
        rw [merging.getEntry_of_ne differs]
      rw [same, inductionHypothesis distinct.2, unchanged, List.map_cons]
      cases merging with
      | skipped deleted =>
          rw [List.filter_cons_of_neg (by simp [deleted])]
      | taken live absent =>
          rw [List.filter_cons_of_pos (by simp [live, absent]),
            Vault.addEntry_names, if_pos absent, List.append_assoc]
          rfl
      | replaced live cached =>
          have known : vault.getEntry head.service ≠ none := by
            rw [cached]
            exact Option.some_ne_none _
          rw [List.filter_cons_of_neg (by simp [known]),
            Vault.addEntry_names, if_neg known]
      | retained live cached =>
          rw [List.filter_cons_of_neg (by simp [cached])]

/-! ## A second merge -/

/-- A merge that has nothing to take over changes nothing. -/
theorem mergeEntries_of_settled {deletedServices : List SecureString}
    {entries : List VaultEntry} {vault : Vault}
    (settled : ∀ entry ∈ entries, entry.service ∉ deletedServices →
      ∃ cached, vault.getEntry entry.service = some cached ∧
        ¬ entry.lastUpdated > cached.lastUpdated) (clock : Clock) :
    mergeEntries deletedServices entries vault clock = (vault, clock) := by
  induction entries with
  | nil => rfl
  | cons head tail inductionHypothesis =>
      have rest := inductionHypothesis fun entry member =>
        settled entry (List.mem_cons_of_mem _ member)
      obtain ⟨next, merging, same⟩ :=
        mergeEntries_cons deletedServices head tail vault clock
      rw [same]
      cases merging with
      | skipped => exact rest
      | taken live absent =>
          obtain ⟨cached, present, _⟩ := settled head List.mem_cons_self live
          cases absent.symm.trans present
      | replaced live cached newer =>
          obtain ⟨_, present, notNewer⟩ := settled head List.mem_cons_self live
          cases cached.symm.trans present
          exact absurd newer notNewer
      | retained => exact rest

namespace MergeUnion

variable {deletedServices : List SecureString} {mine disk merged : Vault}

/-- Whatever the disk has is in the union, or something newer is. -/
theorem settled (union : MergeUnion deletedServices mine disk merged) :
    ∀ entry ∈ disk.entries, entry.service ∉ deletedServices →
      ∃ cached, merged.getEntry entry.service = some cached ∧
        ¬ entry.lastUpdated > cached.lastUpdated := by
  intro entry member live
  have onDisk : disk.getEntry entry.service = some entry :=
    KeyedList.lookup_of_mem disk.distinct member
  cases cached : mine.getEntry entry.service with
  | none =>
      refine ⟨entry, union.taken _ _ live onDisk ?_, UInt64.lt_irrefl _⟩
      intro other present
      rw [cached] at present
      cases present
  | some local_ =>
      by_cases newer : entry.lastUpdated > local_.lastUpdated
      · refine ⟨entry, union.taken _ _ live onDisk ?_, UInt64.lt_irrefl _⟩
        intro other present
        rw [cached] at present
        cases present
        exact newer
      · exact ⟨local_, union.retained _ _ _ live onDisk cached newer, newer⟩

end MergeUnion

/-- The loop computes the union if the entries on disk carry times. -/
theorem mergeEntries_union (deletedServices : List SecureString)
    {disk : Vault} (stamped : disk.Stamped) (mine : Vault) (clock : Clock) :
    MergeUnion deletedServices mine disk
      (mergeEntries deletedServices disk.entries mine clock).1 := by
  have merge : ∀ service, MergedEntry deletedServices service
      (disk.getEntry service) (mine.getEntry service)
      ((mergeEntries deletedServices disk.entries mine clock).1.getEntry
        service) :=
    fun service => getEntry_mergeEntries deletedServices service
      disk.distinct mine clock
  have newer := fun service live =>
    (merge service).eq_newer live fun entry found =>
      stamped entry (Vault.mem_of_getEntry found)
  refine ⟨?_, ?_, ?_, Vault.distinct _,
    mergeEntries_names deletedServices disk.distinct mine clock⟩
  · rintro service (deleted | missing)
    · exact (merge service).eq_mine_of_deleted deleted
    · have one := merge service
      rw [missing] at one
      exact one.eq_mine_of_missing
  · intro service theirs live onDisk older
    rw [newer service live, onDisk]
    cases cached : mine.getEntry service with
    | none => rfl
    | some entry =>
        exact if_pos (UInt64.lt_iff_toNat_lt.mp (older entry cached))
  · intro service theirs entry live onDisk cached notNewer
    rw [newer service live, onDisk, cached]
    exact if_neg fun lt => notNewer (UInt64.lt_iff_toNat_lt.mpr lt)

/-! ## Main result -/

/-- For a file that loads to a vault whose entries carry times, the merge under
the lock makes the cached vault the last-writer-wins union of the two and
changes nothing else of the instance; and merging the same vault once more,
whenever and however it is loaded again, leaves the instance as it is. -/
theorem merge_computes_union {primitives : Primitives} {faults : LoadFaults}
    {self : VaultService} {files : Files} {clock rest : Clock} {disk : Vault}
    (loaded : loadVault primitives faults files self.vaultPath
      self.masterPassword clock = .ok (disk, rest))
    (stamped : disk.Stamped) :
    ∃ merged, self.mergeDiskStateWithLockHeld primitives faults files clock =
        .ok { self with vault := merged } ∧
      MergeUnion self.deletedServices self.vault disk merged ∧
      ∀ (later : LoadFaults) (changed : Files) (next last : Clock),
        loadVault primitives later changed self.vaultPath self.masterPassword
          next = .ok (disk, last) →
        VaultService.mergeDiskStateWithLockHeld primitives later
            { self with vault := merged } changed next =
          .ok { self with vault := merged } := by
  have union := mergeEntries_union self.deletedServices stamped self.vault rest
  refine ⟨_, ?_, union, ?_⟩
  · obtain ⟨blob, present, _⟩ := loadVault_eq_ok loaded
    rw [VaultService.mergeDiskStateWithLockHeld, present]
    simp only [Option.isSome_some, if_true, loaded, bind, Except.bind, pure,
      Except.pure]
  · intro later changed next last loadedAgain
    obtain ⟨blob, present, _⟩ := loadVault_eq_ok loadedAgain
    rw [VaultService.mergeDiskStateWithLockHeld, present]
    simp only [Option.isSome_some, if_true, loadedAgain, bind, Except.bind,
      pure, Except.pure, mergeEntries_of_settled union.settled]

namespace MergeUnion

open Symbolic (masterPassword oneEntry session)

/-- The account of the vault on disk, with an older password, and one that the
disk does not have. -/
def cachedVault : Vault :=
  (Vault.empty.store (Symbolic.entry 0x42 5)).store ⟨[0x74], [1], [2], [], 3⟩

theorem oneEntry_stamped : oneEntry.Stamped :=
  List.forall_mem_singleton.mpr (by decide)

/-- The instance that holds it. -/
def holder : VaultService := session cachedVault

theorem oneEntry_loaded (clock : Clock) :
    loadVault Symbolic.primitives .none
        (Symbolic.files oneEntry masterPassword) Symbolic.path masterPassword
        clock = .ok (oneEntry, clock) := by
  have encrypted := Symbolic.encrypted oneEntry masterPassword (by decide)
  have present : Symbolic.files oneEntry masterPassword Symbolic.path =
      some (Symbolic.blob oneEntry masterPassword) :=
    Function.update_self _ _ _
  rw [loadVault_of_openVaultBlob present (by decide +kernel)]
  exact encrypted.opens_stamped Symbolic.ideal.toRoundTrips oneEntry_stamped
    clock

end MergeUnion

open MergeUnion in
/-- The newer password is taken over from the disk and the other account is
kept. -/
theorem merge_computes_union_newer :
    ∃ merged, holder.mergeDiskStateWithLockHeld Symbolic.primitives .none
        (Symbolic.files Symbolic.oneEntry Symbolic.masterPassword)
        (.constant 9) = .ok { holder with vault := merged } ∧
      MergeUnion [] cachedVault Symbolic.oneEntry merged ∧
      ∀ (later : LoadFaults) (changed : Files) (next last : Clock),
        loadVault Symbolic.primitives later changed Symbolic.path
          Symbolic.masterPassword next = .ok (Symbolic.oneEntry, last) →
        VaultService.mergeDiskStateWithLockHeld Symbolic.primitives later
            { holder with vault := merged } changed next =
          .ok { holder with vault := merged } :=
  @merge_computes_union Symbolic.primitives .none holder
    (Symbolic.files Symbolic.oneEntry Symbolic.masterPassword) (.constant 9)
    (.constant 9) Symbolic.oneEntry (oneEntry_loaded (.constant 9))
    oneEntry_stamped

end DuckPass
