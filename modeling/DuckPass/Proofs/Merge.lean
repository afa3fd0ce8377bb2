/-
Module: DuckPass.Proofs.Merge
Purpose: The merge loop of `merge_disk_state_with_lock_held` service by
  service: it is a last-writer-wins choice masked by the deletion list.
Trusted boundary: none
Main exports: VaultEntry.Restamps, MergedEntry, Merging, mergeEntries_cons,
  mergeEntries_preserves, getEntry_mergeEntries,
  MergedEntry.of_cached, MergedEntry.eq_newer, Vault.restamp_getEntry
-/
import DuckPass.Core.VaultService
import DuckPass.Lib.LastWriter
import DuckPass.Proofs.VaultCodec

namespace DuckPass

/-- `after` is `before` with its time filled in if there was none. -/
inductive VaultEntry.Restamps (before : VaultEntry) : VaultEntry → Prop where
  | kept : VaultEntry.Restamps before before
  | filled (unset : before.lastUpdated = 0) (time : UInt64) :
      VaultEntry.Restamps before { before with lastUpdated := time }

namespace VaultEntry.Restamps

variable {before after : VaultEntry}

theorem eq_of_stamped (restamps : before.Restamps after)
    (stamped : before.lastUpdated ≠ 0) : after = before := by
  cases restamps with
  | kept => rfl
  | filled unset => exact absurd unset stamped

end VaultEntry.Restamps

namespace Vault

/-- `add_entry` binds the service to the entry up to a missing time and leaves
every other service alone. -/
theorem getEntry_addEntry (vault : Vault) (entry : VaultEntry)
    (clock : Clock) :
    ∃ stored, entry.Restamps stored ∧ ∀ service,
      (vault.addEntry entry clock).1.getEntry service =
        if entry.service = service then some stored
        else vault.getEntry service := by
  unfold addEntry
  split
  · next unset =>
      exact ⟨_, .filled unset clock.time, fun service => getEntry_store⟩
  · exact ⟨entry, .kept, fun service => getEntry_store⟩

/-- Reading a vault back changes an entry at most in a time that was not
set. -/
theorem restamp_getEntry (vault : Vault) (clock : Clock)
    (service : SecureString) :
    (vault.getEntry service = none ∧
        (vault.restamp clock).1.getEntry service = none) ∨
      ∃ entry stored, vault.getEntry service = some entry ∧
        entry.Restamps stored ∧
        (vault.restamp clock).1.getEntry service = some stored := by
  suffices general : ∀ (entries : List VaultEntry) (clock : Clock),
      (KeyedList.lookup VaultEntry.service service entries = none ∧
          KeyedList.lookup VaultEntry.service service
            (restampEntries entries clock).1 = none) ∨
        ∃ entry stored,
          KeyedList.lookup VaultEntry.service service entries = some entry ∧
            entry.Restamps stored ∧
            KeyedList.lookup VaultEntry.service service
              (restampEntries entries clock).1 = some stored from
    general vault.entries clock
  intro entries
  induction entries with
  | nil =>
      intro clock
      exact .inl ⟨rfl, rfl⟩
  | cons head tail inductionHypothesis =>
      intro clock
      rw [restampEntries, KeyedList.lookup_cons]
      by_cases hit : head.service = service
      · rw [if_pos hit]
        refine .inr ⟨head, ?_⟩
        split
        · next unset =>
            refine ⟨_, rfl, .filled unset clock.time, ?_⟩
            dsimp only
            rw [KeyedList.lookup_cons, if_pos hit]
        · refine ⟨head, rfl, .kept, ?_⟩
          dsimp only
          rw [KeyedList.lookup_cons, if_pos hit]
      · rw [if_neg hit]
        split
        · dsimp only
          rw [KeyedList.lookup_cons, if_neg hit]
          exact inductionHypothesis clock.tick
        · dsimp only
          rw [KeyedList.lookup_cons, if_neg hit]
          exact inductionHypothesis clock

end Vault

/-- What the merge makes of one service, given the deletion list, the disk
entry and the local entry. -/
inductive MergedEntry (deletedServices : List SecureString)
    (service : SecureString) (disk mine : Option VaultEntry) :
    Option VaultEntry → Prop where
  | kept (skipped : service ∈ deletedServices ∨ disk = none) :
      MergedEntry deletedServices service disk mine mine
  | taken {entry stored : VaultEntry} (live : service ∉ deletedServices)
      (onDisk : disk = some entry) (absent : mine = none)
      (restamps : entry.Restamps stored) :
      MergedEntry deletedServices service disk mine (some stored)
  | replaced {entry localEntry : VaultEntry}
      (live : service ∉ deletedServices) (onDisk : disk = some entry)
      (cached : mine = some localEntry)
      (newer : entry.lastUpdated > localEntry.lastUpdated) :
      MergedEntry deletedServices service disk mine (some entry)
  | retained {entry localEntry : VaultEntry}
      (live : service ∉ deletedServices) (onDisk : disk = some entry)
      (cached : mine = some localEntry)
      (notNewer : ¬ entry.lastUpdated > localEntry.lastUpdated) :
      MergedEntry deletedServices service disk mine (some localEntry)

/-! ## The loop -/

/-- What the loop does with one entry of the disk: it leaves the vault alone or
adds the entry. -/
inductive Merging (deletedServices : List SecureString) (entry : VaultEntry)
    (vault : Vault) (clock : Clock) : Vault × Clock → Prop where
  | skipped (deleted : entry.service ∈ deletedServices) :
      Merging deletedServices entry vault clock (vault, clock)
  | taken (live : entry.service ∉ deletedServices)
      (absent : vault.getEntry entry.service = none) :
      Merging deletedServices entry vault clock (vault.addEntry entry clock)
  | replaced {localEntry : VaultEntry}
      (live : entry.service ∉ deletedServices)
      (cached : vault.getEntry entry.service = some localEntry)
      (newer : entry.lastUpdated > localEntry.lastUpdated) :
      Merging deletedServices entry vault clock (vault.addEntry entry clock)
  | retained {localEntry : VaultEntry}
      (live : entry.service ∉ deletedServices)
      (cached : vault.getEntry entry.service = some localEntry)
      (notNewer : ¬ entry.lastUpdated > localEntry.lastUpdated) :
      Merging deletedServices entry vault clock (vault, clock)

/-- One round of the loop. -/
theorem mergeEntries_cons (deletedServices : List SecureString)
    (head : VaultEntry) (tail : List VaultEntry) (vault : Vault)
    (clock : Clock) :
    ∃ next, Merging deletedServices head vault clock next ∧
      mergeEntries deletedServices (head :: tail) vault clock =
        mergeEntries deletedServices tail next.1 next.2 := by
  rw [mergeEntries]
  split
  · next deleted => exact ⟨_, .skipped deleted, rfl⟩
  · next live =>
      split
      · next absent => exact ⟨_, .taken live absent, rfl⟩
      · next cached =>
          split
          · next newer => exact ⟨_, .replaced live cached newer, rfl⟩
          · next notNewer => exact ⟨_, .retained live cached notNewer, rfl⟩

/-- What adding any entry of the disk preserves, the loop preserves. -/
theorem mergeEntries_preserves {invariant : Vault → Clock → Prop}
    {deletedServices : List SecureString} {entries : List VaultEntry}
    (preserved : ∀ entry ∈ entries, ∀ vault clock, invariant vault clock →
      invariant (vault.addEntry entry clock).1 (vault.addEntry entry clock).2)
    {vault : Vault} {clock : Clock} (holds : invariant vault clock) :
    invariant (mergeEntries deletedServices entries vault clock).1
      (mergeEntries deletedServices entries vault clock).2 := by
  induction entries generalizing vault clock with
  | nil => exact holds
  | cons head tail inductionHypothesis =>
      have later := @inductionHypothesis fun entry member =>
        preserved entry (List.mem_cons_of_mem _ member)
      have added := preserved head List.mem_cons_self vault clock holds
      obtain ⟨next, merging, same⟩ :=
        mergeEntries_cons deletedServices head tail vault clock
      rw [same]
      cases merging with
      | skipped => exact later holds
      | taken => exact later added
      | replaced => exact later added
      | retained => exact later holds

/-- Entries of other services do not influence the merge of a service. -/
private theorem mergeEntries_of_absent (deletedServices : List SecureString)
    {service : SecureString} {entries : List VaultEntry}
    (absent : service ∉ entries.map VaultEntry.service) (vault : Vault)
    (clock : Clock) :
    (mergeEntries deletedServices entries vault clock).1.getEntry service =
      vault.getEntry service := by
  refine @mergeEntries_preserves (fun after _ => after.getEntry service =
    vault.getEntry service) deletedServices entries ?_ vault clock rfl
  intro entry member after later unchanged
  obtain ⟨stored, _, bound⟩ := after.getEntry_addEntry entry later
  have differs : entry.service ≠ service := by
    rintro rfl
    exact absent (List.mem_map_of_mem member)
  rw [bound, if_neg differs, unchanged]

/-- The head of the list decides its own service. -/
theorem Merging.mergedEntry {deletedServices : List SecureString}
    {entry : VaultEntry} {vault : Vault} {clock : Clock}
    {next : Vault × Clock}
    (merging : Merging deletedServices entry vault clock next) :
    MergedEntry deletedServices entry.service (some entry)
      (vault.getEntry entry.service) (next.1.getEntry entry.service) := by
  obtain ⟨stored, restamps, bound⟩ := vault.getEntry_addEntry entry clock
  cases merging with
  | skipped deleted => exact .kept (.inl deleted)
  | taken live absent =>
      rw [bound, if_pos rfl]
      exact .taken live rfl absent restamps
  | replaced live cached newer =>
      have stamped : entry.lastUpdated ≠ 0 := by
        intro unset
        rw [unset] at newer
        exact absurd newer (UInt64.not_lt_zero)
      rw [bound, if_pos rfl, restamps.eq_of_stamped stamped]
      exact .replaced live rfl cached newer
  | retained live cached notNewer =>
      rw [cached]
      exact .retained live rfl rfl notNewer

/-- It leaves every other service alone. -/
theorem Merging.getEntry_of_ne {deletedServices : List SecureString}
    {entry : VaultEntry} {vault : Vault} {clock : Clock}
    {next : Vault × Clock} {service : SecureString}
    (merging : Merging deletedServices entry vault clock next)
    (differs : entry.service ≠ service) :
    next.1.getEntry service = vault.getEntry service := by
  obtain ⟨stored, _, bound⟩ := vault.getEntry_addEntry entry clock
  have added := bound service
  rw [if_neg differs] at added
  cases merging with
  | skipped => rfl
  | taken => exact added
  | replaced => exact added
  | retained => rfl

/-- The merge loop decides every service on its own. -/
theorem getEntry_mergeEntries (deletedServices : List SecureString)
    (service : SecureString) {entries : List VaultEntry}
    (distinct : KeyedList.Distinct VaultEntry.service entries) (vault : Vault)
    (clock : Clock) :
    MergedEntry deletedServices service
      (KeyedList.lookup VaultEntry.service service entries)
      (vault.getEntry service)
      ((mergeEntries deletedServices entries vault clock).1.getEntry
        service) := by
  induction entries generalizing vault clock with
  | nil => exact .kept (.inr rfl)
  | cons head tail inductionHypothesis =>
      rw [KeyedList.Distinct, List.map_cons, List.nodup_cons] at distinct
      obtain ⟨next, merging, same⟩ :=
        mergeEntries_cons deletedServices head tail vault clock
      rw [KeyedList.lookup_cons, same]
      by_cases hit : head.service = service
      · -- The head decides; the tail does not mention the service again.
        subst hit
        rw [if_pos rfl, mergeEntries_of_absent deletedServices distinct.1]
        exact merging.mergedEntry
      · -- The head writes another service.
        rw [if_neg hit, ← merging.getEntry_of_ne hit]
        exact inductionHypothesis distinct.2 next.1 next.2

/-- The merge leaves a service that is not on disk alone. -/
theorem MergedEntry.eq_mine_of_missing {deletedServices : List SecureString}
    {service : SecureString} {mine merged : Option VaultEntry}
    (merge : MergedEntry deletedServices service none mine merged) :
    merged = mine := by
  cases merge with
  | kept => rfl
  | taken _ onDisk => cases onDisk
  | replaced _ onDisk => cases onDisk
  | retained _ onDisk => cases onDisk

/-- The merge leaves a service on the deletion list alone. -/
theorem MergedEntry.eq_mine_of_deleted {deletedServices : List SecureString}
    {service : SecureString} {disk mine merged : Option VaultEntry}
    (merge : MergedEntry deletedServices service disk mine merged)
    (deleted : service ∈ deletedServices) : merged = mine := by
  cases merge with
  | kept => rfl
  | taken live => exact absurd deleted live
  | replaced live => exact absurd deleted live
  | retained live => exact absurd deleted live

/-- On vaults whose entries all carry times the merge is the masked
last-writer-wins choice. -/
theorem MergedEntry.eq_newer {deletedServices : List SecureString}
    {service : SecureString} {disk mine merged : Option VaultEntry}
    (merge : MergedEntry deletedServices service disk mine merged)
    (live : service ∉ deletedServices)
    (stamped : ∀ entry, disk = some entry → entry.lastUpdated ≠ 0) :
    merged =
      LastWriter.newer (fun entry => entry.lastUpdated.toNat) mine disk := by
  cases merge with
  | kept skipped =>
      rcases skipped with deleted | missing
      · exact absurd deleted live
      · rw [missing]
        cases mine <;> rfl
  | taken _ onDisk absent restamps =>
      rw [onDisk, absent, restamps.eq_of_stamped (stamped _ onDisk)]
      rfl
  | replaced _ onDisk cached newer =>
      rw [onDisk, cached, LastWriter.newer,
        if_pos (UInt64.lt_iff_toNat_lt.mp newer)]
  | retained _ onDisk cached notNewer =>
      rw [onDisk, cached, LastWriter.newer,
        if_neg (fun lt => notNewer (UInt64.lt_iff_toNat_lt.mpr lt))]

/-- The entry on disk will replace the cached one. -/
def Supersedes (deletedServices : List SecureString) (service : SecureString)
    (cached entry : VaultEntry) : Prop :=
  service ∉ deletedServices ∧ cached.lastUpdated < entry.lastUpdated

/-- What a merge makes of a cached entry: it is kept, unless the disk has one
that supersedes it. -/
theorem MergedEntry.of_cached {deletedServices : List SecureString}
    {service : SecureString} {disk merged : Option VaultEntry}
    {cached : VaultEntry}
    (merge : MergedEntry deletedServices service disk (some cached) merged) :
    (∃ entry, disk = some entry ∧
        Supersedes deletedServices service cached entry ∧
        merged = some entry) ∨
      (∀ entry, disk = some entry →
        ¬ Supersedes deletedServices service cached entry) ∧
        merged = some cached := by
  cases merge with
  | kept skipped =>
      refine .inr ⟨?_, rfl⟩
      rintro entry onDisk ⟨live, _⟩
      rcases skipped with deleted | missing
      · exact live deleted
      · rw [missing] at onDisk
        cases onDisk
  | taken _ _ absent => cases absent
  | replaced live onDisk same newer =>
      cases same
      exact .inl ⟨_, onDisk, ⟨live, newer⟩, rfl⟩
  | retained _ onDisk same notNewer =>
      cases same
      refine .inr ⟨?_, rfl⟩
      rintro entry found ⟨_, newer⟩
      rw [onDisk] at found
      cases found
      exact notNewer newer

theorem mergeEntries_stamped {deletedServices : List SecureString}
    {entries : List VaultEntry} {vault : Vault} {clock : Clock}
    (stamped : vault.Stamped) (nonZero : clock.NonZero) :
    (mergeEntries deletedServices entries vault clock).1.Stamped := by
  have both := @mergeEntries_preserves
    (fun vault clock => vault.Stamped ∧ clock.NonZero) deletedServices entries
    (fun entry _ _ _ holds => holds.1.addEntry entry holds.2) vault clock
    ⟨stamped, nonZero⟩
  exact both.1

/-- Entries that carry times are merged without a look at the clock. -/
theorem mergeEntries_stamped_of_stamped
    {deletedServices : List SecureString} {entries : List VaultEntry}
    {vault : Vault} (clock : Clock)
    (diskStamped : ∀ entry ∈ entries, entry.lastUpdated ≠ 0)
    (stamped : vault.Stamped) :
    (mergeEntries deletedServices entries vault clock).1.Stamped := by
  refine @mergeEntries_preserves (fun vault _ => vault.Stamped) deletedServices
    entries ?_ vault clock stamped
  intro entry member vault clock holds
  have entryStamped := diskStamped entry member
  rw [Vault.addEntry_of_ne_zero entryStamped]
  exact holds.store entryStamped

end DuckPass
