/-
Module: DuckPass.System.EntryInvariant
Purpose: The rule for invariants that ask one thing of every entry, in the
  instances and in the vault file.
Trusted boundary: none
Main exports: Steady, Vault.All, Vault.All.restamp, Vault.All.mergeEntries,
  Preserves.all
-/
import DuckPass.System.Invariant

namespace DuckPass

variable {path : Path}

/-- What is asked of an entry survives that a missing time is filled in. -/
def Steady (asked : VaultEntry → Prop) : Prop :=
  ∀ {before after : VaultEntry}, before.Restamps after → asked before →
    asked after

/-- Every entry has the property. -/
def Vault.All (asked : VaultEntry → Prop) (vault : Vault) : Prop :=
  ∀ entry ∈ vault.entries, asked entry

namespace Vault.All

variable {asked : VaultEntry → Prop} {vault : Vault} {entry : VaultEntry}

/-- What holds of all entries still does when one is stored of which it holds.
-/
theorem store (all : vault.All asked) (new : asked entry) :
    (vault.store entry).All asked := by
  intro other member
  rcases KeyedList.mem_upsert member with rfl | old
  · exact new
  · exact all other old

/-- The time that `add_entry` gives an entry does not matter. -/
theorem addEntry (steady : Steady asked) (all : vault.All asked)
    (new : asked entry) (clock : Clock) :
    (vault.addEntry entry clock).1.All asked := by
  unfold Vault.addEntry
  split
  · next unset => exact all.store (steady (.filled unset clock.time) new)
  · exact all.store new

/-- Removing leaves fewer entries. -/
theorem removeEntry {service : SecureString} (all : vault.All asked) :
    (vault.removeEntry service).1.All asked :=
  fun entry member => all entry (List.mem_of_mem_filter member)

/-- A load fills in missing times. -/
theorem restamp (steady : Steady asked) (all : vault.All asked)
    (clock : Clock) : (vault.restamp clock).1.All asked := by
  intro entry member
  have found := KeyedList.lookup_of_mem (vault.restamp clock).1.distinct member
  rcases vault.restamp_getEntry clock entry.service with
    ⟨_, absent⟩ | ⟨before, stored, present, restamps, after⟩
  · cases absent.symm.trans found
  · cases after.symm.trans found
    exact steady restamps (all before (mem_of_getEntry present))

/-- A merge brings in nothing but entries of the disk. -/
theorem mergeEntries (steady : Steady asked)
    {deletedServices : List SecureString} {entries : List VaultEntry}
    (clock : Clock) (disk : ∀ entry ∈ entries, asked entry)
    (all : vault.All asked) :
    (mergeEntries deletedServices entries vault clock).1.All asked := by
  apply @mergeEntries_preserves (fun vault _ => vault.All asked)
    deletedServices entries _ vault clock all
  intro entry member before clock holds
  exact holds.addEntry steady (disk entry member) clock

end Vault.All

/-- Such an invariant survives every step if it survives what a call does
before the lock. -/
theorem Preserves.all {asked : VaultEntry → Prop} {system : System path}
    {event : Event} (steady : Steady asked)
    (staged : ∀ (id : Nat) (request : Request) (clock : Clock)
        (self after : VaultService), event = .call id request clock →
      self.vault.All asked → Staging clock self request after →
      after.vault.All asked) :
    Preserves (Vault.All asked)
      (fun session => session.service.vault.All asked) system event where
  fresh after disk _ _ := disk
  staged id request clock session after same all _ staging _ :=
    staged id request clock _ _ same all staging
  refused id env clock session after _ _ all same _ := by
    rw [same]
    exact all
  merged id env clock session disk rest _ _ all diskAll := by
    have merged := @Vault.All.mergeEntries _ _ steady
      session.service.deletedServices _ rest diskAll all
    refine ⟨merged.restamp steady, ?_⟩
    intro after same _ _
    rw [same]
    exact merged

end DuckPass
