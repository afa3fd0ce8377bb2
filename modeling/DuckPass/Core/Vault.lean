/-
Module: DuckPass.Core.Vault
Purpose: The in-memory vault of `vault.h` and the entry operations of
  `vault.cpp`.
Trusted boundary: none
Main exports: VaultEntry, Credentials, Vault, Vault.addEntry, Vault.removeEntry,
  Vault.getEntry
-/
import DuckPass.Core.Types
import DuckPass.Lib.KeyedList

namespace DuckPass

/-- One account entry.  A zero `lastUpdated` means that no time was set. -/
structure VaultEntry where
  service : SecureString
  username : SecureString
  password : SecureString
  totpSecret : SecureString
  lastUpdated : UInt64
deriving Repr, Inhabited, DecidableEq

/-- What an entry says about the account: everything but its name and time. -/
structure Credentials where
  username : SecureString
  password : SecureString
  totpSecret : SecureString
deriving Repr, Inhabited, DecidableEq

def VaultEntry.credentials (entry : VaultEntry) : Credentials :=
  ⟨entry.username, entry.password, entry.totpSecret⟩

/-- The entry container.  `entries` is private in the source and only the
operations below change it, so it never holds one service name twice. -/
structure Vault where
  entries : List VaultEntry
  distinct : KeyedList.Distinct VaultEntry.service entries

namespace Vault

/-- A vault is its entries. -/
@[ext] theorem ext {left right : Vault}
    (same : left.entries = right.entries) : left = right := by
  cases left
  cases right
  simpa using same

instance : DecidableEq Vault := fun left right =>
  decidable_of_iff (left.entries = right.entries)
    ⟨Vault.ext, congrArg Vault.entries⟩

/-- A default-constructed vault. -/
def empty : Vault := ⟨[], List.nodup_nil⟩

/-- The second half of `Vault::add_entry`: assign through the iterator found
for the service name, or push the entry back. -/
def store (vault : Vault) (entry : VaultEntry) : Vault :=
  ⟨KeyedList.upsert VaultEntry.service entry vault.entries,
    KeyedList.distinct_upsert vault.distinct⟩

/-- `Vault::add_entry`.  An entry without a time is stamped from the clock,
which then moves on to its next reading. -/
def addEntry (vault : Vault) (entry : VaultEntry) (clock : Clock) :
    Vault × Clock :=
  if entry.lastUpdated = 0 then
    (vault.store { entry with lastUpdated := clock.time }, clock.tick)
  else
    (vault.store entry, clock)

/-- `Vault::remove_entry`: the vault without the service, and whether
`remove_if` found anything to erase. -/
def removeEntry (vault : Vault) (service : SecureString) : Vault × Bool :=
  let kept := KeyedList.eraseKey VaultEntry.service service vault.entries
  (⟨kept, KeyedList.distinct_eraseKey vault.distinct⟩,
    decide (kept.length < vault.entries.length))

/-- `Vault::get_entry`. -/
def getEntry (vault : Vault) (service : SecureString) : Option VaultEntry :=
  KeyedList.lookup VaultEntry.service service vault.entries

section Lookup

variable {vault : Vault} {entry : VaultEntry} {service : SecureString}

/-- The entry found for a service is one of that service. -/
theorem service_of_getEntry (found : vault.getEntry service = some entry) :
    entry.service = service :=
  KeyedList.key_of_lookup found

/-- What is found is in the vault. -/
theorem mem_of_getEntry (found : vault.getEntry service = some entry) :
    entry ∈ vault.entries :=
  KeyedList.mem_of_lookup found

/-- The stored entry is found under its own service, and the others as before.
-/
theorem getEntry_store :
    (vault.store entry).getEntry service =
      if entry.service = service then some entry
      else vault.getEntry service :=
  KeyedList.lookup_upsert

/-- Nothing is found under the service that was removed, and the others as
before. -/
theorem getEntry_removeEntry {removed : SecureString} :
    (vault.removeEntry removed).1.getEntry service =
      if service = removed then none else vault.getEntry service :=
  KeyedList.lookup_eraseKey

/-- `remove_entry` reports success exactly for a service that was present. -/
theorem removeEntry_snd :
    (vault.removeEntry service).2 = (vault.getEntry service).isSome := by
  rw [Bool.eq_iff_iff]
  simp only [removeEntry, decide_eq_true_eq,
    KeyedList.eraseKey_length_lt_iff]
  rw [← not_iff_not, ← KeyedList.lookup_eq_none_iff]
  simp [getEntry]

/-- An entry that carries a time is stored as it is and reads no clock. -/
theorem addEntry_of_ne_zero {clock : Clock} (stamped : entry.lastUpdated ≠ 0) :
    vault.addEntry entry clock = (vault.store entry, clock) := by
  rw [addEntry, if_neg stamped]

end Lookup

/-- Every entry carries a time. -/
def Stamped (vault : Vault) : Prop :=
  ∀ entry ∈ vault.entries, entry.lastUpdated ≠ 0

theorem Stamped.empty : Vault.empty.Stamped := by
  intro entry member
  cases member

/-- A vault all of whose entries have times keeps that with an entry that has
one. -/
theorem Stamped.store {vault : Vault} {entry : VaultEntry}
    (stamped : vault.Stamped) (entryStamped : entry.lastUpdated ≠ 0) :
    (vault.store entry).Stamped := by
  intro other member
  rcases KeyedList.mem_upsert member with rfl | old
  · exact entryStamped
  · exact stamped other old

/-- `add_entry` gives a time to an entry without one, if the clock shows one. -/
theorem Stamped.addEntry {vault : Vault} (entry : VaultEntry) {clock : Clock}
    (stamped : vault.Stamped) (nonZero : clock.NonZero) :
    (vault.addEntry entry clock).1.Stamped ∧
      (vault.addEntry entry clock).2.NonZero := by
  unfold Vault.addEntry
  split
  · exact ⟨stamped.store nonZero.time, nonZero.tick⟩
  · next entryStamped => exact ⟨stamped.store entryStamped, nonZero⟩

theorem Stamped.removeEntry {vault : Vault} {service : SecureString}
    (stamped : vault.Stamped) : (vault.removeEntry service).1.Stamped :=
  fun entry member => stamped entry (List.mem_of_mem_filter member)

end Vault

end DuckPass
