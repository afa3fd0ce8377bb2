/-
Module: DuckPass.Proofs.VaultMap
Purpose: A vault after any calls of `add_entry` and `remove_entry` is a finite
  map from service names to entries, in the order the names came in.
Trusted boundary: none
Main exports: VaultCall, Vault.afterCalls, Vault.changes,
  Vault.afterCalls_entries, Vault.LastAdded, Vault.IsMapAfter,
  vault_is_finite_map
-/
import DuckPass.Core.Vault
import DuckPass.Lib.KeyedChanges

namespace DuckPass

open KeyedList (Change)

/-- The calls that change a vault. -/
inductive VaultCall where
  | addEntry (entry : VaultEntry)
  | removeEntry (service : SecureString)
deriving Repr, DecidableEq

/-- The service a call is about. -/
def VaultCall.service : VaultCall → SecureString
  | addEntry entry => entry.service
  | removeEntry service => service

/-- The entry `add_entry` stores: a missing time is read from the clock. -/
def VaultEntry.stamped (entry : VaultEntry) (clock : Clock) : VaultEntry :=
  if entry.lastUpdated = 0 then { entry with lastUpdated := clock.time }
  else entry

@[simp] theorem VaultEntry.stamped_service (entry : VaultEntry)
    (clock : Clock) : (entry.stamped clock).service = entry.service := by
  unfold stamped
  split
  · rfl
  · rfl

namespace Vault

/-! ## Calls -/

def call (state : Vault × Clock) : VaultCall → Vault × Clock
  | .addEntry entry => state.1.addEntry entry state.2
  | .removeEntry service => ((state.1.removeEntry service).1, state.2)

/-- The vault and the clock after the calls, from the empty vault on. -/
def afterCalls (clock : Clock) (calls : List VaultCall) : Vault × Clock :=
  calls.foldl call (empty, clock)

/-- The change a call makes to the container, and the clock it leaves. -/
def change (clock : Clock) :
    VaultCall → Change VaultEntry SecureString × Clock
  | .addEntry entry =>
      (.put (entry.stamped clock),
        if entry.lastUpdated = 0 then clock.tick else clock)
  | .removeEntry service => (.erase service, clock)

/-- The changes of one call after the other. -/
def changes : Clock → List VaultCall → List (Change VaultEntry SecureString)
  | _, [] => []
  | clock, next :: calls =>
      (change clock next).1 :: changes (change clock next).2 calls

/-- `add_entry` stores the entry with its time. -/
theorem addEntry_eq (vault : Vault) (entry : VaultEntry) (clock : Clock) :
    vault.addEntry entry clock =
      (vault.store (entry.stamped clock),
        if entry.lastUpdated = 0 then clock.tick else clock) := by
  unfold addEntry VaultEntry.stamped
  split
  · rfl
  · rfl

/-- A call is a change of the list and reads the clock as often as the source
does. -/
theorem call_entries (state : Vault × Clock) (next : VaultCall) :
    (call state next).1.entries =
        (change state.2 next).1.apply VaultEntry.service state.1.entries ∧
      (call state next).2 = (change state.2 next).2 := by
  cases next with
  | addEntry entry =>
      have added := addEntry_eq state.1 entry state.2
      exact ⟨congrArg (fun result => result.1.entries) added,
        congrArg Prod.snd added⟩
  | removeEntry service => exact ⟨rfl, rfl⟩

/-- The clock after the calls. -/
def clockAfter (clock : Clock) (calls : List VaultCall) : Clock :=
  calls.foldl (fun clock next => (change clock next).2) clock

/-- So are many. -/
theorem foldl_call (state : Vault × Clock) (calls : List VaultCall) :
    (calls.foldl call state).1.entries =
        (changes state.2 calls).foldl (Change.apply VaultEntry.service)
          state.1.entries ∧
      (calls.foldl call state).2 = clockAfter state.2 calls := by
  induction calls generalizing state with
  | nil => exact ⟨rfl, rfl⟩
  | cons next calls inductionHypothesis =>
      obtain ⟨entries, clock⟩ := call_entries state next
      obtain ⟨entriesLater, clockLater⟩ :=
        inductionHypothesis (call state next)
      constructor
      · rw [List.foldl_cons, entriesLater, changes, List.foldl_cons, entries,
          clock]
      · rw [List.foldl_cons, clockLater, clock]
        rfl

/-- The container goes through the changes of the calls. -/
theorem afterCalls_entries (clock : Clock) (calls : List VaultCall) :
    (afterCalls clock calls).1.entries =
      KeyedList.applyAll VaultEntry.service (changes clock calls) :=
  (foldl_call (empty, clock) calls).1

/-- The clock after the calls. -/
theorem afterCalls_clock (clock : Clock) (calls : List VaultCall) :
    (afterCalls clock calls).2 = clockAfter clock calls :=
  (foldl_call (empty, clock) calls).2

/-- A lookup finds what the changes have made of the service. -/
theorem getEntry_afterCalls (clock : Clock) (calls : List VaultCall)
    (service : SecureString) :
    (afterCalls clock calls).1.getEntry service =
      KeyedList.updateAll VaultEntry.service (changes clock calls)
        service := by
  unfold getEntry
  rw [afterCalls_entries, KeyedList.lookup_applyAll]

/-! ## What the calls leave -/

theorem target_change (clock : Clock) (next : VaultCall) :
    (change clock next).1.target VaultEntry.service = next.service := by
  cases next with
  | addEntry entry => exact entry.stamped_service clock
  | removeEntry service => rfl

/-- A change is about the service of its call. -/
theorem map_target_changes (clock : Clock) (calls : List VaultCall) :
    (changes clock calls).map (Change.target VaultEntry.service) =
      calls.map VaultCall.service := by
  induction calls generalizing clock with
  | nil => rfl
  | cons next calls inductionHypothesis =>
      rw [changes, List.map_cons, List.map_cons, target_change,
        inductionHypothesis]

/-- The changes of two lists of calls. -/
theorem changes_append (clock : Clock) (before after : List VaultCall) :
    changes clock (before ++ after) =
      changes clock before ++ changes (clockAfter clock before) after := by
  induction before generalizing clock with
  | nil => rfl
  | cons next before inductionHypothesis =>
      rw [List.cons_append, changes, inductionHypothesis]
      rfl

/-- Every change is that of a call. -/
theorem changes_split {clock : Clock} {calls : List VaultCall}
    {front back : List (Change VaultEntry SecureString)} {stored : VaultEntry}
    (split : changes clock calls = front ++ .put stored :: back) :
    ∃ before entry after, calls = before ++ .addEntry entry :: after ∧
      stored = entry.stamped (clockAfter clock before) ∧
      back.map (Change.target VaultEntry.service) =
        after.map VaultCall.service := by
  induction calls generalizing clock front with
  | nil => cases front <;> cases split
  | cons next calls inductionHypothesis =>
      rw [changes] at split
      cases front with
      | nil =>
          obtain ⟨now, rfl⟩ := List.cons.inj split
          cases next with
          | addEntry entry =>
              refine ⟨[], entry, calls, rfl, ?_, map_target_changes _ _⟩
              exact (Change.put.inj now).symm
          | removeEntry service => cases now
      | cons head front =>
          obtain ⟨_, later⟩ := List.cons.inj split
          obtain ⟨before, entry, after, rfl, result, targets⟩ :=
            inductionHypothesis later
          exact ⟨next :: before, entry, after, rfl, result, targets⟩

/-- The entry was added, with its time if it had one, and no later call was
about its service. -/
def LastAdded (clock : Clock) (calls : List VaultCall) (stored : VaultEntry) :
    Prop :=
  ∃ before entry after, calls = before ++ .addEntry entry :: after ∧
    stored = entry.stamped (afterCalls clock before).2 ∧
    ∀ later ∈ after, later.service ≠ entry.service

/-- The changes that still stand are the additions that were last for their
service. -/
theorem standing_changes_iff (clock : Clock) (calls : List VaultCall)
    (stored : VaultEntry) :
    KeyedList.Standing VaultEntry.service (changes clock calls) stored ↔
      LastAdded clock calls stored := by
  constructor
  · rintro ⟨front, back, split, quiet⟩
    obtain ⟨before, entry, after, rfl, rfl, targets⟩ := changes_split split
    refine ⟨before, entry, after, rfl, ?_, ?_⟩
    · rw [afterCalls_clock]
    · intro later member same
      have among : later.service ∈
          back.map (Change.target VaultEntry.service) := by
        rw [targets]
        exact List.mem_map_of_mem member
      obtain ⟨other, otherMember, otherTarget⟩ := List.mem_map.mp among
      apply quiet other otherMember
      rw [otherTarget, same, VaultEntry.stamped_service]
  · rintro ⟨before, entry, after, rfl, rfl, quiet⟩
    refine ⟨changes clock before,
      changes (change (clockAfter clock before) (.addEntry entry)).2 after,
      ?_, ?_⟩
    · rw [changes_append, afterCalls_clock]
      rfl
    · intro later member same
      have among : later.target VaultEntry.service ∈
          after.map VaultCall.service := by
        rw [← map_target_changes]
        exact List.mem_map_of_mem member
      obtain ⟨other, otherMember, otherService⟩ := List.mem_map.mp among
      apply quiet other otherMember
      rw [otherService, same, VaultEntry.stamped_service]

/-- A lookup finds an entry exactly if it was the last one added. -/
theorem getEntry_eq_some_iff_lastAdded (clock : Clock)
    (calls : List VaultCall) (service : SecureString) (stored : VaultEntry) :
    (afterCalls clock calls).1.getEntry service = some stored ↔
      stored.service = service ∧ LastAdded clock calls stored := by
  unfold getEntry
  rw [afterCalls_entries, KeyedList.lookup_applyAll_eq_some_iff,
    standing_changes_iff]

/-! ## One more call -/

section Frame

variable {vault : Vault} {entry : VaultEntry} {service : SecureString}
  {clock : Clock}

/-- A new service goes to the end. -/
theorem addEntry_of_fresh
    (fresh : entry.service ∉ vault.entries.map VaultEntry.service) :
    (vault.addEntry entry clock).1.entries =
      vault.entries ++ [entry.stamped clock] := by
  rw [addEntry_eq]
  apply KeyedList.upsert_of_not_mem
  rw [VaultEntry.stamped_service]
  exact fresh

/-- A known one keeps its place. -/
theorem addEntry_of_present
    (present : entry.service ∈ vault.entries.map VaultEntry.service) :
    ∃ front old back, vault.entries = front ++ old :: back ∧
      old.service = entry.service ∧
      (vault.addEntry entry clock).1.entries =
        front ++ entry.stamped clock :: back := by
  rw [addEntry_eq]
  have named : (entry.stamped clock).service ∈
      vault.entries.map VaultEntry.service := by
    rw [VaultEntry.stamped_service]
    exact present
  obtain ⟨front, old, back, split, oldService, _, result⟩ :=
    KeyedList.upsert_of_mem named
  rw [VaultEntry.stamped_service] at oldService
  exact ⟨front, old, back, split, oldService, result⟩

/-- `remove_entry` returns whether it found the service. -/
theorem removeEntry_snd_iff :
    (vault.removeEntry service).2 = true ↔
      service ∈ vault.entries.map VaultEntry.service := by
  unfold removeEntry
  rw [decide_eq_true_iff, KeyedList.eraseKey_length_lt_iff]

/-- The entries of other services stay as they are, in their order. -/
theorem call_others (next : VaultCall) :
    (call (vault, clock) next).1.entries.filter
        (fun other => other.service ≠ next.service) =
      vault.entries.filter fun other => other.service ≠ next.service := by
  rw [(call_entries (vault, clock) next).1, ← target_change clock next]
  exact KeyedList.eraseKey_target_apply

end Frame

/-- The vault is the finite map that the calls make, kept as a list. -/
structure IsMapAfter (clock : Clock) (calls : List VaultCall)
    (vault : Vault) : Prop where
  names : (vault.entries.map VaultEntry.service).Nodup
  simulates : vault.getEntry =
    KeyedList.updateAll VaultEntry.service (changes clock calls)
  lastAdded : ∀ service stored, vault.getEntry service = some stored ↔
    stored.service = service ∧ LastAdded clock calls stored
  removes : ∀ service,
    ((vault.removeEntry service).2 = true ↔
      service ∈ vault.entries.map VaultEntry.service) ∧
    (vault.removeEntry service).1.entries =
      vault.entries.filter fun other => other.service ≠ service
  others : ∀ next now,
    (call (vault, now) next).1.entries.filter
        (fun other => other.service ≠ next.service) =
      vault.entries.filter fun other => other.service ≠ next.service
  appends : ∀ entry now,
    entry.service ∉ vault.entries.map VaultEntry.service →
      (vault.addEntry entry now).1.entries =
        vault.entries ++ [entry.stamped now]
  replaces : ∀ entry now,
    entry.service ∈ vault.entries.map VaultEntry.service →
      ∃ front old back, vault.entries = front ++ old :: back ∧
        old.service = entry.service ∧
        (vault.addEntry entry now).1.entries =
          front ++ entry.stamped now :: back

end Vault

/-- After any calls from the empty vault, the vault is a finite map: a lookup
answers with what was added last and not removed since, a removal takes away
what is there and nothing else, and an entry for a name that is there replaces
the old one in its place. -/
theorem vault_is_finite_map (clock : Clock) (calls : List VaultCall) :
    (Vault.afterCalls clock calls).1.IsMapAfter clock calls where
  names := by
    rw [Vault.afterCalls_entries]
    exact KeyedList.distinct_applyAll VaultEntry.service _
  simulates := funext (Vault.getEntry_afterCalls clock calls)
  lastAdded := Vault.getEntry_eq_some_iff_lastAdded clock calls
  removes _ := ⟨Vault.removeEntry_snd_iff, rfl⟩
  others next _ := Vault.call_others next
  appends _ _ := Vault.addEntry_of_fresh
  replaces _ _ := Vault.addEntry_of_present

end DuckPass
