/-
Module: DuckPass.Proofs.Disk
Purpose: What can be read from a vault file, under any password and at any
  time: the credentials of every service, and what a merge with the file makes
  of an instance's copy.
Trusted boundary: none beyond the named properties of the primitives.
Main exports: Vault.credentials, OpensWith, Reads, SealedBlob.reads,
  openVaultBlob_credentials, openVaultBlob_stamped, MergesTo.getEntry
-/
import DuckPass.Proofs.VaultService

namespace DuckPass

/-! ## Credentials -/

/-- The vault as a finite map from services to credentials. -/
def Vault.credentials (vault : Vault) (service : SecureString) :
    Option Credentials :=
  (vault.getEntry service).map VaultEntry.credentials

/-- A new time leaves the credentials. -/
theorem VaultEntry.Restamps.credentials_eq {before after : VaultEntry}
    (restamps : before.Restamps after) :
    after.credentials = before.credentials := by
  cases restamps <;> rfl

/-- A time that is filled in is not earlier than none. -/
theorem VaultEntry.Restamps.lastUpdated_le {before after : VaultEntry}
    (restamps : before.Restamps after) :
    before.lastUpdated ≤ after.lastUpdated := by
  cases restamps with
  | kept => exact UInt64.le_refl _
  | filled unset time =>
      rw [unset]
      exact UInt64.zero_le

namespace Vault

variable {vault : Vault} {service : SecureString}

/-- There are credentials where there is an entry. -/
theorem credentials_eq_none_iff :
    vault.credentials service = none ↔ vault.getEntry service = none := by
  rw [credentials, Option.map_eq_none_iff]

/-- They depend on the entry alone. -/
theorem credentials_congr {other : Vault}
    (same : vault.getEntry service = other.getEntry service) :
    vault.credentials service = other.credentials service :=
  congrArg (Option.map _) same

/-- Storing an entry changes the credentials of its service. -/
theorem credentials_store (entry : VaultEntry) :
    (vault.store entry).credentials service =
      if entry.service = service then some entry.credentials
      else vault.credentials service := by
  rw [credentials, getEntry_store]
  split
  · rfl
  · rfl

/-- Removing one takes them away. -/
theorem credentials_removeEntry (removed : SecureString) :
    (vault.removeEntry removed).1.credentials service =
      if service = removed then none else vault.credentials service := by
  rw [credentials, getEntry_removeEntry]
  split
  · rfl
  · rfl

/-- So does adding, whatever the time. -/
theorem credentials_addEntry (entry : VaultEntry) (clock : Clock) :
    (vault.addEntry entry clock).1.credentials service =
      if entry.service = service then some entry.credentials
      else vault.credentials service := by
  obtain ⟨stored, restamps, bound⟩ := vault.getEntry_addEntry entry clock
  rw [credentials, bound]
  split
  · rw [Option.map_some, restamps.credentials_eq]
  · rfl

/-- Filling in times changes none. -/
theorem credentials_restamp (clock : Clock) :
    (vault.restamp clock).1.credentials service =
      vault.credentials service := by
  rcases vault.restamp_getEntry clock service with
    ⟨before, after⟩ | ⟨entry, stored, before, restamps, after⟩
  · rw [credentials, credentials, before, after]
  · rw [credentials, credentials, before, after, Option.map_some,
      Option.map_some, restamps.credentials_eq]

end Vault

/-! ## Reading a payload at different times -/

/-- The clock only decides times: the loop reads the same credentials whenever
it runs. -/
theorem deserializeLoop_credentials {bytes : SecureBytes} {version : UInt32}
    {remaining offset : Nat} {vault other : Vault} {clock rest : Clock}
    {read : Vault}
    (same : ∀ service, vault.credentials service = other.credentials service)
    (finished : deserializeLoop bytes version remaining offset vault clock =
      .ok (read, rest)) (otherClock : Clock) :
    ∃ otherRead otherRest,
      deserializeLoop bytes version remaining offset other otherClock =
        .ok (otherRead, otherRest) ∧
      ∀ service, read.credentials service = otherRead.credentials service := by
  induction remaining generalizing offset vault other clock otherClock with
  | zero =>
      cases finished
      exact ⟨other, otherClock, rfl, same⟩
  | succ remaining inductionHypothesis =>
      obtain ⟨⟨entry, offset⟩, readEq, finished⟩ := bind_eq_ok.mp finished
      have sameNext : ∀ service,
          (vault.addEntry entry clock).1.credentials service =
            (other.addEntry entry otherClock).1.credentials service := by
        intro service
        rw [Vault.credentials_addEntry, Vault.credentials_addEntry,
          same service]
      obtain ⟨otherRead, otherRest, otherFinished, sameRead⟩ :=
        inductionHypothesis sameNext finished
          (other.addEntry entry otherClock).2
      refine ⟨otherRead, otherRest, ?_, sameRead⟩
      exact bind_eq_ok.mpr ⟨(entry, offset), readEq, otherFinished⟩

/-- What is read shows the same credentials at any time. -/
theorem deserialize_credentials {bytes : SecureBytes} {version : UInt32}
    {clock rest : Clock} {read : Vault}
    (finished : Vault.deserialize bytes version clock = .ok (read, rest))
    (otherClock : Clock) :
    ∃ otherRead otherRest,
      Vault.deserialize bytes version otherClock =
        .ok (otherRead, otherRest) ∧
      ∀ service, read.credentials service = otherRead.credentials service := by
  unfold Vault.deserialize at finished ⊢
  split
  · next empty =>
      rw [if_pos empty] at finished
      cases finished
      exact ⟨Vault.empty, otherClock, rfl, fun _ => rfl⟩
  · next nonEmpty =>
      rw [if_neg nonEmpty] at finished
      obtain ⟨⟨count, offset⟩, countEq, finished⟩ := bind_eq_ok.mp finished
      obtain ⟨otherRead, otherRest, otherFinished, same⟩ :=
        deserializeLoop_credentials (fun _ => rfl) finished otherClock
      exact ⟨otherRead, otherRest,
        bind_eq_ok.mpr ⟨(count, offset), countEq, otherFinished⟩, same⟩

/-- A file that opens under a password opens under it at any time, to the same
credentials. -/
theorem openVaultBlob_credentials {primitives : Primitives}
    {cipherFault : Option String} {blob : SecureBytes}
    {password : SecureString} {clock rest : Clock} {disk : Vault}
    (finished : openVaultBlob primitives cipherFault blob password clock =
      .ok (disk, rest)) (otherClock : Clock) :
    ∃ otherDisk otherRest,
      openVaultBlob primitives cipherFault blob password otherClock =
        .ok (otherDisk, otherRest) ∧
      ∀ service, disk.credentials service = otherDisk.credentials service := by
  unfold openVaultBlob at finished ⊢
  obtain ⟨header, headerEq, finished⟩ := bind_eq_ok.mp finished
  obtain ⟨key, keyEq, finished⟩ := bind_eq_ok.mp finished
  obtain ⟨plaintext, plaintextEq, finished⟩ := bind_eq_ok.mp finished
  obtain ⟨otherDisk, otherRest, otherFinished, same⟩ :=
    deserialize_credentials finished otherClock
  refine ⟨otherDisk, otherRest, ?_, same⟩
  exact bind_eq_ok.mpr ⟨header, headerEq, bind_eq_ok.mpr ⟨key, keyEq,
    bind_eq_ok.mpr ⟨plaintext, plaintextEq, otherFinished⟩⟩⟩

/-! ## Times of a loaded vault -/

/-- What is read has times if the clock shows some. -/
theorem deserializeLoop_stamped {bytes : SecureBytes} {version : UInt32}
    {remaining offset : Nat} {vault read : Vault} {clock rest : Clock}
    (stamped : vault.Stamped) (nonZero : clock.NonZero)
    (finished : deserializeLoop bytes version remaining offset vault clock =
      .ok (read, rest)) : read.Stamped ∧ rest.NonZero := by
  induction remaining generalizing offset vault clock with
  | zero =>
      cases finished
      exact ⟨stamped, nonZero⟩
  | succ remaining inductionHypothesis =>
      obtain ⟨⟨entry, offset⟩, _, finished⟩ := bind_eq_ok.mp finished
      obtain ⟨added, ticked⟩ := stamped.addEntry entry nonZero
      exact inductionHypothesis added ticked finished

/-- Loading fills in every missing time, so that a loaded vault has none
left. -/
theorem openVaultBlob_stamped {primitives : Primitives}
    {cipherFault : Option String} {blob : SecureBytes}
    {password : SecureString} {clock rest : Clock} {disk : Vault}
    (nonZero : clock.NonZero)
    (finished : openVaultBlob primitives cipherFault blob password clock =
      .ok (disk, rest)) : disk.Stamped ∧ rest.NonZero := by
  obtain ⟨header, key, plaintext, _, _, _, finished⟩ :=
    openVaultBlob_eq_ok finished
  unfold Vault.deserialize at finished
  split at finished
  · cases finished
    exact ⟨.empty, nonZero⟩
  · obtain ⟨⟨count, offset⟩, _, finished⟩ := bind_eq_ok.mp finished
    exact deserializeLoop_stamped .empty nonZero finished

/-! ## Vault files -/

/-- The password opens the file content. -/
def OpensWith (primitives : Primitives) (content : Option SecureBytes)
    (password : SecureString) : Prop :=
  ∃ blob clock opened, content = some blob ∧
    openVaultBlob primitives none blob password clock = .ok opened

/-- Whatever vault the file content opens to, under any password and at any
time, has the property. -/
def Reads (primitives : Primitives) (content : Option SecureBytes)
    (property : Vault → Prop) : Prop :=
  ∀ blob password clock disk rest, content = some blob →
    openVaultBlob primitives none blob password clock = .ok (disk, rest) →
    property disk

namespace SealedBlob

variable {primitives : Primitives} {password : SecureString} {vault : Vault}
  {blob : SecureBytes}

/-- A sealed vault opens with its password. -/
theorem opensWith (encrypted : SealedBlob primitives password vault blob)
    (roundTrips : primitives.RoundTrips) :
    OpensWith primitives (some blob) password :=
  ⟨blob, .constant 0, _, rfl, encrypted.opens roundTrips _⟩

/-- Only its own password opens an encryption, and then to its vault. -/
theorem open_eq (encrypted : SealedBlob primitives password vault blob)
    (ideal : primitives.Ideal) {otherPassword : SecureString}
    {clock : Clock} {opened : Vault × Clock}
    (finished : openVaultBlob primitives none blob otherPassword clock =
      .ok opened) :
    otherPassword = password ∧ opened = vault.restamp clock := by
  have own := encrypted.opens ideal.toRoundTrips clock
  have same := openVaultBlob_password_unique ideal finished own
  subst same
  rw [own] at finished
  exact ⟨rfl, (Except.ok.inj finished).symm⟩

/-- And what is read then is the vault, up to times that are filled in. -/
theorem reads (encrypted : SealedBlob primitives password vault blob)
    (ideal : primitives.Ideal) {property : Vault → Prop}
    (restamped : ∀ clock, property (vault.restamp clock).1) :
    Reads primitives (some blob) property := by
  intro found otherPassword clock disk rest present opened
  cases present
  have openedEq := (encrypted.open_eq ideal opened).2
  rw [show disk = (vault.restamp clock).1 from congrArg Prod.fst openedEq]
  exact restamped clock

/-- So the credentials are those of the vault. -/
theorem reads_credentials
    (encrypted : SealedBlob primitives password vault blob)
    (ideal : primitives.Ideal) (service : SecureString) :
    Reads primitives (some blob)
      fun disk => disk.credentials service = vault.credentials service :=
  encrypted.reads ideal fun _ => Vault.credentials_restamp _

/-- A property of the credentials can be read from an encryption exactly if
the vault has it. -/
theorem reads_iff (encrypted : SealedBlob primitives password vault blob)
    (ideal : primitives.Ideal) (service : SecureString)
    (property : Option Credentials → Prop) :
    Reads primitives (some blob)
        (fun disk => property (disk.credentials service)) ↔
      property (vault.credentials service) := by
  constructor
  · intro reads
    have opened := encrypted.opens ideal.toRoundTrips (.constant 0)
    have read : property
        ((vault.restamp (.constant 0)).1.credentials service) :=
      reads blob password (.constant 0) _ _ rfl opened
    rw [Vault.credentials_restamp] at read
    exact read
  · intro holds
    refine encrypted.reads ideal ?_
    intro clock
    rw [Vault.credentials_restamp]
    exact holds

end SealedBlob

/-! ## Merging with the file -/

/-- What the merge makes of one service. -/
theorem MergesTo.getEntry {primitives : Primitives} {self : VaultService}
    {content : Option SecureBytes} {clock : Clock} {merged : Vault}
    (merges : MergesTo primitives self content clock merged)
    (service : SecureString) :
    (content = none ∧
        merged.getEntry service = self.vault.getEntry service) ∨
      ∃ blob disk rest, content = some blob ∧
        openVaultBlob primitives none blob self.masterPassword clock =
          .ok (disk, rest) ∧
        MergedEntry self.deletedServices service (disk.getEntry service)
          (self.vault.getEntry service) (merged.getEntry service) := by
  cases merges with
  | missing absent => exact .inl ⟨absent, rfl⟩
  | @loaded blob disk rest present opened =>
      exact .inr ⟨blob, disk, rest, present, opened,
        getEntry_mergeEntries self.deletedServices service disk.distinct
          self.vault rest⟩

/-- A merge of entries with times has times. -/
theorem MergesTo.stamped {primitives : Primitives} {self : VaultService}
    {content : Option SecureBytes} {clock : Clock} {merged : Vault}
    (merges : MergesTo primitives self content clock merged)
    (stamped : self.vault.Stamped) (nonZero : clock.NonZero) :
    merged.Stamped := by
  cases merges with
  | missing => exact stamped
  | loaded _ opened =>
      exact mergeEntries_stamped stamped
        (openVaultBlob_stamped nonZero opened).2

end DuckPass
