/-
Module: DuckPass.Proofs.TimestampedFormat
Purpose: What `Vault::deserialize` makes of the payload layout of versions 1
  and 2, in which an entry has a time and no TOTP secret.  The version alone
  decides that no secret is read, so that nothing shifts.
Trusted boundary: none
Main exports: TimestampedEntry, EncodesTimestamped, readEntry_timestamped,
  timestamped_vault_migrates
-/
import DuckPass.Proofs.VaultCodec

namespace DuckPass

/-- An entry of the layout with a time and without a TOTP secret. -/
structure TimestampedEntry where
  service : SecureString
  username : SecureString
  password : SecureString
  lastUpdated : UInt64
deriving Repr, Inhabited, DecidableEq

/-- The entry in today's terms. -/
def TimestampedEntry.entry (entry : TimestampedEntry) : VaultEntry :=
  ⟨entry.service, entry.username, entry.password, [], entry.lastUpdated⟩

/-- The bounds under which the 32-bit lengths are exact. -/
structure TimestampedEntry.Encodable (entry : TimestampedEntry) : Prop where
  service : entry.service.length < 2 ^ 32
  username : entry.username.length < 2 ^ 32
  password : entry.password.length < 2 ^ 32

/-- Three length-prefixed strings and the eight bytes of the time. -/
def writeTimestampedEntry (entry : TimestampedEntry) : SecureBytes :=
  writeString [] entry.service ++
    (writeString [] entry.username ++ (writeString [] entry.password ++
      writeUint64 [] entry.lastUpdated))

/-- The payload is a word that counts the entries and then the entries. -/
def EncodesTimestamped (entries : List TimestampedEntry)
    (payload : SecureBytes) : Prop :=
  ∃ count : UInt32, count.toNat = entries.length ∧
    payload = writeUint32 [] count ++ entries.flatMap writeTimestampedEntry

/-- Below version 3 an entry is read back whatever precedes and follows it: its
time is there, and what follows is not taken for a secret. -/
theorem readEntry_timestamped {entry : TimestampedEntry} {version : UInt32}
    (encodable : entry.Encodable) (old : ¬ version ≥ 3) :
    ReadsBack (fun bytes => readEntry bytes version)
      (writeTimestampedEntry entry) entry.entry := by
  intro before after
  simp only [writeTimestampedEntry]
  generalize wholeEq : before ++ (writeString [] entry.service ++
    (writeString [] entry.username ++ (writeString [] entry.password ++
      writeUint64 [] entry.lastUpdated))) ++ after = whole
  have readService := (readString_readsBack encodable.service).at whole _ before
    _ rfl (by simp only [← wholeEq, List.append_assoc]; rfl)
  have readUsername := (readString_readsBack encodable.username).at whole _
    (before ++ writeString [] entry.service) _ List.length_append.symm
    (by simp only [← wholeEq, List.append_assoc]; rfl)
  have readPassword := (readString_readsBack encodable.password).at whole _
    (before ++ writeString [] entry.service ++ writeString [] entry.username) _
    List.length_append.symm (by simp only [← wholeEq, List.append_assoc]; rfl)
  have readTime := (readUint64_readsBack entry.lastUpdated).at whole _
    (before ++ writeString [] entry.service ++
      writeString [] entry.username ++ writeString [] entry.password) after
    List.length_append.symm (by simp only [← wholeEq, List.append_assoc])
  have wholeLength := congrArg List.length wholeEq
  simp only [List.length_append, length_writeString, length_writeUint64]
    at readUsername readPassword readTime wholeLength
  rw [length_writeString] at readService
  have timePresent : before.length + (4 + entry.service.length) +
      (4 + entry.username.length) + (4 + entry.password.length) + 8 ≤
        whole.length := by omega
  have noSecret : ∀ offset : Nat,
      ¬ (version ≥ 3 ∧ offset + 4 ≤ whole.length) :=
    fun _ secret => old secret.1
  simp only [readEntry, readService, readUsername, readPassword, bind,
    Except.bind, pure, Except.pure, if_pos timePresent, readTime,
    if_neg (noSecret _), List.length_append, length_writeString,
    length_writeUint64, TimestampedEntry.entry]
  congr 2
  omega

/-- A payload of version 1 or 2 becomes a vault of exactly its entries, in
order and without TOTP secrets, whatever the clock says; and saving that vault
in the current format and loading it gives it back. -/
theorem timestamped_vault_migrates {entries : List TimestampedEntry}
    {payload : SecureBytes} {version : UInt32}
    (old : version = 1 ∨ version = 2)
    (distinct : (entries.map TimestampedEntry.service).Nodup)
    (stamped : ∀ entry ∈ entries, entry.lastUpdated ≠ 0)
    (encodable : ∀ entry ∈ entries, entry.Encodable)
    (encodes : EncodesTimestamped entries payload) (clock : Clock) :
    ∃ vault, Vault.deserialize payload version clock = .ok (vault, clock) ∧
      vault.entries = entries.map TimestampedEntry.entry ∧
      ∀ later, Vault.deserialize vault.serialize 3 later =
        .ok (vault, later) := by
  obtain ⟨count, counted, rfl⟩ := encodes
  have beforeSecrets : ¬ version ≥ 3 := by
    rcases old with rfl | rfl
    · decide
    · decide
  have sameNames : (entries.map TimestampedEntry.entry).map
      VaultEntry.service = entries.map TimestampedEntry.service := by
    rw [List.map_map]
    rfl
  let vault : Vault := ⟨entries.map TimestampedEntry.entry, by
    rw [KeyedList.Distinct, sameNames]
    exact distinct⟩
  have vaultStamped : vault.Stamped := by
    intro entry member
    obtain ⟨old, present, rfl⟩ := List.mem_map.mp member
    exact stamped old present
  have vaultEncodable : vault.Encodable := by
    refine ⟨?_, ?_⟩
    · rw [List.length_map, ← counted]
      exact count.toNat_lt
    · intro entry member
      obtain ⟨old, present, rfl⟩ := List.mem_map.mp member
      have bounds := encodable old present
      exact ⟨bounds.service, bounds.username, bounds.password,
        Nat.two_pow_pos 32⟩
  refine ⟨vault, ?_, rfl, ?_⟩
  · rw [Vault.deserialize_flatMap
      (fun entry member =>
        readEntry_timestamped (encodable entry member) beforeSecrets)
      counted vault rfl clock, Vault.restamp_of_stamped vaultStamped]
  · intro later
    rw [Vault.deserialize_serialize vaultEncodable (by decide) later,
      Vault.restamp_of_stamped vaultStamped]

namespace TimestampedFormat

/-- Two accounts whose bytes are misread if the second is taken for a secret of
the first. -/
def accounts : List TimestampedEntry :=
  [⟨[0x61], [0x75], [0x70], 5⟩, ⟨[0x62], [], [0x71], 6⟩]

theorem accounts_encodable : ∀ entry ∈ accounts, entry.Encodable := by
  refine List.forall_mem_cons.mpr ⟨⟨by decide, by decide, by decide⟩, ?_⟩
  exact List.forall_mem_singleton.mpr ⟨by decide, by decide, by decide⟩

end TimestampedFormat

open TimestampedFormat in
/-- Both accounts come back. -/
theorem timestamped_vault_migrates_two :
    ∃ vault, Vault.deserialize
        (writeUint32 [] 2 ++ accounts.flatMap writeTimestampedEntry) 1
        (Clock.constant 9) = .ok (vault, Clock.constant 9) ∧
      vault.entries = accounts.map TimestampedEntry.entry ∧
      ∀ later, Vault.deserialize vault.serialize 3 later =
        .ok (vault, later) :=
  timestamped_vault_migrates (.inl rfl) (by decide) (by decide)
    accounts_encodable ⟨2, rfl, rfl⟩ (Clock.constant 9)

end DuckPass
