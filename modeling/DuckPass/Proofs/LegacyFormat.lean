/-
Module: DuckPass.Proofs.LegacyFormat
Purpose: What `Vault::deserialize` makes of the oldest payload layout, in which
  an entry has neither a time nor a TOTP secret.  Whether the newer fields are
  there is guessed from the bytes left in the whole buffer, so every entry but
  the last loses eight bytes of its successor to a time.
Trusted boundary: none
Main exports: LegacyEntry, encodeLegacyVault, ReadsLegacyVault,
  deserializeLoop_consumes, legacy_vault_reads_iff
-/
import DuckPass.Proofs.VaultCodec

namespace DuckPass

/-- An entry of the oldest layout. -/
structure LegacyEntry where
  service : SecureString
  username : SecureString
  password : SecureString
deriving Repr, Inhabited, DecidableEq

/-- What the entry says in today's terms. -/
def LegacyEntry.account (entry : LegacyEntry) : SecureString × Credentials :=
  (entry.service, ⟨entry.username, entry.password, []⟩)

/-- The bounds under which the 32-bit lengths are exact. -/
structure LegacyEntry.Encodable (entry : LegacyEntry) : Prop where
  service : entry.service.length < 2 ^ 32
  username : entry.username.length < 2 ^ 32
  password : entry.password.length < 2 ^ 32

/-- Three length-prefixed strings and nothing else. -/
def writeLegacyEntry (entry : LegacyEntry) : SecureBytes :=
  writeString [] entry.service ++
    (writeString [] entry.username ++ writeString [] entry.password)

/-- The oldest payload layout, as the compatibility tests build it. -/
def encodeLegacyVault (entries : List LegacyEntry) : SecureBytes :=
  writeUint32 [] (UInt32.ofNat entries.length) ++
    entries.flatMap writeLegacyEntry

/-- Reading the oldest layout of `entries` gives those entries, in order and
without TOTP secrets. -/
def ReadsLegacyVault (entries : List LegacyEntry) (version : UInt32)
    (clock : Clock) : Prop :=
  ∃ vault rest,
    Vault.deserialize (encodeLegacyVault entries) version clock =
        .ok (vault, rest) ∧
      vault.entries.map (fun entry => (entry.service, entry.credentials)) =
        entries.map LegacyEntry.account

/-! ## Sizes -/

/-- The bytes of the three fields that every layout has. -/
def accountSize (account : SecureString × Credentials) : Nat :=
  12 + account.1.length + account.2.username.length +
    account.2.password.length

def VaultEntry.baseSize (entry : VaultEntry) : Nat :=
  accountSize (entry.service, entry.credentials)

/-- The same over the entries of a vault. -/
def Vault.baseSize (vault : Vault) : Nat :=
  (vault.entries.map VaultEntry.baseSize).sum

theorem length_writeLegacyEntry (entry : LegacyEntry) :
    (writeLegacyEntry entry).length = accountSize entry.account := by
  simp only [writeLegacyEntry, List.length_append, length_writeString,
    accountSize, LegacyEntry.account]
  omega

theorem length_encodeLegacyVault (entries : List LegacyEntry) :
    (encodeLegacyVault entries).length =
      4 + ((entries.map LegacyEntry.account).map accountSize).sum := by
  rw [encodeLegacyVault, List.length_append, length_writeUint32,
    List.length_flatMap, List.map_map]
  congr 2
  apply List.map_congr_left
  intro entry _
  exact length_writeLegacyEntry entry

/-! ## Every read takes its bytes -/

/-- An entry takes the bytes of its three old fields and, if that leaves eight,
eight more for a time. -/
theorem readEntry_next {bytes : SecureBytes} {version : UInt32}
    {offset next : Nat} {entry : VaultEntry}
    (read : readEntry bytes version offset = .ok (entry, next)) :
    offset + entry.baseSize ≤ next ∧ next ≤ bytes.length ∧
      (offset + entry.baseSize + 8 ≤ bytes.length →
        offset + entry.baseSize + 8 ≤ next) := by
  unfold readEntry at read
  obtain ⟨⟨service, afterService⟩, serviceRead, read⟩ := bind_eq_ok.mp read
  obtain ⟨⟨username, afterUsername⟩, usernameRead, read⟩ :=
    bind_eq_ok.mp read
  obtain ⟨⟨password, afterPassword⟩, passwordRead, read⟩ :=
    bind_eq_ok.mp read
  obtain ⟨⟨time, afterTime⟩, timeRead, read⟩ := iteBind_eq_ok.mp read
  obtain ⟨⟨secret, afterSecret⟩, secretRead, read⟩ := iteBind_eq_ok.mp read
  cases read
  have serviceNext := readString_next serviceRead
  have usernameNext := readString_next usernameRead
  have passwordNext := readString_next passwordRead
  have base : offset + VaultEntry.baseSize
      ⟨service, username, password, secret, time⟩ = afterPassword := by
    simp only [VaultEntry.baseSize, accountSize, VaultEntry.credentials]
    omega
  have timeNext : afterPassword ≤ afterTime ∧ afterTime ≤ bytes.length ∧
      (afterPassword + 8 ≤ bytes.length → afterPassword + 8 ≤ afterTime) := by
    split at timeRead
    · have := readUint64_next timeRead
      omega
    · cases timeRead
      omega
  have secretNext : afterTime ≤ next ∧ next ≤ bytes.length := by
    split at secretRead
    · have := readString_next secretRead
      omega
    · cases secretRead
      omega
  rw [base]
  omega

/-- One round of the loop and what is left of it. -/
theorem deserializeLoop_succ_eq_ok {bytes : SecureBytes} {version : UInt32}
    {remaining offset : Nat} {vault : Vault} {clock : Clock}
    {result : Vault × Clock}
    (finished : deserializeLoop bytes version (remaining + 1) offset vault
      clock = .ok result) :
    ∃ entry next, readEntry bytes version offset = .ok (entry, next) ∧
      deserializeLoop bytes version remaining next
        (vault.addEntry entry clock).1 (vault.addEntry entry clock).2 =
          .ok result := by
  obtain ⟨⟨entry, next⟩, entryRead, later⟩ := bind_eq_ok.mp finished
  exact ⟨entry, next, entryRead, later⟩

/-- A round of the loop needs the three lengths of an entry. -/
theorem deserializeLoop_needs {bytes : SecureBytes} {version : UInt32}
    {remaining offset : Nat} {vault : Vault} {clock : Clock}
    {result : Vault × Clock}
    (finished : deserializeLoop bytes version (remaining + 1) offset vault
      clock = .ok result) :
    offset + 12 ≤ bytes.length := by
  obtain ⟨entry, next, entryRead, _⟩ := deserializeLoop_succ_eq_ok finished
  have taken := readEntry_next entryRead
  simp only [VaultEntry.baseSize, accountSize] at taken
  omega

/-! ## What the loop can put into a vault -/

/-- One `add_entry` adds at most the weight of its entry, if weighing ignores
the time. -/
theorem Vault.sum_addEntry_le (weight : VaultEntry → Nat)
    (timeless : ∀ (entry : VaultEntry) (time : UInt64),
      weight { entry with lastUpdated := time } = weight entry)
    (vault : Vault) (entry : VaultEntry) (clock : Clock) :
    ((vault.addEntry entry clock).1.entries.map weight).sum ≤
      (vault.entries.map weight).sum + weight entry := by
  unfold Vault.addEntry
  split
  · rw [← timeless entry clock.time]
    exact KeyedList.sum_map_upsert_le weight
  · exact KeyedList.sum_map_upsert_le weight

theorem deserializeLoop_count {bytes : SecureBytes} {version : UInt32}
    {remaining offset : Nat} {vault last : Vault} {clock rest : Clock}
    (finished : deserializeLoop bytes version remaining offset vault clock =
      .ok (last, rest)) :
    last.entries.length ≤ vault.entries.length + remaining := by
  induction remaining generalizing offset vault clock with
  | zero =>
      cases finished
      exact Nat.le_refl _
  | succ remaining inductionHypothesis =>
      obtain ⟨entry, next, _, later⟩ := deserializeLoop_succ_eq_ok finished
      have rounds := inductionHypothesis later
      have added := vault.sum_addEntry_le (fun _ => 1) (fun _ _ => rfl) entry
        clock
      simp only [List.map_const', List.sum_replicate_nat, Nat.mul_one] at added
      omega

/-- Every round but the last takes eight bytes that belong to no account. -/
theorem deserializeLoop_consumes {bytes : SecureBytes} {version : UInt32}
    {remaining offset : Nat} {vault last : Vault} {clock rest : Clock}
    (inside : offset ≤ bytes.length)
    (finished : deserializeLoop bytes version remaining offset vault clock =
      .ok (last, rest)) :
    last.baseSize + offset + 8 * (remaining - 1) ≤
      vault.baseSize + bytes.length := by
  induction remaining generalizing offset vault clock with
  | zero =>
      cases finished
      omega
  | succ remaining inductionHypothesis =>
      obtain ⟨entry, next, entryRead, later⟩ :=
        deserializeLoop_succ_eq_ok finished
      obtain ⟨taken, nextInside, timed⟩ := readEntry_next entryRead
      have rounds := inductionHypothesis nextInside later
      have added := vault.sum_addEntry_le VaultEntry.baseSize
        (fun _ _ => rfl) entry clock
      simp only [Vault.baseSize] at rounds ⊢
      cases remaining with
      | zero => omega
      | succ remaining =>
          -- The next round has its own lengths to read, so at least eight
          -- bytes follow the password of this entry.
          have next := deserializeLoop_needs later
          omega

/-! ## The oldest layout -/

theorem encodeLegacyVault_nonEmpty (entries : List LegacyEntry) :
    (encodeLegacyVault entries).isEmpty = false := rfl

/-- `Vault::deserialize` reads the count and then runs its loop. -/
theorem deserialize_encodeLegacyVault (entries : List LegacyEntry)
    (version : UInt32) (clock : Clock) :
    Vault.deserialize (encodeLegacyVault entries) version clock =
      deserializeLoop (encodeLegacyVault entries) version
        (UInt32.ofNat entries.length).toNat 4 Vault.empty clock := by
  have head := readUint32_readsBack (UInt32.ofNat entries.length) []
    (entries.flatMap writeLegacyEntry)
  rw [List.nil_append, List.length_nil, Nat.zero_add,
    length_writeUint32] at head
  rw [Vault.deserialize, encodeLegacyVault_nonEmpty]
  simp only [Bool.false_eq_true, if_false]
  change (readUint32 (encodeLegacyVault entries) 0 >>= _) = _
  rw [encodeLegacyVault, head]
  rfl

/-- A vault whose accounts are those of the encoding leaves no bytes for the
times that all but the last round read. -/
theorem length_le_one_of_reads {entries : List LegacyEntry}
    {version : UInt32} {clock : Clock}
    (reads : ReadsLegacyVault entries version clock) :
    entries.length ≤ 1 := by
  obtain ⟨vault, rest, finished, same⟩ := reads
  rw [deserialize_encodeLegacyVault] at finished
  have size := length_encodeLegacyVault entries
  have sameCount := congrArg List.length same
  rw [List.length_map, List.length_map] at sameCount
  have sameSize : vault.baseSize =
      ((entries.map LegacyEntry.account).map accountSize).sum := by
    rw [← same, List.map_map]
    rfl
  have count := deserializeLoop_count finished
  have consumed := deserializeLoop_consumes (by omega) finished
  have exact : (UInt32.ofNat entries.length).toNat ≤ entries.length := by
    rw [UInt32.toNat_ofNat']
    exact Nat.mod_le _ _
  have nothing : Vault.empty.baseSize = 0 := rfl
  have none : Vault.empty.entries.length = 0 := rfl
  omega

/-- The last entry of a payload is followed by no byte that could be taken for
a time. -/
theorem readEntry_writeLegacyEntry {entry : LegacyEntry} {version : UInt32}
    (encodable : entry.Encodable) (before : SecureBytes) :
    readEntry (before ++ writeLegacyEntry entry) version before.length =
      .ok (⟨entry.service, entry.username, entry.password, [], 0⟩,
        before.length + (writeLegacyEntry entry).length) := by
  generalize wholeEq : before ++ writeLegacyEntry entry = whole
  have readService := (readString_readsBack encodable.service).at whole _ before
    _ rfl (by simp only [← wholeEq, writeLegacyEntry, List.append_assoc]; rfl)
  have readUsername := (readString_readsBack encodable.username).at whole _
    (before ++ writeString [] entry.service) _ List.length_append.symm
    (by simp only [← wholeEq, writeLegacyEntry, List.append_assoc]; rfl)
  have readPassword := (readString_readsBack encodable.password).at whole _
    (before ++ writeString [] entry.service ++ writeString [] entry.username)
    [] List.length_append.symm
    (by simp only [← wholeEq, writeLegacyEntry, List.append_assoc,
      List.append_nil])
  have wholeLength := congrArg List.length wholeEq
  simp only [List.length_append, length_writeString, writeLegacyEntry]
    at readUsername readPassword wholeLength ⊢
  rw [length_writeString] at readService
  have noTime : ¬ before.length + (4 + entry.service.length) +
      (4 + entry.username.length) + (4 + entry.password.length) + 8 ≤
        whole.length := by omega
  have noSecret : ¬ (version ≥ 3 ∧ before.length +
      (4 + entry.service.length) + (4 + entry.username.length) +
        (4 + entry.password.length) + 4 ≤ whole.length) := by omega
  simp only [readEntry, readService, readUsername, readPassword, bind,
    Except.bind, pure, Except.pure, if_neg noTime, if_neg noSecret]
  congr 2
  omega

theorem readsLegacyVault_nil (version : UInt32) (clock : Clock) :
    ReadsLegacyVault [] version clock :=
  ⟨Vault.empty, clock, deserialize_encodeLegacyVault [] version clock, rfl⟩

theorem readsLegacyVault_singleton {entry : LegacyEntry}
    (encodable : entry.Encodable) (version : UInt32) (clock : Clock) :
    ReadsLegacyVault [entry] version clock := by
  have last := @readEntry_writeLegacyEntry entry version encodable
    (writeUint32 [] (UInt32.ofNat [entry].length))
  refine ⟨(Vault.empty.addEntry
    ⟨entry.service, entry.username, entry.password, [], 0⟩ clock).1,
    (Vault.empty.addEntry
      ⟨entry.service, entry.username, entry.password, [], 0⟩ clock).2, ?_, rfl⟩
  rw [deserialize_encodeLegacyVault]
  have cut : encodeLegacyVault [entry] =
      writeUint32 [] (UInt32.ofNat [entry].length) ++
        writeLegacyEntry entry := by
    rw [encodeLegacyVault, List.flatMap_singleton]
  rw [cut]
  change deserializeLoop _ version 1 4 Vault.empty clock = _
  rw [deserializeLoop]
  rw [length_writeUint32] at last
  rw [last]
  rfl

/-- The oldest layout is read back exactly when it holds at most one entry:
whatever the version passed, every entry but the last is given a time made of
the first eight bytes of the next one. -/
theorem legacy_vault_reads_iff {entries : List LegacyEntry}
    (encodable : ∀ entry ∈ entries, entry.Encodable) (version : UInt32)
    (clock : Clock) :
    ReadsLegacyVault entries version clock ↔ entries.length ≤ 1 := by
  constructor
  · exact length_le_one_of_reads
  · intro atMostOne
    cases entries with
    | nil => exact readsLegacyVault_nil version clock
    | cons entry tail =>
        cases tail with
        | nil =>
            exact readsLegacyVault_singleton
              (encodable entry List.mem_cons_self) version clock
        | cons second tail =>
            simp only [List.length_cons] at atMostOne
            omega


/-- Two accounts with fields of one byte. -/
def legacyPair : List LegacyEntry :=
  [⟨[0x61], [0x75], [0x70]⟩, ⟨[0x62], [0x76], [0x71]⟩]

theorem legacyPair_encodable : ∀ entry ∈ legacyPair, entry.Encodable := by
  intro entry member
  simp only [legacyPair, List.mem_cons, List.not_mem_nil, or_false] at member
  rcases member with rfl | rfl
  · constructor <;> decide
  · constructor <;> decide

theorem not_readsLegacyVault_of_error {entries : List LegacyEntry}
    {version : UInt32} {clock : Clock} {error : DuckpassError}
    (failed : Vault.deserialize (encodeLegacyVault entries) version clock =
      .error error) :
    ¬ ReadsLegacyVault entries version clock := by
  rintro ⟨vault, rest, finished, _⟩
  rw [failed] at finished
  cases finished

/-- The first entry swallows the length and the name of the second one, whose
own name is then read at the wrong place: each version throws. -/
theorem legacy_pair_unreadable :
    (legacyPair.map LegacyEntry.service).Nodup ∧
      (∀ entry ∈ legacyPair, entry.Encodable) ∧
      ¬ ReadsLegacyVault legacyPair 1 (Clock.constant 5) ∧
      ¬ ReadsLegacyVault legacyPair 2 (Clock.constant 5) ∧
      ¬ ReadsLegacyVault legacyPair 3 (Clock.constant 5) := by
  refine ⟨by decide, legacyPair_encodable, ?_, ?_, ?_⟩
  · apply not_readsLegacyVault_of_error
    show _ = Except.error (.runtimeError "Malformed vault data: string overflow")
    rfl
  · apply not_readsLegacyVault_of_error
    show _ = Except.error (.runtimeError "Malformed vault data: string overflow")
    rfl
  · apply not_readsLegacyVault_of_error
    show _ = Except.error (.runtimeError "Malformed vault data: string overflow")
    rfl

/-- The vault of the compatibility tests: one account. -/
theorem legacy_vault_reads_iff_single :
    ReadsLegacyVault [⟨[0x6F], [0x75], [0x70]⟩] 3 (Clock.constant 5) ↔
      [(⟨[0x6F], [0x75], [0x70]⟩ : LegacyEntry)].length ≤ 1 :=
  legacy_vault_reads_iff
    (by
      intro entry member
      rw [List.mem_singleton] at member
      subst member
      constructor <;> decide)
    3 (Clock.constant 5)

end DuckPass
