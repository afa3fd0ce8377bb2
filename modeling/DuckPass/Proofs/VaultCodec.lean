/-
Module: DuckPass.Proofs.VaultCodec
Purpose: Each reader of the payload format undoes its writer at every offset
  of every buffer, and `Vault::deserialize` undoes `Vault::serialize`.
Trusted boundary: none
Main exports: ReadsBack, readUint32_readsBack, readUint64_readsBack,
  readString_readsBack, readString_next, readEntry_readsBack,
  Vault.deserialize_flatMap, Vault.deserialize_serialize
-/
import DuckPass.Core.VaultCodec
import DuckPass.Lib.LittleEndian
import Mathlib.Tactic.NormNum

namespace DuckPass

open LittleEndian

/-- `read` finds `value` wherever `chunk` stands in a buffer and moves the
offset just past the chunk. -/
def ReadsBack {α : Type}
    (read : SecureBytes → Nat → Except DuckpassError (α × Nat))
    (chunk : SecureBytes) (value : α) : Prop :=
  ∀ before after : SecureBytes,
    read (before ++ chunk ++ after) before.length =
      .ok (value, before.length + chunk.length)

/-! ## Fixed-width words -/

private theorem uint32_byte (value shift : UInt32) (index : Nat)
    (inWord : index < 4) (shiftEq : shift.toNat = 8 * index) :
    (((value >>> shift) &&& 0xFF).toUInt8.toUInt32 <<< shift).toNat =
      byteAt value.toNat index <<< (8 * index) := by
  have small : shift.toNat % 32 = 8 * index := by omega
  have mask : (0xFF : UInt32).toNat = 2 ^ 8 - 1 := rfl
  rw [UInt32.toNat_shiftLeft, UInt8.toNat_toUInt32, UInt32.toNat_toUInt8,
    UInt32.toNat_and, UInt32.toNat_shiftRight, small, mask,
    Nat.and_two_pow_sub_one_eq_mod, Nat.mod_mod]
  exact Nat.mod_eq_of_lt (shiftLeft_byteAt_lt value.toNat inWord)

/-- The four or-ed bytes are the word they were cut from. -/
theorem uint32_assemble (value : UInt32) :
    (value &&& 0xFF).toUInt8.toUInt32 |||
      (((value >>> 8) &&& 0xFF).toUInt8.toUInt32 <<< 8) |||
      (((value >>> 16) &&& 0xFF).toUInt8.toUInt32 <<< 16) |||
      (((value >>> 24) &&& 0xFF).toUInt8.toUInt32 <<< 24) = value := by
  apply UInt32.toNat_inj.mp
  have whole := assemble_byteAt_of_lt 4 value.toNat_lt
  have first : (value &&& 0xFF).toUInt8.toUInt32.toNat =
      byteAt value.toNat 0 <<< (8 * 0) := by
    simpa using uint32_byte value 0 0 (by decide) rfl
  rw [UInt32.toNat_or, UInt32.toNat_or, UInt32.toNat_or, first,
    uint32_byte value _ 1 (by decide) rfl,
    uint32_byte value _ 2 (by decide) rfl,
    uint32_byte value _ 3 (by decide) rfl]
  simpa [assemble] using whole

/-- `read_uint32` on four bytes that stand at the offset. -/
theorem readUint32_bytes (before after : SecureBytes)
    (byte0 byte1 byte2 byte3 : UInt8) :
    readUint32 (before ++ [byte0, byte1, byte2, byte3] ++ after)
        before.length =
      .ok
        (byte0.toUInt32 ||| (byte1.toUInt32 <<< 8) |||
          (byte2.toUInt32 <<< 16) ||| (byte3.toUInt32 <<< 24),
          before.length + 4) := by
  have long : ¬ before.length + 4 >
      (before ++ [byte0, byte1, byte2, byte3] ++ after).length := by
    simp only [List.length_append, List.length_cons, List.length_nil]
    omega
  rw [readUint32, dif_neg long]
  simp

/-- What `write_uint32` has written is read back. -/
theorem readUint32_readsBack (value : UInt32) :
    ReadsBack readUint32 (writeUint32 [] value) value := by
  intro before after
  rw [writeUint32, List.nil_append, readUint32_bytes, uint32_assemble]
  rfl

private theorem uint64_byte (value : UInt64) {index : Nat}
    (inWord : index < 8) :
    (((value >>> UInt64.ofNat (index * 8)) &&& 0xFF).toUInt8.toUInt64 <<<
        UInt64.ofNat (index * 8)).toNat =
      byteAt value.toNat index <<< (8 * index) := by
  have small : (UInt64.ofNat (index * 8)).toNat % 64 = 8 * index := by
    rw [UInt64.toNat_ofNat']
    omega
  have mask : (0xFF : UInt64).toNat = 2 ^ 8 - 1 := rfl
  rw [UInt64.toNat_shiftLeft, UInt8.toNat_toUInt64, UInt64.toNat_toUInt8,
    UInt64.toNat_and, UInt64.toNat_shiftRight, small, mask,
    Nat.and_two_pow_sub_one_eq_mod, Nat.mod_mod]
  exact Nat.mod_eq_of_lt (shiftLeft_byteAt_lt value.toNat inWord)

/-- The fold of `read_uint64` over a byte sequence, counted in `Nat`. -/
private theorem uint64_fold_toNat (value : UInt64) (bytes : Fin 8 → UInt8)
    (cut : ∀ i : Fin 8, bytes i =
      ((value >>> UInt64.ofNat (i.val * 8)) &&& 0xFF).toUInt8) :
    ((List.finRange 8).foldl
      (fun word i =>
        word ||| ((bytes i).toUInt64 <<< UInt64.ofNat (i.val * 8))) 0) =
      value := by
  apply UInt64.toNat_inj.mp
  have whole := assemble_byteAt_of_lt 8 value.toNat_lt
  have step : ∀ i : Fin 8,
      ((bytes i).toUInt64 <<< UInt64.ofNat (i.val * 8)).toNat =
        byteAt value.toNat i.val <<< (8 * i.val) := by
    intro i
    rw [cut i]
    exact uint64_byte value i.isLt
  rw [show List.finRange 8 = [0, 1, 2, 3, 4, 5, 6, 7] by decide]
  simp only [List.foldl_cons, List.foldl_nil, UInt64.toNat_or, step]
  simpa [assemble] using whole

/-- Each turn of the loop of `write_uint64` pushes one byte. -/
theorem writeUint64_eq (buffer : SecureBytes) (value : UInt64) :
    writeUint64 buffer value =
      buffer ++ (List.range 8).map fun i =>
        ((value >>> UInt64.ofNat (i * 8)) &&& 0xFF).toUInt8 := by
  unfold writeUint64
  generalize List.range 8 = indices
  induction indices generalizing buffer with
  | nil => exact (List.append_nil buffer).symm
  | cons i indices inductionHypothesis =>
      rw [List.foldl_cons, inductionHypothesis, List.map_cons,
        List.append_assoc, List.singleton_append]

@[simp] theorem length_writeUint64 (value : UInt64) :
    (writeUint64 [] value).length = 8 := by
  rw [writeUint64_eq, List.length_append, List.length_map, List.length_range]
  rfl

/-- So is what `write_uint64` has. -/
theorem readUint64_readsBack (value : UInt64) :
    ReadsBack readUint64 (writeUint64 [] value) value := by
  intro before after
  have size := length_writeUint64 value
  have long : ¬ before.length + 8 >
      (before ++ writeUint64 [] value ++ after).length := by
    simp only [List.length_append, size]
    omega
  rw [readUint64, dif_neg long, size]
  have assembled := uint64_fold_toNat value
    (fun i => (writeUint64 [] value).get ⟨i.val, by omega⟩)
    (fun i => by simp [writeUint64_eq])
  refine congrArg (fun word => Except.ok (word, before.length + 8)) ?_
  refine Eq.trans ?_ assembled
  congr 1
  funext word i
  have here : before.length ≤ before.length + i.val := Nat.le_add_right _ _
  simp [List.append_assoc, List.getElem_append_right here,
    List.getElem_append_left, size, i.isLt]

/-! ## Strings -/

@[simp] theorem length_writeUint32 (value : UInt32) :
    (writeUint32 [] value).length = 4 := rfl

/-- The writers only append. -/
theorem writeUint32_append (buffer : SecureBytes) (value : UInt32) :
    writeUint32 buffer value = buffer ++ writeUint32 [] value := rfl

/-- So does that of a long number. -/
theorem writeUint64_append (buffer : SecureBytes) (value : UInt64) :
    writeUint64 buffer value = buffer ++ writeUint64 [] value := by
  rw [writeUint64_eq, writeUint64_eq [], List.nil_append]

/-- So does that of a string. -/
theorem writeString_append (buffer : SecureBytes) (str : SecureString) :
    writeString buffer str = buffer ++ writeString [] str := by
  rw [writeString, writeUint32_append, List.append_assoc]
  rfl

/-- A string takes its length and four bytes. -/
theorem length_writeString (str : SecureString) :
    (writeString [] str).length = 4 + str.length := by
  rw [writeString, List.length_append, length_writeUint32]

/-- So is a string whose length fits its field. -/
theorem readString_readsBack {str : SecureString}
    (short : str.length < 2 ^ 32) :
    ReadsBack readString (writeString [] str) str := by
  intro before after
  have lengthRead : (UInt32.ofNat str.length).toNat = str.length := by
    rw [UInt32.toNat_ofNat', Nat.mod_eq_of_lt short]
  have prefixed : before ++ writeString [] str ++ after =
      before ++ writeUint32 [] (UInt32.ofNat str.length) ++
        (str ++ after) := by
    simp [writeString, List.append_assoc]
  have head := readUint32_readsBack (UInt32.ofNat str.length) before
    (str ++ after)
  have body : (before ++ writeUint32 [] (UInt32.ofNat str.length) ++
      (str ++ after)).drop (before.length + 4) = str ++ after := by
    refine List.drop_left' ?_
    rw [List.length_append, length_writeUint32]
  have enough : ¬ (before ++ writeUint32 [] (UInt32.ofNat str.length) ++
      (str ++ after)).length - (before.length + 4) < str.length := by
    simp only [List.length_append, length_writeUint32]
    omega
  rw [prefixed, readString, head, length_writeString]
  simp only [bind, Except.bind, pure, Except.pure, length_writeUint32,
    lengthRead, if_neg enough, body, List.take_left']
  rw [Nat.add_assoc]

/-! ## Every read takes its bytes -/

/-- The reader goes on behind what it has read, within the buffer. -/
theorem readUint32_next {bytes : SecureBytes} {offset next : Nat}
    {value : UInt32} (read : readUint32 bytes offset = .ok (value, next)) :
    next = offset + 4 ∧ next ≤ bytes.length := by
  unfold readUint32 at read
  split at read
  · cases read
  · cases read
    omega

/-- So does that of a long number. -/
theorem readUint64_next {bytes : SecureBytes} {offset next : Nat}
    {value : UInt64} (read : readUint64 bytes offset = .ok (value, next)) :
    next = offset + 8 ∧ next ≤ bytes.length := by
  unfold readUint64 at read
  split at read
  · cases read
  · cases read
    omega

/-- So does that of a string. -/
theorem readString_next {bytes : SecureBytes} {offset next : Nat}
    {str : SecureString} (read : readString bytes offset = .ok (str, next)) :
    next = offset + 4 + str.length ∧ next ≤ bytes.length := by
  unfold readString at read
  obtain ⟨⟨length, start⟩, lengthRead, read⟩ := bind_eq_ok.mp read
  obtain ⟨startEq, startLe⟩ := readUint32_next lengthRead
  obtain ⟨enough, read⟩ := throwIf_eq_ok read
  cases read
  simp only [List.length_take, List.length_drop]
  omega

/-! ## Entries -/

/-- The bounds under which the 32-bit counts of the format are exact. -/
structure VaultEntry.Encodable (entry : VaultEntry) : Prop where
  service : entry.service.length < 2 ^ 32
  username : entry.username.length < 2 ^ 32
  password : entry.password.length < 2 ^ 32
  totpSecret : entry.totpSecret.length < 2 ^ 32

/-- `Vault::serialize` appends the five fields of an entry one after the
other. -/
theorem writeEntry_eq (buffer : SecureBytes) (entry : VaultEntry) :
    writeEntry buffer entry =
      buffer ++ (writeString [] entry.service ++
        (writeString [] entry.username ++ (writeString [] entry.password ++
          (writeUint64 [] entry.lastUpdated ++
            writeString [] entry.totpSecret)))) := by
  unfold writeEntry
  rw [writeString_append (writeUint64 _ _), writeUint64_append,
    writeString_append (writeString (writeString buffer _) _),
    writeString_append (writeString buffer _), writeString_append buffer]
  simp only [List.append_assoc]

/-- So does that of an entry. -/
theorem writeEntry_append (buffer : SecureBytes) (entry : VaultEntry) :
    writeEntry buffer entry = buffer ++ writeEntry [] entry := by
  rw [writeEntry_eq buffer, writeEntry_eq []]
  rfl

/-- A chunk is read back wherever it stands. -/
theorem ReadsBack.at {α : Type}
    {read : SecureBytes → Nat → Except DuckpassError (α × Nat)}
    {chunk : SecureBytes} {value : α} (readsBack : ReadsBack read chunk value)
    (whole : SecureBytes) (offset : Nat)
    (before after : SecureBytes)
    (here : offset = before.length) (cut : whole = before ++ chunk ++ after) :
    read whole offset = .ok (value, offset + chunk.length) := by
  subst here cut
  exact readsBack before after

/-- A version 3 entry is read back whatever precedes and follows it: both
optional fields are present, so neither guess about the bytes left misfires. -/
theorem readEntry_readsBack {entry : VaultEntry} {version : UInt32}
    (encodable : entry.Encodable) (modern : version ≥ 3) :
    ReadsBack (fun bytes => readEntry bytes version) (writeEntry [] entry)
      entry := by
  intro before after
  simp only [writeEntry_eq [], List.nil_append]
  generalize wholeEq : before ++ (writeString [] entry.service ++
    (writeString [] entry.username ++ (writeString [] entry.password ++
      (writeUint64 [] entry.lastUpdated ++
        writeString [] entry.totpSecret)))) ++ after = whole
  have readService := (readString_readsBack encodable.service).at whole _ before
    _ rfl (by simp only [← wholeEq, List.append_assoc]; rfl)
  have readUsername := (readString_readsBack encodable.username).at whole _
    (before ++ writeString [] entry.service) _ List.length_append.symm
    (by simp only [← wholeEq, List.append_assoc]; rfl)
  have readPassword := (readString_readsBack encodable.password).at whole _
    (before ++ writeString [] entry.service ++ writeString [] entry.username) _
    List.length_append.symm (by simp only [← wholeEq, List.append_assoc]; rfl)
  have readTime := (readUint64_readsBack entry.lastUpdated).at whole _
    (before ++ writeString [] entry.service ++
      writeString [] entry.username ++ writeString [] entry.password) _
    List.length_append.symm (by simp only [← wholeEq, List.append_assoc]; rfl)
  have readSecret := (readString_readsBack encodable.totpSecret).at whole _
    (before ++ writeString [] entry.service ++
      writeString [] entry.username ++ writeString [] entry.password ++
      writeUint64 [] entry.lastUpdated) after
    List.length_append.symm (by simp only [← wholeEq, List.append_assoc])
  have wholeLength := congrArg List.length wholeEq
  simp only [List.length_append, length_writeString, length_writeUint64]
    at readUsername readPassword readTime readSecret wholeLength
  rw [length_writeString] at readService
  have timePresent : before.length + (4 + entry.service.length) +
      (4 + entry.username.length) + (4 + entry.password.length) + 8 ≤
        whole.length := by omega
  have secretPresent : before.length + (4 + entry.service.length) +
      (4 + entry.username.length) + (4 + entry.password.length) + 8 + 4 ≤
        whole.length := by omega
  simp only [readEntry, readService, readUsername, readPassword, bind,
    Except.bind, pure, Except.pure, if_pos timePresent, readTime,
    if_pos (And.intro modern secretPresent), readSecret, List.length_append,
    length_writeString, length_writeUint64]
  congr 2
  omega

/-! ## Whole payloads -/

/-- Successive `add_entry` calls, as the loop of `Vault::deserialize` makes
them. -/
def Vault.addEntries : Vault → List VaultEntry → Clock → Vault × Clock
  | vault, [], clock => (vault, clock)
  | vault, entry :: entries, clock =>
      Vault.addEntries (vault.addEntry entry clock).1 entries
        (vault.addEntry entry clock).2

/-- The entry section of a payload. -/
def encodeEntries (entries : List VaultEntry) : SecureBytes :=
  entries.flatMap (writeEntry [])

/-- The entries are written one behind the other. -/
theorem foldl_writeEntry (buffer : SecureBytes) (entries : List VaultEntry) :
    entries.foldl writeEntry buffer = buffer ++ encodeEntries entries := by
  induction entries generalizing buffer with
  | nil => simp [encodeEntries]
  | cons entry entries inductionHypothesis =>
      rw [List.foldl_cons, inductionHypothesis, writeEntry_append,
        encodeEntries, encodeEntries, List.flatMap_cons, List.append_assoc]

/-- The payload is the count and the entries. -/
theorem Vault.serialize_eq (vault : Vault) :
    vault.serialize =
      writeUint32 [] (UInt32.ofNat vault.entries.length) ++
        encodeEntries vault.entries :=
  foldl_writeEntry _ _

/-- The decoding loop adds the encoded entries in their order, in any layout
whose entries are read back one by one. -/
theorem deserializeLoop_flatMap {α : Type} {version : UInt32}
    {encode : α → SecureBytes} {decode : α → VaultEntry} {items : List α}
    (readsBack : ∀ item ∈ items, ReadsBack
      (fun bytes => readEntry bytes version) (encode item) (decode item))
    (before : SecureBytes) (vault : Vault) (clock : Clock) :
    deserializeLoop (before ++ items.flatMap encode) version items.length
        before.length vault clock =
      .ok (vault.addEntries (items.map decode) clock) := by
  induction items generalizing before vault clock with
  | nil => rfl
  | cons item items inductionHypothesis =>
      have head := readsBack item List.mem_cons_self before
        (items.flatMap encode)
      have tail := inductionHypothesis
        (fun other member => readsBack other (List.mem_cons_of_mem _ member))
        (before ++ encode item) (vault.addEntry (decode item) clock).1
        (vault.addEntry (decode item) clock).2
      rw [List.length_append] at tail
      have cut : before ++ (item :: items).flatMap encode =
          before ++ encode item ++ items.flatMap encode := by
        rw [List.flatMap_cons, List.append_assoc]
      rw [cut, List.length_cons, deserializeLoop]
      simp only [head, bind, Except.bind, tail, List.map_cons,
        Vault.addEntries]

/-- What reading a list of entries makes of their times: every missing one is
taken from the clock. -/
def restampEntries : List VaultEntry → Clock → List VaultEntry × Clock
  | [], clock => ([], clock)
  | entry :: entries, clock =>
      if entry.lastUpdated = 0 then
        let rest := restampEntries entries clock.tick
        ({ entry with lastUpdated := clock.time } :: rest.1, rest.2)
      else
        let rest := restampEntries entries clock
        (entry :: rest.1, rest.2)

/-- Filling in times changes no service. -/
theorem restampEntries_services (entries : List VaultEntry) (clock : Clock) :
    (restampEntries entries clock).1.map VaultEntry.service =
      entries.map VaultEntry.service := by
  induction entries generalizing clock with
  | nil => rfl
  | cons entry entries inductionHypothesis =>
      unfold restampEntries
      split <;> simp [inductionHypothesis]

/-- Nor anything where all have times. -/
theorem restampEntries_of_stamped {entries : List VaultEntry}
    (stamped : ∀ entry ∈ entries, entry.lastUpdated ≠ 0) (clock : Clock) :
    restampEntries entries clock = (entries, clock) := by
  induction entries with
  | nil => rfl
  | cons entry entries inductionHypothesis =>
      have tail := inductionHypothesis fun other member =>
        stamped other (List.mem_cons_of_mem _ member)
      rw [restampEntries, if_neg (stamped entry List.mem_cons_self), tail]

/-- A vault as it comes back from its own encoding. -/
def Vault.restamp (vault : Vault) (clock : Clock) : Vault × Clock :=
  (⟨(restampEntries vault.entries clock).1, by
      rw [KeyedList.Distinct, restampEntries_services]
      exact vault.distinct⟩,
    (restampEntries vault.entries clock).2)

/-- A vault with times is read as it is. -/
theorem Vault.restamp_of_stamped {vault : Vault} (stamped : vault.Stamped)
    (clock : Clock) : vault.restamp clock = (vault, clock) := by
  have unchanged := restampEntries_of_stamped stamped clock
  have entriesEq : (vault.restamp clock).1.entries = vault.entries :=
    congrArg Prod.fst unchanged
  have clockEq : (vault.restamp clock).2 = clock :=
    congrArg Prod.snd unchanged
  exact Prod.ext (Vault.ext entriesEq) clockEq

/-- With fresh, pairwise distinct names every `add_entry` of the loop takes
the push-back branch. -/
theorem Vault.addEntries_of_distinct {entries : List VaultEntry}
    (vault : Vault) (clock : Clock)
    (distinct :
      KeyedList.Distinct VaultEntry.service (vault.entries ++ entries)) :
    (vault.addEntries entries clock).1.entries =
        vault.entries ++ (restampEntries entries clock).1 ∧
      (vault.addEntries entries clock).2 =
        (restampEntries entries clock).2 := by
  induction entries generalizing vault clock with
  | nil => simp [addEntries, restampEntries]
  | cons entry entries inductionHypothesis =>
      have fresh : entry.service ∉ vault.entries.map VaultEntry.service := by
        rw [KeyedList.Distinct, List.map_append, List.map_cons,
          List.nodup_append] at distinct
        intro present
        exact distinct.2.2 _ present _ List.mem_cons_self rfl
      have pushed : ∀ stampedEntry : VaultEntry,
          stampedEntry.service = entry.service →
          (vault.store stampedEntry).entries =
            vault.entries ++ [stampedEntry] := by
        intro stampedEntry sameService
        exact KeyedList.upsert_of_not_mem (sameService ▸ fresh)
      rw [addEntries, Vault.addEntry, restampEntries]
      split
      · obtain ⟨entriesEq, clockEq⟩ := inductionHypothesis
          (vault.store { entry with lastUpdated := clock.time }) clock.tick
          (by
            rw [pushed { entry with lastUpdated := clock.time } rfl]
            simpa [KeyedList.Distinct] using distinct)
        rw [pushed { entry with lastUpdated := clock.time } rfl] at entriesEq
        exact ⟨by simpa using entriesEq, clockEq⟩
      · obtain ⟨entriesEq, clockEq⟩ := inductionHypothesis
          (vault.store entry) clock
          (by
            rw [pushed entry rfl]
            simpa [KeyedList.Distinct] using distinct)
        rw [pushed entry rfl] at entriesEq
        exact ⟨by simpa using entriesEq, clockEq⟩

/-- The bounds on a vault under which its encoding is exact. -/
structure Vault.Encodable (vault : Vault) : Prop where
  count : vault.entries.length < 2 ^ 32
  entries : ∀ entry ∈ vault.entries, entry.Encodable

/-- `Vault::deserialize` reads a counted sequence of entries with distinct
names into a vault of those entries, up to the times that were never set. -/
theorem Vault.deserialize_flatMap {α : Type} {version count : UInt32}
    {encode : α → SecureBytes} {decode : α → VaultEntry} {items : List α}
    (readsBack : ∀ item ∈ items, ReadsBack
      (fun bytes => readEntry bytes version) (encode item) (decode item))
    (counted : count.toNat = items.length) (vault : Vault)
    (entries : vault.entries = items.map decode) (clock : Clock) :
    Vault.deserialize (writeUint32 [] count ++ items.flatMap encode) version
        clock = .ok (vault.restamp clock) := by
  have head := readUint32_readsBack count [] (items.flatMap encode)
  have loop := deserializeLoop_flatMap readsBack (writeUint32 [] count)
    Vault.empty clock
  have distinct : KeyedList.Distinct VaultEntry.service
      (Vault.empty.entries ++ items.map decode) := by
    rw [← entries]
    exact vault.distinct
  obtain ⟨entriesEq, clockEq⟩ :=
    Vault.addEntries_of_distinct Vault.empty clock distinct
  have nonEmpty :
      (writeUint32 [] count ++ items.flatMap encode).isEmpty = false := rfl
  rw [Vault.deserialize, nonEmpty]
  simp only [List.nil_append, List.length_nil, Nat.zero_add,
    length_writeUint32] at head loop
  simp only [Bool.false_eq_true, if_false, bind, Except.bind, head, counted,
    loop]
  rw [← entries] at entriesEq clockEq ⊢
  exact congrArg Except.ok (Prod.ext (Vault.ext entriesEq) clockEq)

/-- `Vault::deserialize` undoes `Vault::serialize` up to the times that were
never set. -/
theorem Vault.deserialize_serialize {vault : Vault} {version : UInt32}
    (encodable : vault.Encodable) (modern : version ≥ 3) (clock : Clock) :
    Vault.deserialize vault.serialize version clock =
      .ok (vault.restamp clock) := by
  have countRead : (UInt32.ofNat vault.entries.length).toNat =
      vault.entries.length := by
    rw [UInt32.toNat_ofNat', Nat.mod_eq_of_lt encodable.count]
  rw [Vault.serialize_eq, encodeEntries]
  exact @Vault.deserialize_flatMap _ _ _ _ id _
    (fun entry member =>
      readEntry_readsBack (encodable.entries entry member) modern)
    countRead vault (List.map_id _).symm clock

/-- Vaults that the entry operations build while the clock is set. -/
inductive Vault.Reachable : Vault → Prop where
  | empty : Vault.Reachable Vault.empty
  | addEntry {vault : Vault} (entry : VaultEntry) {clock : Clock}
      (before : Vault.Reachable vault) (nonZero : clock.NonZero) :
      Vault.Reachable (vault.addEntry entry clock).1
  | removeEntry {vault : Vault} (service : SecureString)
      (before : Vault.Reachable vault) :
      Vault.Reachable (vault.removeEntry service).1

/-- The entries of a reachable vault have times. -/
theorem Vault.Reachable.stamped {vault : Vault} (reachable : vault.Reachable) :
    vault.Stamped := by
  induction reachable with
  | empty => exact .empty
  | addEntry entry before nonZero inductionHypothesis =>
      exact (inductionHypothesis.addEntry _ nonZero).1
  | removeEntry service before inductionHypothesis =>
      exact inductionHypothesis.removeEntry

/-- The payload round trip: a reachable vault within the 32-bit bounds of the
format comes back entry by entry, in order, with all five fields, and no clock
is read on the way. -/
theorem reachable_vault_round_trip {vault : Vault}
    (reachable : vault.Reachable) (encodable : vault.Encodable)
    (clock : Clock) :
    Vault.deserialize vault.serialize 3 clock = .ok (vault, clock) := by
  rw [Vault.deserialize_serialize encodable (by decide) clock,
    Vault.restamp_of_stamped reachable.stamped]

/-- Two entries with empty, NUL and 0xFF field bytes survive the round trip. -/
theorem reachable_vault_round_trip_two :
    let first : VaultEntry := ⟨[0x61], [], [0x00, 0xFF], [], 1⟩
    let second : VaultEntry := ⟨[], [0xFF], [], [0x00], 0xFFFFFFFFFFFFFFFF⟩
    let vault := ((Vault.empty.addEntry first (Clock.constant 7)).1.addEntry
      second (Clock.constant 7)).1
    vault.entries = [first, second] ∧
      Vault.deserialize vault.serialize 3 (Clock.constant 9) =
        .ok (vault, Clock.constant 9) :=
  ⟨by decide,
    reachable_vault_round_trip
      (.addEntry _ (.addEntry _ .empty (Clock.all_constant (by decide)))
        (Clock.all_constant (by decide)))
      ⟨by decide, by
        intro entry member
        have cases : entry = ⟨[0x61], [], [0x00, 0xFF], [], 1⟩ ∨
            entry = ⟨[], [0xFF], [], [0x00], 0xFFFFFFFFFFFFFFFF⟩ := by
          simpa [Vault.addEntry, Vault.store, Vault.empty,
            KeyedList.upsert_cons] using member
        rcases cases with rfl | rfl <;> constructor <;> decide⟩
      (Clock.constant 9)⟩

end DuckPass
