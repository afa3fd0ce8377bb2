/-
Module: DuckPass.Proofs.VaultFile
Purpose: What `load_vault` makes of a blob written by
  `serialize_and_encrypt_vault`, under the password it was written with and
  under any other, and what any successful load says about the file.
Trusted boundary: none beyond the named properties of the primitives.
Main exports: SealedBlob, SealedBlob.opens, SealedBlob.opens_stamped,
  openVaultBlob_password_unique, serializeAndEncryptVault_eq_ok,
  loadVault_eq_ok, loadVault_of_openVaultBlob
-/
import DuckPass.Core.VaultFile
import DuckPass.Proofs.VaultCodec

namespace DuckPass

/-! ## Sizes -/

theorem length_writeEntry (entry : VaultEntry) :
    (writeEntry [] entry).length =
      24 + entry.service.length + entry.username.length +
        entry.password.length + entry.totpSecret.length := by
  rw [writeEntry_eq []]
  simp only [List.nil_append, List.length_append, length_writeString,
    length_writeUint64]
  omega

private theorem length_encodeEntries_ge (entries : List VaultEntry) :
    entries.length ≤ (encodeEntries entries).length ∧
      ∀ entry ∈ entries,
        (writeEntry [] entry).length ≤ (encodeEntries entries).length := by
  induction entries with
  | nil => simp [encodeEntries]
  | cons head tail inductionHypothesis =>
      obtain ⟨count, each⟩ := inductionHypothesis
      have total : (encodeEntries (head :: tail)).length =
          (writeEntry [] head).length + (encodeEntries tail).length := by
        rw [encodeEntries, List.flatMap_cons, List.length_append]
        rfl
      have positive := length_writeEntry head
      refine ⟨?_, ?_⟩
      · rw [List.length_cons, total]
        omega
      · intro entry member
        rw [total]
        rcases List.mem_cons.mp member with rfl | inTail
        · exact Nat.le_add_right _ _
        · have := each entry inTail
          omega

/-- A payload that `encrypt_data` accepts respects every 32-bit bound of the
format. -/
theorem Vault.encodable_of_length {vault : Vault}
    (fits : vault.serialize.length ≤ intMax) : vault.Encodable := by
  have total : vault.serialize.length =
      4 + (encodeEntries vault.entries).length := by
    rw [Vault.serialize_eq, List.length_append, length_writeUint32]
  obtain ⟨count, each⟩ := length_encodeEntries_ge vault.entries
  have bound : intMax < 2 ^ 32 := by decide
  refine ⟨by omega, ?_⟩
  intro entry member
  have size := each entry member
  rw [length_writeEntry] at size
  constructor <;> omega

/-! ## Headers -/

theorem packHeader_eq (salt iv : SecureBytes) :
    packHeader salt iv =
      magicBytes ++ (writeUint32 [] 3 ++
        (writeUint32 [] currentKdfParams.timeCost ++
          (writeUint32 [] currentKdfParams.memoryCost ++
            (writeUint32 [] currentKdfParams.parallelism ++
              (salt ++ iv))))) := rfl

theorem length_packHeader (salt : Bytes saltBytes) (iv : Bytes ivBytes) :
    (packHeader salt.val iv.val).length = headerSize := by
  simp only [packHeader_eq, List.length_append, length_writeUint32, salt.2,
    iv.2]
  rfl

/-- The salt stands behind the four parameters. -/
theorem saltField_packHeader (salt : Bytes saltBytes) (iv : Bytes ivBytes)
    (body : SecureBytes) :
    ((packHeader salt.val iv.val ++ body).drop 20).take saltBytes =
      salt.val := by
  have start : (packHeader salt.val iv.val ++ body).drop 20 =
      salt.val ++ (iv.val ++ body) := by
    simp only [packHeader_eq, List.append_assoc]
    rfl
  rw [start, List.take_left' salt.2]

/-- The IV stands behind the salt. -/
theorem ivField_packHeader (salt : Bytes saltBytes) (iv : Bytes ivBytes)
    (body : SecureBytes) :
    ((packHeader salt.val iv.val ++ body).drop (20 + saltBytes)).take
      ivBytes = iv.val := by
  have start : (packHeader salt.val iv.val ++ body).drop (20 + saltBytes) =
      iv.val ++ body := by
    have cut : packHeader salt.val iv.val ++ body =
        (magicBytes ++ writeUint32 [] 3 ++
          writeUint32 [] currentKdfParams.timeCost ++
          writeUint32 [] currentKdfParams.memoryCost ++
          writeUint32 [] currentKdfParams.parallelism ++ salt.val) ++
        (iv.val ++ body) := by
      simp only [packHeader_eq, List.append_assoc]
    rw [cut]
    apply List.drop_left'
    simp only [List.length_append, length_writeUint32, salt.2]
    rfl
  rw [start, List.take_left' iv.2]

/-- A written header parses back to its fields. -/
theorem parseVaultHeader_packHeader (salt : Bytes saltBytes)
    (iv : Bytes ivBytes) {body : SecureBytes}
    (tagged : tagBytes ≤ body.length) :
    parseVaultHeader (packHeader salt.val iv.val ++ body) =
      .ok
        { version := 3
          kdfParams := currentKdfParams
          salt := salt.val
          iv := iv.val
          aad := packHeader salt.val iv.val
          ciphertext := body } := by
  have size := length_packHeader salt iv
  have long : ¬ (packHeader salt.val iv.val ++ body).length <
      headerSize + tagBytes := by
    rw [List.length_append, size]
    omega
  have magic : (packHeader salt.val iv.val ++ body).take 4 = magicBytes := by
    rw [packHeader_eq, List.append_assoc]
    rfl
  have aad : (packHeader salt.val iv.val ++ body).take headerSize =
      packHeader salt.val iv.val := List.take_left' size
  have rest : (packHeader salt.val iv.val ++ body).drop headerSize = body :=
    List.drop_left' size
  have saltField := saltField_packHeader salt iv body
  have ivField := ivField_packHeader salt iv body
  have readVersion := (readUint32_readsBack 3).at
    (packHeader salt.val iv.val ++ body) 4 magicBytes _ rfl
    (by simp only [packHeader_eq, List.append_assoc]; rfl)
  have readTime := (readUint32_readsBack currentKdfParams.timeCost).at
    (packHeader salt.val iv.val ++ body) 8 (magicBytes ++ writeUint32 [] 3) _ rfl
    (by simp only [packHeader_eq, List.append_assoc]; rfl)
  have readMemory := (readUint32_readsBack currentKdfParams.memoryCost).at
    (packHeader salt.val iv.val ++ body) 12
    (magicBytes ++ writeUint32 [] 3 ++
      writeUint32 [] currentKdfParams.timeCost) _ rfl
    (by simp only [packHeader_eq, List.append_assoc]; rfl)
  have readLanes := (readUint32_readsBack currentKdfParams.parallelism).at
    (packHeader salt.val iv.val ++ body) 16
    (magicBytes ++ writeUint32 [] 3 ++
      writeUint32 [] currentKdfParams.timeCost ++
      writeUint32 [] currentKdfParams.memoryCost) _ rfl
    (by simp only [packHeader_eq, List.append_assoc]; rfl)
  simp only [length_writeUint32, Nat.reduceAdd] at readVersion readTime
  simp only [length_writeUint32, Nat.reduceAdd] at readMemory readLanes
  have known : ¬ ((3 : UInt32) ≠ 1 ∧ (3 : UInt32) ≠ 2 ∧ (3 : UInt32) ≠ 3) := by
    decide
  have authenticated : (3 : UInt32) ≥ 2 := by decide
  have safe : ¬ (currentKdfParams.memoryCost > maxMemoryCost ∨
      currentKdfParams.timeCost > maxTimeCost ∨
      currentKdfParams.parallelism > maxParallelism) := by decide
  have total : 20 + saltBytes + ivBytes = headerSize := rfl
  simp only [parseVaultHeader, if_neg long, magic, ne_eq, not_true_eq_false,
    if_false, readVersion, bind, Except.bind, pure, Except.pure, readTime,
    readMemory, readLanes, if_pos authenticated, if_neg safe, saltField,
    ivField, aad, total, rest]
  rw [if_neg (by decide)]

/-! ## Sealed blobs -/

/-- `blob` is what `serialize_and_encrypt_vault` makes of `vault` under
`password` for some random salt and IV. -/
structure SealedBlob (primitives : Primitives) (password : SecureString)
    (vault : Vault) (blob : SecureBytes) : Prop where
  fits : vault.serialize.length ≤ intMax
  shape : ∃ (salt : Bytes saltBytes) (iv : Bytes ivBytes) (key : SecureBytes),
    primitives.argon2idHashRaw currentKdfParams password salt.val = .ok key ∧
      blob = packHeader salt.val iv.val ++
        ((primitives.gcmSeal key iv.val (packHeader salt.val iv.val)
            vault.serialize).1 ++
          (primitives.gcmSeal key iv.val (packHeader salt.val iv.val)
            vault.serialize).2.val)

theorem deriveKeyFromPassword_eq_ok {primitives : Primitives}
    {password : SecureString} {salt key : SecureBytes} {params : KdfParams} :
    deriveKeyFromPassword primitives password salt params = .ok key ↔
      primitives.argon2idHashRaw params password salt = .ok key := by
  unfold deriveKeyFromPassword
  cases primitives.argon2idHashRaw params password salt with
  | ok derived => simp
  | error message => simp

theorem serializeAndEncryptVault_eq_ok {primitives : Primitives}
    {env : SealEnv} {vault : Vault} {password : SecureString}
    {blob : SecureBytes}
    (encrypted :
      serializeAndEncryptVault primitives env vault password = .ok blob) :
    SealedBlob primitives password vault blob := by
  unfold serializeAndEncryptVault at encrypted
  obtain ⟨salt, _, encrypted⟩ := bind_eq_ok.mp encrypted
  obtain ⟨iv, _, encrypted⟩ := bind_eq_ok.mp encrypted
  obtain ⟨key, keyEq, encrypted⟩ := bind_eq_ok.mp encrypted
  obtain ⟨body, bodyEq, encrypted⟩ := bind_eq_ok.mp encrypted
  obtain ⟨fits, rfl⟩ := encryptData_eq_ok bodyEq
  exact ⟨fits, salt, iv, key, deriveKeyFromPassword_eq_ok.mp keyEq,
    (Except.ok.inj encrypted).symm⟩

/-- Opening a sealed blob with any password reaches the tag check under the key
derived from that password. -/
private theorem openVaultBlob_packed {primitives : Primitives}
    (salt : Bytes saltBytes) (iv : Bytes ivBytes) (key : SecureBytes)
    (plaintext : SecureBytes) (password : SecureString) (clock : Clock) :
    openVaultBlob primitives none
        (packHeader salt.val iv.val ++
          ((primitives.gcmSeal key iv.val (packHeader salt.val iv.val)
              plaintext).1 ++
            (primitives.gcmSeal key iv.val (packHeader salt.val iv.val)
              plaintext).2.val)) password clock =
      (do
        let otherKey ← deriveKeyFromPassword primitives password salt.val
          currentKdfParams
        let plaintextBytes ← decryptData primitives none
          ((primitives.gcmSeal key iv.val (packHeader salt.val iv.val)
              plaintext).1 ++
            (primitives.gcmSeal key iv.val (packHeader salt.val iv.val)
              plaintext).2.val) otherKey iv.val (packHeader salt.val iv.val)
        Vault.deserialize plaintextBytes 3 clock) := by
  have tagged : tagBytes ≤
      ((primitives.gcmSeal key iv.val (packHeader salt.val iv.val)
          plaintext).1 ++
        (primitives.gcmSeal key iv.val (packHeader salt.val iv.val)
          plaintext).2.val).length := by
    rw [List.length_append, (primitives.gcmSeal key iv.val _ plaintext).2.2]
    exact Nat.le_add_left _ _
  rw [openVaultBlob, parseVaultHeader_packHeader salt iv tagged]
  rfl

/-- A sealed blob opens under its own password to its vault, with the times
that were never set filled in from the clock. -/
theorem SealedBlob.opens {primitives : Primitives} {password : SecureString}
    {vault : Vault} {blob : SecureBytes}
    (sealed : SealedBlob primitives password vault blob)
    (roundTrips : primitives.RoundTrips) (clock : Clock) :
    openVaultBlob primitives none blob password clock =
      .ok (vault.restamp clock) := by
  obtain ⟨salt, iv, key, keyEq, rfl⟩ := sealed.shape
  have encodable := Vault.encodable_of_length sealed.fits
  rw [openVaultBlob_packed, deriveKeyFromPassword_eq_ok.mpr keyEq]
  simp only [bind, Except.bind, roundTrips.decryptData_sealed]
  exact Vault.deserialize_serialize encodable (by decide) clock

theorem SealedBlob.opens_stamped {primitives : Primitives}
    {password : SecureString} {vault : Vault} {blob : SecureBytes}
    (sealed : SealedBlob primitives password vault blob)
    (roundTrips : primitives.RoundTrips) (stamped : vault.Stamped)
    (clock : Clock) :
    openVaultBlob primitives none blob password clock = .ok (vault, clock) := by
  rw [sealed.opens roundTrips, Vault.restamp_of_stamped stamped]

/-- The four steps of a successful opening. -/
theorem openVaultBlob_eq_ok {primitives : Primitives}
    {cipherFault : Option String} {blob : SecureBytes}
    {password : SecureString} {clock : Clock} {opened : Vault × Clock}
    (finished :
      openVaultBlob primitives cipherFault blob password clock = .ok opened) :
    ∃ header key plaintext, parseVaultHeader blob = .ok header ∧
      primitives.argon2idHashRaw header.kdfParams password header.salt =
        .ok key ∧
      decryptData primitives cipherFault header.ciphertext key header.iv
        header.aad = .ok plaintext ∧
      Vault.deserialize plaintext header.version clock = .ok opened := by
  unfold openVaultBlob at finished
  obtain ⟨header, headerEq, finished⟩ := bind_eq_ok.mp finished
  obtain ⟨key, keyEq, finished⟩ := bind_eq_ok.mp finished
  obtain ⟨plaintext, plaintextEq, finished⟩ := bind_eq_ok.mp finished
  exact ⟨header, key, plaintext, headerEq,
    deriveKeyFromPassword_eq_ok.mp keyEq, plaintextEq, finished⟩

/-- No other password opens any blob that some password opens. -/
theorem openVaultBlob_password_unique {primitives : Primitives}
    (ideal : primitives.Ideal) {blob : SecureBytes}
    {password otherPassword : SecureString} {clock otherClock : Clock}
    {opened otherOpened : Vault × Clock}
    (one : openVaultBlob primitives none blob password clock = .ok opened)
    (two : openVaultBlob primitives none blob otherPassword otherClock =
      .ok otherOpened) :
    password = otherPassword := by
  obtain ⟨header, key, plaintext, headerEq, keyEq, decrypted, _⟩ :=
    openVaultBlob_eq_ok one
  obtain ⟨otherHeader, otherKey, _, otherHeaderEq, otherKeyEq,
    otherDecrypted, _⟩ := openVaultBlob_eq_ok two
  rw [headerEq] at otherHeaderEq
  cases otherHeaderEq
  by_cases sameKey : key = otherKey
  · subst sameKey
    exact ideal.password_of_key keyEq otherKeyEq
  · -- What opens under `key` was sealed under it, so the other key fails the
    -- tag check.
    have openedEq := (decryptData_eq_ok decrypted).2
    have otherOpenedEq := (decryptData_eq_ok otherDecrypted).2
    obtain ⟨cipherEq, tagEq⟩ := ideal.seal_of_open openedEq
    have rejected : primitives.gcmOpen otherKey header.iv header.aad
        (primitives.gcmSeal key header.iv header.aad plaintext).1
        (primitives.gcmSeal key header.iv header.aad plaintext).2 = none :=
      ideal.other_key sameKey
    rw [cipherEq, tagEq, otherOpenedEq] at rejected
    cases rejected

/-! ## Loading files -/

/-- `load_vault` reads nothing but its file. -/
theorem loadVault_congr {primitives : Primitives} {path : Path}
    {files other : Files} (faults : LoadFaults)
    (same : other path = files path) (password : SecureString)
    (clock : Clock) :
    loadVault primitives faults other path password clock =
      loadVault primitives faults files path password clock := by
  unfold loadVault readFile
  rw [same]

/-- Whatever the sizes of the partial reads, a read that ends normally has the
whole content. -/
theorem readAll_eq_ok {replies : List IoReply}
    {remaining buffer content : SecureBytes}
    (finished : readAll replies remaining buffer = .ok content) :
    content = buffer ++ remaining := by
  induction replies generalizing remaining buffer with
  | nil =>
      unfold readAll at finished
      exact (Except.ok.inj finished).symm
  | cons reply replies inductionHypothesis =>
      unfold readAll at finished
      split at finished
      · next done =>
          rw [List.isEmpty_iff.mp done, List.append_nil]
          exact (Except.ok.inj finished).symm
      · cases reply with
        | interrupted => exact inductionHypothesis finished
        | failed errno => cases finished
        | transferred count =>
            cases count with
            | zero => cases finished
            | succ count =>
                have whole := inductionHypothesis finished
                rw [List.append_assoc, List.take_append_drop] at whole
                exact whole

theorem readFile_eq_ok {faults : ReadFaults} {files : Files} {path : Path}
    {content : SecureBytes}
    (finished : readFile faults files path = .ok content) :
    files path = some content ∧ content.length ≤ maxFileSize := by
  unfold readFile at finished
  split at finished
  · cases finished
  · cases finished
  · next stored _ presentEq =>
      split at finished
      · cases finished
      · split at finished
        · cases finished
        · next small =>
            split at finished
            · next nothing =>
                cases finished
                rw [List.isEmpty_iff.mp nothing] at presentEq
                exact ⟨presentEq, Nat.zero_le _⟩
            · have whole := readAll_eq_ok finished
              rw [List.nil_append] at whole
              subst whole
              exact ⟨presentEq, Nat.le_of_not_lt small⟩

/-- A load that succeeds has read the file as it stands and opened it. -/
theorem loadVault_eq_ok {primitives : Primitives} {faults : LoadFaults}
    {files : Files} {path : Path} {password : SecureString} {clock : Clock}
    {loaded : Vault × Clock}
    (finished :
      loadVault primitives faults files path password clock = .ok loaded) :
    ∃ blob, files path = some blob ∧ blob.length ≤ maxFileSize ∧
      openVaultBlob primitives none blob password clock = .ok loaded := by
  unfold loadVault at finished
  obtain ⟨blob, readEq, finished⟩ := bind_eq_ok.mp finished
  obtain ⟨present, small⟩ := readFile_eq_ok readEq
  obtain ⟨_, _, _, _, _, decrypted, _⟩ := openVaultBlob_eq_ok finished
  rw [(decryptData_eq_ok decrypted).1] at finished
  exact ⟨blob, present, small, finished⟩

/-- A file within the size cap whose content opens is loaded when no call
fails. -/
theorem loadVault_of_openVaultBlob {primitives : Primitives} {files : Files}
    {path : Path} {password : SecureString} {clock : Clock}
    {blob : SecureBytes} (present : files path = some blob)
    (small : blob.length ≤ maxFileSize) :
    loadVault primitives LoadFaults.none files path password clock =
      openVaultBlob primitives none blob password clock := by
  have read : readFile LoadFaults.none.read files path = .ok blob := by
    simp only [readFile, LoadFaults.none, ReadFaults.none, present,
      if_neg (Nat.not_lt.mpr small)]
    split
    · next nothing => rw [List.isEmpty_iff.mp nothing]
    · rfl
  rw [loadVault, read]
  rfl

end DuckPass
