/-
Module: DuckPass.Proofs.EntryCodec
Purpose: The payloads that carry an entry, a refusal or a TOTP code are read
  back as what was written, by every copy of the codec that reads them.
Trusted boundary: none
Main exports: fourStrings, read_fourStrings, AgentServer.entryPayload_eq,
  AgentServer.extractAddPayload_fourStrings, IpcClient.extractEntry_fourStrings,
  DesktopClient.extractString_fourStrings, totpPayload
-/
import DuckPass.Core.AgentServer
import DuckPass.Proofs.Ipc

namespace DuckPass

/-! ## Four strings in a row

ADD_ENTRY sends an entry as four strings and GET_ENTRY receives it so. -/

/-- Service, user name, password and secret, as they stand in a payload. -/
def fourStrings (s u p t : SecureString) : SecureBytes :=
  appendPrefixed [] s ++ (appendPrefixed [] u ++
    (appendPrefixed [] p ++ appendPrefixed [] t))

/-- A reader takes a string from wherever it stands and goes on behind it. -/
def ReadsAnywhere {β : Type} (read : SecureBytes → Nat → β)
    (result : SecureString → Nat → β) (str : SecureString) : Prop :=
  ∀ before after, read (before ++ (appendPrefixed [] str ++ after))
    before.length = result str (before.length + (4 + str.length))

section Readers

variable {β : Type} {read : SecureBytes → Nat → β}
  {result : SecureString → Nat → β}

/-- A string that stands alone. -/
theorem ReadsAnywhere.alone {str : SecureString}
    (reads : ReadsAnywhere read result str) :
    read (appendPrefixed [] str) 0 = result str (4 + str.length) := by
  have found := reads [] []
  rwa [List.nil_append, List.append_nil, List.length_nil,
    Nat.zero_add] at found

/-- The four strings are taken one after the other. -/
theorem read_fourStrings {s u p t : SecureString}
    (readsService : ReadsAnywhere read result s)
    (readsUsername : ReadsAnywhere read result u)
    (readsPassword : ReadsAnywhere read result p)
    (readsSecret : ReadsAnywhere read result t) :
    ∃ first second third fourth,
      read (fourStrings s u p t) 0 = result s first ∧
      read (fourStrings s u p t) first = result u second ∧
      read (fourStrings s u p t) second = result p third ∧
      read (fourStrings s u p t) third = result t fourth := by
  refine ⟨4 + s.length, 4 + s.length + (4 + u.length),
    4 + s.length + (4 + u.length) + (4 + p.length),
    4 + s.length + (4 + u.length) + (4 + p.length) + (4 + t.length),
    ?_, ?_, ?_, ?_⟩
  · have found := readsService [] (appendPrefixed [] u ++
      (appendPrefixed [] p ++ appendPrefixed [] t))
    rwa [List.nil_append, List.length_nil, Nat.zero_add] at found
  · have found := readsUsername (appendPrefixed [] s)
      (appendPrefixed [] p ++ appendPrefixed [] t)
    rwa [length_appendPrefixed] at found
  · have found := readsPassword (appendPrefixed [] s ++ appendPrefixed [] u)
      (appendPrefixed [] t)
    rwa [List.append_assoc, List.length_append, length_appendPrefixed,
      length_appendPrefixed] at found
  · have found := readsSecret (appendPrefixed [] s ++
      (appendPrefixed [] u ++ appendPrefixed [] p)) []
    rwa [List.append_nil, List.append_assoc, List.append_assoc,
      List.length_append, List.length_append, length_appendPrefixed,
      length_appendPrefixed, length_appendPrefixed, ← Nat.add_assoc] at found

end Readers

theorem readsAnywhere_extractPrefixed {str : SecureString}
    (short : str.length < 4294967296) :
    ReadsAnywhere extractPrefixed (fun str next => (some str, next)) str := by
  intro before after
  rw [extractPrefixed_appendPrefixed short, Nat.add_assoc]

/-- What `extract_string` of `protocol.rs` makes of the bytes of a string. -/
def DesktopClient.checked (str : SecureString) (next : Nat) :
    Except IoError (Utf8String × Nat) :=
  if valid : validUtf8 str = true then .ok (⟨str, valid⟩, next)
  else .error (.invalidUtf8 str)

theorem DesktopClient.checked_of_valid {str : Utf8String} {next : Nat} :
    checked str.val next = .ok (str, next) := by
  rw [checked, dif_pos str.property]

theorem DesktopClient.readsAnywhere_extractString {str : Utf8String}
    (short : str.val.length < 4294967296) :
    ReadsAnywhere DesktopClient.extractString DesktopClient.checked
      str.val := by
  intro before after
  rw [DesktopClient.extractString_appendPrefixed short str.property,
    DesktopClient.checked_of_valid, Nat.add_assoc]

/-! ### Sizes -/

/-- A string whose prefixed form is within the limit has a length that the
prefix can hold. -/
theorem short_of_appendPrefixed {str : SecureString}
    (fits : (appendPrefixed [] str).length ≤ maxPayload) :
    str.length < 4294967296 := by
  rw [length_appendPrefixed] at fits
  exact Nat.lt_of_le_of_lt (Nat.le_add_left _ _) (lt_of_le_maxPayload fits)

theorem short_of_fourStrings {s u p t : SecureString}
    (fits : (fourStrings s u p t).length ≤ maxPayload) :
    s.length < 4294967296 ∧ u.length < 4294967296 ∧
      p.length < 4294967296 ∧ t.length < 4294967296 := by
  have small := lt_of_le_maxPayload fits
  simp only [fourStrings, List.length_append, length_appendPrefixed] at small
  omega

/-! ### The copies that read and write an entry -/

theorem AgentServer.entryPayload_eq (entry : VaultEntry) :
    entryPayload entry = fourStrings entry.service entry.username
      entry.password entry.totpSecret := by
  simp only [entryPayload, appendSecStr, fourStrings]
  rw [appendPrefixed_eq _ entry.totpSecret, appendPrefixed_eq _ entry.password,
    appendPrefixed_eq _ entry.username]
  simp only [List.append_assoc]

theorem IpcClient.addPayload_eq (entry : EntryData) :
    addPayload entry = fourStrings entry.service entry.username entry.password
      entry.totpSecret := by
  simp only [addPayload, appendSecureString, fourStrings]
  rw [appendPrefixed_eq _ entry.totpSecret, appendPrefixed_eq _ entry.password,
    appendPrefixed_eq _ entry.username]
  simp only [List.append_assoc]

/-- The two C++ copies take the four strings one after the other. -/
theorem extractPrefixed_fourStrings {s u p t : SecureString}
    (fits : (fourStrings s u p t).length ≤ maxPayload) :
    ∃ first second third fourth,
      extractPrefixed (fourStrings s u p t) 0 = (some s, first) ∧
      extractPrefixed (fourStrings s u p t) first = (some u, second) ∧
      extractPrefixed (fourStrings s u p t) second = (some p, third) ∧
      extractPrefixed (fourStrings s u p t) third = (some t, fourth) := by
  obtain ⟨shortS, shortU, shortP, shortT⟩ := short_of_fourStrings fits
  exact read_fourStrings (readsAnywhere_extractPrefixed shortS)
    (readsAnywhere_extractPrefixed shortU)
    (readsAnywhere_extractPrefixed shortP)
    (readsAnywhere_extractPrefixed shortT)

/-- The agent reads back the entry that a client sent. -/
theorem AgentServer.extractAddPayload_fourStrings {s u p t : SecureString}
    (fits : (fourStrings s u p t).length ≤ maxPayload) :
    extractAddPayload (fourStrings s u p t) = some (s, u, p, t) := by
  obtain ⟨first, second, third, fourth, readS, readU, readP, readT⟩ :=
    extractPrefixed_fourStrings fits
  simp only [extractAddPayload, extractSecStr, readS, readU, readP, readT]

/-- The client of `ipc.cpp` reads back the entry that the agent sent. -/
theorem IpcClient.extractEntry_fourStrings {s u p t : SecureString}
    (fits : (fourStrings s u p t).length ≤ maxPayload) :
    extractEntry (fourStrings s u p t) = ⟨s, u, p, t⟩ := by
  obtain ⟨first, second, third, fourth, readS, readU, readP, readT⟩ :=
    extractPrefixed_fourStrings fits
  simp only [extractEntry, extractSecureString, readS, readU, readP, readT,
    Option.getD_some]

/-- And the text of a refusal. -/
theorem IpcClient.errorText_appendStr {text : SecureBytes}
    (fits : (AgentServer.appendStr [] text).length ≤ maxPayload)
    (outError : SecureBytes) :
    errorText outError (AgentServer.appendStr [] text) = text := by
  have read :=
    (readsAnywhere_extractPrefixed (short_of_appendPrefixed fits)).alone
  simp only [errorText, extractString, AgentServer.appendStr, read,
    Option.getD_some]

/-! ### TOTP codes -/

/-- The code and the seconds left, as GET_TOTP sends them. -/
def totpPayload (code : SecureString) (remaining : UInt32) : SecureBytes :=
  appendPrefixed [] code ++ htonl remaining

theorem short_of_totpPayload {code : SecureString} {remaining : UInt32}
    (fits : (totpPayload code remaining).length ≤ maxPayload) :
    code.length < 4294967296 := by
  apply short_of_appendPrefixed
  apply Nat.le_trans _ fits
  rw [totpPayload, List.length_append]
  exact Nat.le_add_right _ _

/-- The word behind the code. -/
theorem ntohlAt_totpPayload (code : SecureString) (remaining : UInt32) :
    ntohlAt (totpPayload code remaining) (4 + code.length) =
      some remaining := by
  have word := ntohlAt_htonl (appendPrefixed [] code) [] remaining
  rwa [List.append_nil, length_appendPrefixed] at word

/-- The code and the seconds left of a TOTP answer. -/
theorem IpcClient.extractTotp_payload {code : SecureString}
    {remaining : UInt32}
    (fits : (totpPayload code remaining).length ≤ maxPayload) :
    extractTotp (totpPayload code remaining) = ⟨code, remaining⟩ := by
  have read := readsAnywhere_extractPrefixed (short_of_totpPayload fits) []
    (htonl remaining)
  rw [List.nil_append, List.length_nil, Nat.zero_add, ← totpPayload] at read
  simp only [extractTotp, extractString, read, ntohlAt_totpPayload,
    Option.getD_some]

/-- The Rust client reads the same code, if it is valid. -/
theorem DesktopClient.extractString_totpPayload {code : Utf8String}
    {remaining : UInt32}
    (fits : (totpPayload code.val remaining).length ≤ maxPayload) :
    extractString (totpPayload code.val remaining) 0 =
      .ok (code, 4 + code.val.length) := by
  have read := readsAnywhere_extractString (short_of_totpPayload fits) []
    (htonl remaining)
  rwa [List.nil_append, List.length_nil, Nat.zero_add, ← totpPayload,
    checked_of_valid] at read

/-- The Rust client reads back the entry that the agent sent. -/
theorem DesktopClient.extractString_fourStrings {s u p t : Utf8String}
    (fits : (fourStrings s.val u.val p.val t.val).length ≤ maxPayload) :
    ∃ first second third fourth,
      extractString (fourStrings s.val u.val p.val t.val) 0 = .ok (s, first) ∧
      extractString (fourStrings s.val u.val p.val t.val) first =
        .ok (u, second) ∧
      extractString (fourStrings s.val u.val p.val t.val) second =
        .ok (p, third) ∧
      extractString (fourStrings s.val u.val p.val t.val) third =
        .ok (t, fourth) := by
  obtain ⟨shortS, shortU, shortP, shortT⟩ := short_of_fourStrings fits
  obtain ⟨first, second, third, fourth, readS, readU, readP, readT⟩ :=
    read_fourStrings (readsAnywhere_extractString shortS)
      (readsAnywhere_extractString shortU)
      (readsAnywhere_extractString shortP)
      (readsAnywhere_extractString shortT)
  simp only [checked_of_valid] at readS readU readP readT
  exact ⟨first, second, third, fourth, readS, readU, readP, readT⟩

end DuckPass
