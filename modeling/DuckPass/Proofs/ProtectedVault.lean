/-
Module: DuckPass.Proofs.ProtectedVault
Purpose: The vault of encrypted strings behaves as the vault of plain ones that
  the rest of the model works on: whatever calls are made and whichever library
  calls fail in them, each call answers as on plain strings or throws and leaves
  the vault as it was.
Trusted boundary: what AES-256-GCM seals opens again under the same key.
Main exports: ProtectedString.Shows, ProtectedEntry.Shows,
  ProtectedVault.Reveals, PlainStep, protected_vault_refines,
  failed_removal_cases
-/
import DuckPass.Core.ProtectedVault
import DuckPass.Lib.Attempts
import DuckPass.Lib.Simulation
import DuckPass.System.Symbolic
import Mathlib.Data.List.Forall2

namespace DuckPass

open Attempts (Ends)
open List (Forall₂)

variable {primitives : Primitives} {sessionKey : SecureBytes}

/-! ## Strings -/

/-- Something failed, and the exception reports it. -/
def CryptoFault (failed : Prop) (error : DuckpassError) : Prop :=
  failed ∧ ∃ message, error = .crypto message

/-- An error that one condition allows is allowed by any weaker one. -/
theorem CryptoFault.mono {failed wider : Prop} (implies : failed → wider)
    (error : DuckpassError) (fault : CryptoFault failed error) :
    CryptoFault wider error :=
  ⟨implies fault.1, fault.2⟩

/-- No library call of a constructor fails. -/
def ProtectCalls.Flawless (calls : ProtectCalls) (plaintext : SecureString) :
    Prop :=
  calls.random ≠ none ∧ calls.fault = none ∧ plaintext.length ≤ intMax

namespace ProtectedString

/-- What the string opens to under the session key. -/
def Shows (primitives : Primitives) (sessionKey : SecureBytes)
    (self : ProtectedString) (plaintext : SecureString) : Prop :=
  self.unprotect primitives sessionKey none = .ok plaintext

variable {self : ProtectedString} {plaintext : SecureString}

/-- A blank string shows the empty one. -/
theorem blank_shows : blank.Shows primitives sessionKey [] := rfl

/-- `unprotect` gives the plaintext, unless OpenSSL fails. -/
theorem unprotect_ends (plain : self.Shows primitives sessionKey plaintext)
    (fault : Option String) :
    Ends (· = plaintext) (CryptoFault (fault ≠ none))
      (self.unprotect primitives sessionKey fault) := by
  cases fault with
  | none =>
      rw [plain]
      exact .returned rfl
  | some message =>
      unfold Shows ProtectedString.unprotect at plain
      unfold ProtectedString.unprotect
      split at plain
      · next empty =>
          rw [if_pos empty, plain]
          exact .returned rfl
      · next filled =>
          rw [if_neg filled]
          unfold decryptData at plain ⊢
          split at plain
          · cases plain
          · next long =>
              rw [if_neg long]
              exact .threw ⟨by simp, message, rfl⟩

/-- `encrypt_data` seals, unless OpenSSL fails or the plaintext is too long for
it. -/
theorem encryptData_ends (fault : Option String)
    (plaintext key iv aad : SecureBytes) :
    Ends (· = (primitives.gcmSeal key iv aad plaintext).1 ++
        (primitives.gcmSeal key iv aad plaintext).2.val)
      (CryptoFault (¬ (fault = none ∧ plaintext.length ≤ intMax)))
      (encryptData primitives fault plaintext key iv aad) := by
  unfold encryptData
  split
  · next large =>
      exact .threw ⟨fun fits => Nat.not_le.mpr large fits.2, _, rfl⟩
  · cases fault with
    | some message => exact .threw ⟨by simp, message, rfl⟩
    | none => exact .returned rfl

/-- A sealed string is never empty: it ends with the tag. -/
theorem sealed_ne_nil (key iv aad plaintext : SecureBytes) :
    (primitives.gcmSeal key iv aad plaintext).1 ++
      (primitives.gcmSeal key iv aad plaintext).2.val ≠ [] := by
  intro empty
  have tag := congrArg List.length (List.append_eq_nil_iff.mp empty).2
  rw [(primitives.gcmSeal key iv aad plaintext).2.property] at tag
  cases tag

/-- What is protected shows the plaintext. -/
theorem protect_ends (roundTrips : primitives.RoundTrips)
    (calls : ProtectCalls) (plaintext : SecureString) :
    Ends (Shows primitives sessionKey · plaintext)
      (CryptoFault (¬ calls.Flawless plaintext))
      (protect primitives sessionKey calls plaintext) := by
  unfold protect
  split
  · next empty =>
      rw [List.isEmpty_iff.mp empty]
      exact .returned blank_shows
  · cases random : calls.random with
    | none => exact .threw ⟨fun flawless => flawless.1 random, _, rfl⟩
    | some iv =>
        dsimp only [generateRandomBytes]
        cases encrypted : encryptData primitives calls.fault plaintext
            sessionKey iv.val [] with
        | error error =>
            have ends := @encryptData_ends primitives calls.fault plaintext
              sessionKey iv.val []
            rw [encrypted] at ends
            cases ends with
            | threw cause =>
                exact .threw (cause.mono (fun flawed flawless =>
                  flawed flawless.2) _)
        | ok ciphertext =>
            obtain ⟨_, rfl⟩ := encryptData_eq_ok encrypted
            refine .returned ?_
            have filled := @sealed_ne_nil primitives sessionKey iv.val []
              plaintext
            unfold Shows ProtectedString.unprotect
            rw [if_neg (List.isEmpty_iff.not.mpr filled)]
            exact roundTrips.decryptData_sealed

/-- A string that is given anew or kept. -/
theorem replaced_ends (roundTrips : primitives.RoundTrips)
    (calls : ProtectCalls) (new : Option SecureString)
    (plain : self.Shows primitives sessionKey plaintext) :
    Ends (Shows primitives sessionKey · (new.getD plaintext))
      (CryptoFault (∃ given ∈ new, ¬ calls.Flawless given))
      (self.replaced primitives sessionKey calls new) := by
  cases new with
  | none => exact .returned plain
  | some given =>
      exact (protect_ends roundTrips calls given).weaken (fun _ holds => holds)
        (CryptoFault.mono fun flawed => ⟨given, rfl, flawed⟩)

end ProtectedString

/-! ## Entries -/

/-- The strings of the entry show those of the other, and the times agree. -/
structure ProtectedEntry.Shows (primitives : Primitives)
    (sessionKey : SecureBytes) (stored : ProtectedEntry) (entry : VaultEntry) :
    Prop where
  service : stored.service.Shows primitives sessionKey entry.service
  username : stored.username.Shows primitives sessionKey entry.username
  password : stored.password.Shows primitives sessionKey entry.password
  totpSecret : stored.totpSecret.Shows primitives sessionKey entry.totpSecret
  lastUpdated : stored.lastUpdated = entry.lastUpdated

def EntryCiphers.Flawless (ciphers : EntryCiphers) (entry : VaultEntry) :
    Prop :=
  ciphers.service.Flawless entry.service ∧
    ciphers.username.Flawless entry.username ∧
    ciphers.password.Flawless entry.password ∧
    ciphers.totpSecret.Flawless entry.totpSecret

namespace ProtectedEntry

variable {stored : ProtectedEntry} {entry : VaultEntry}

/-- `protect` gives an entry that shows the plain one, unless a call fails. -/
theorem protect_ends (roundTrips : primitives.RoundTrips)
    (ciphers : EntryCiphers) (entry : VaultEntry) :
    Ends (Shows primitives sessionKey · entry)
      (CryptoFault (¬ ciphers.Flawless entry))
      (protect primitives sessionKey ciphers entry) := by
  unfold protect
  refine (ProtectedString.protect_ends roundTrips _ _).bind
    (CryptoFault.mono fun flawed flawless => flawed flawless.1)
    fun service serviceShows => ?_
  refine (ProtectedString.protect_ends roundTrips _ _).bind
    (CryptoFault.mono fun flawed flawless => flawed flawless.2.1)
    fun username usernameShows => ?_
  refine (ProtectedString.protect_ends roundTrips _ _).bind
    (CryptoFault.mono fun flawed flawless => flawed flawless.2.2.1)
    fun password passwordShows => ?_
  refine (ProtectedString.protect_ends roundTrips _ _).bind
    (CryptoFault.mono fun flawed flawless => flawed flawless.2.2.2)
    fun totpSecret totpSecretShows => ?_
  exact .pure ⟨serviceShows, usernameShows, passwordShows, totpSecretShows, rfl⟩

/-- An entry opens to what it shows. -/
theorem unprotect_ends (plain : stored.Shows primitives sessionKey entry)
    (faults : EntryFaults) :
    Ends (· = entry) (CryptoFault (faults ≠ .none))
      (stored.unprotect primitives sessionKey faults) := by
  unfold unprotect
  refine (ProtectedString.unprotect_ends plain.service _).bind
    (CryptoFault.mono (by rintro flawed rfl; exact flawed rfl)) ?_
  rintro service rfl
  refine (ProtectedString.unprotect_ends plain.username _).bind
    (CryptoFault.mono (by rintro flawed rfl; exact flawed rfl)) ?_
  rintro username rfl
  refine (ProtectedString.unprotect_ends plain.password _).bind
    (CryptoFault.mono (by rintro flawed rfl; exact flawed rfl)) ?_
  rintro password rfl
  refine (ProtectedString.unprotect_ends plain.totpSecret _).bind
    (CryptoFault.mono (by rintro flawed rfl; exact flawed rfl)) ?_
  rintro totpSecret rfl
  rw [plain.lastUpdated]
  exact .pure rfl

end ProtectedEntry

/-! ## The vault -/

/-- No decryption of a loop fails. -/
def CipherFaults.Flawless (faults : CipherFaults) : Prop :=
  ∀ fault ∈ faults, fault = none

instance (faults : CipherFaults) : Decidable faults.Flawless :=
  inferInstanceAs (Decidable (∀ fault ∈ faults, fault = none))

/-- Without faults none is at any index. -/
theorem CipherFaults.Flawless.at {faults : CipherFaults}
    (flawless : faults.Flawless) (index : Nat) : faults.at index = none := by
  unfold CipherFaults.at
  rw [List.getD_eq_getElem?_getD]
  cases found : faults[index]? with
  | none => rfl
  | some fault => exact flawless fault (List.mem_of_getElem? found)

/-- The plain lookup finds an index and reads what is there. -/
theorem Vault.getEntry_eq_getElem? (vault : Vault) (service : SecureString) :
    vault.getEntry service =
      (vault.entries.findIdx? fun other => other.service = service).bind
        (vault.entries[·]?) := by
  unfold getEntry KeyedList.lookup
  induction vault.entries with
  | nil => rfl
  | cons head tail inductionHypothesis =>
      rw [List.find?_cons, List.findIdx?_cons]
      split
      · next same =>
          rw [if_pos same]
          rfl
      · next other =>
          rw [if_neg (by simp [other]), inductionHypothesis]
          cases tail.findIdx? _ <;> rfl

namespace ProtectedVault

variable {stored : ProtectedVault} {plain : List VaultEntry} {vault : Vault}

/-- The entries show those of the vault, in the same order. -/
def Reveals (primitives : Primitives) (sessionKey : SecureBytes)
    (stored : ProtectedVault) (vault : Vault) : Prop :=
  Forall₂ (ProtectedEntry.Shows primitives sessionKey) stored vault.entries

/-- The search goes past the entries that the plain search goes past. -/
theorem findService_ends {faults : CipherFaults} {failed : Prop}
    {sought : Nat → Except DuckpassError SecureString} {name : SecureString}
    (seeks : ∀ index, Ends (· = name) (CryptoFault failed) (sought index))
    (reveals : Forall₂ (ProtectedEntry.Shows primitives sessionKey) stored
      plain) (index : Nat) :
    Ends (· = (plain.findIdx? fun other => other.service = name).map
        (index + ·))
      (CryptoFault (¬ faults.Flawless ∨ failed))
      (findService primitives sessionKey faults sought index stored) := by
  induction reveals generalizing index with
  | nil => exact .returned rfl
  | @cons entry shown entries rest entryShows _ inductionHypothesis =>
      unfold findService
      have opens := ProtectedString.unprotect_ends entryShows.service
        (faults.at index)
      revert opens
      generalize entry.service.unprotect primitives sessionKey
        (faults.at index) = opened
      rintro (⟨rfl⟩ | ⟨cause⟩)
      · have seek := seeks index
        revert seek
        generalize sought index = named
        rintro (⟨rfl⟩ | ⟨cause⟩)
        · dsimp only
          rw [List.findIdx?_cons]
          split
          · next same =>
              rw [if_pos (by simpa using same)]
              exact .returned rfl
          · next other =>
              rw [if_neg (by simpa using other)]
              refine (inductionHypothesis (index + 1)).weaken ?_
                fun _ fault => fault
              rintro _ rfl
              rw [Option.map_map]
              refine congrArg (Option.map · _) (funext fun later => ?_)
              exact (Nat.add_right_comm index 1 later)
        · exact .threw (cause.mono .inr _)
      · exact .threw (cause.mono (fun flawed => .inl fun flawless =>
          flawed (flawless.at index)) _)

/-- What is stored at an index shows what is there in the plain vault. -/
theorem getElem?_shows
    (reveals : Forall₂ (ProtectedEntry.Shows primitives sessionKey) stored
      plain) (index : Nat) :
    Option.Rel (ProtectedEntry.Shows primitives sessionKey) stored[index]?
      plain[index]? := by
  induction reveals generalizing index with
  | nil => exact .none
  | cons entryShows _ inductionHypothesis =>
      cases index with
      | zero => exact .some entryShows
      | succ index => exact inductionHypothesis index

/-- Replacing the entry at an index replaces what is shown there. -/
theorem set_shows {entry : ProtectedEntry} {shown : VaultEntry}
    (entryShows : entry.Shows primitives sessionKey shown)
    (reveals : Forall₂ (ProtectedEntry.Shows primitives sessionKey) stored
      plain) (index : Nat) :
    Forall₂ (ProtectedEntry.Shows primitives sessionKey)
      (stored.set index entry) (plain.set index shown) := by
  induction reveals generalizing index with
  | nil => exact .nil
  | cons first rest inductionHypothesis =>
      cases index with
      | zero => exact .cons entryShows rest
      | succ index => exact .cons first (inductionHypothesis index)

/-- `get_entry` finds what shows the entry of the plain vault. -/
theorem getEntry_ends (reveals : Reveals primitives sessionKey stored vault)
    (faults : CipherFaults) (service : SecureString) :
    Ends (Option.Rel (ProtectedEntry.Shows primitives sessionKey) ·
        (vault.getEntry service))
      (CryptoFault (¬ faults.Flawless))
      (stored.getEntry primitives sessionKey faults service) := by
  have found := @findService_ends primitives sessionKey stored vault.entries
    faults False (fun _ => .ok service) service (fun _ => .returned rfl)
    reveals 0
  rw [Vault.getEntry_eq_getElem?]
  unfold getEntry
  revert found
  generalize findService primitives sessionKey faults (fun _ => .ok service) 0
    stored = sought
  rintro (⟨rfl⟩ | ⟨cause⟩)
  · cases vault.entries.findIdx? fun other => other.service = service with
    | none => exact .returned .none
    | some index =>
        refine .returned ?_
        simpa using getElem?_shows reveals index
  · exact .threw (cause.mono (fun flawed => flawed.resolve_right id) _)

/-- `add_entry` stores what shows the plain vault with the entry. -/
theorem addEntry_ends (reveals : Reveals primitives sessionKey stored vault)
    {entry : ProtectedEntry} {shown : VaultEntry}
    (entryShows : entry.Shows primitives sessionKey shown)
    (faults own : CipherFaults) (clock : Clock) :
    Ends (Reveals primitives sessionKey · (vault.addEntry shown clock).1)
      (CryptoFault (¬ (faults.Flawless ∧ own.Flawless)))
      (stored.addEntry primitives sessionKey faults own entry clock) := by
  obtain ⟨stamped, stampedShown, stampedEq, stampedShows, vaultEq⟩ :
      ∃ stamped stampedShown,
        (if entry.lastUpdated = 0 then { entry with lastUpdated := clock.time }
          else entry) = stamped ∧
        stamped.Shows primitives sessionKey stampedShown ∧
        (vault.addEntry shown clock).1 = vault.store stampedShown := by
    unfold Vault.addEntry
    rw [entryShows.lastUpdated]
    split
    · exact ⟨_, { shown with lastUpdated := clock.time }, rfl,
        ⟨entryShows.service, entryShows.username, entryShows.password,
          entryShows.totpSecret, rfl⟩, rfl⟩
    · exact ⟨_, shown, rfl, entryShows, rfl⟩
  rw [vaultEq]
  unfold addEntry
  rw [stampedEq]
  have seeks (index : Nat) : Ends (· = stampedShown.service)
      (CryptoFault (¬ own.Flawless))
      (stamped.service.unprotect primitives sessionKey (own.at index)) :=
    (ProtectedString.unprotect_ends stampedShows.service _).weaken
      (fun _ same => same)
      (CryptoFault.mono fun flawed flawless => flawed (flawless.at index))
  have found := @findService_ends primitives sessionKey stored vault.entries
    faults _ _ _ seeks reveals 0
  have storeEq : (vault.store stampedShown).entries =
    KeyedList.upsert VaultEntry.service stampedShown vault.entries := rfl
  unfold Reveals
  rw [storeEq]
  unfold KeyedList.upsert
  dsimp only
  revert found
  generalize findService primitives sessionKey faults _ 0 stored = sought
  rintro (⟨rfl⟩ | ⟨cause⟩)
  · cases vault.entries.findIdx? fun other =>
        other.service = stampedShown.service with
    | none =>
        exact .returned (List.rel_append reveals (.cons stampedShows .nil))
    | some index =>
        refine .returned ?_
        simpa using set_shows stampedShows reveals index
  · refine .threw (cause.mono (fun flawed flawless => ?_) _)
    rcases flawed with flawed | flawed
    · exact flawed flawless.1
    · exact flawed flawless.2

/-- The loop of `remove_if` without faults, by induction on what it has not
seen. -/
theorem shift_flawless {faults : CipherFaults} {service : SecureString}
    (flawless : faults.Flawless)
    (reveals : Forall₂ (ProtectedEntry.Shows primitives sessionKey) stored
      plain) (index : Nat) (slots : List ProtectedEntry) :
    ∃ kept, shift primitives sessionKey faults service index slots stored =
        (kept, .ok true) ∧
      Forall₂ (ProtectedEntry.Shows primitives sessionKey) kept
        (KeyedList.eraseKey VaultEntry.service service plain) := by
  induction reveals generalizing index slots with
  | nil => exact ⟨[], rfl, .nil⟩
  | @cons entry shown entries rest entryShows _ inductionHypothesis =>
      unfold shift
      rw [flawless.at, show entry.service.unprotect primitives sessionKey none =
        .ok shown.service from entryShows.service]
      dsimp only
      split
      · next same =>
          obtain ⟨kept, shifted, keptShows⟩ :=
            inductionHypothesis (index + 1) (slots ++ [entry])
          refine ⟨kept, shifted, ?_⟩
          rwa [KeyedList.eraseKey,
            List.filter_cons_of_neg (by simpa using same)]
      · next other =>
          obtain ⟨kept, shifted, keptShows⟩ :=
            inductionHypothesis (index + 1) (slots.tail ++ [entry.movedFrom])
          refine ⟨entry :: kept, by rw [shifted], ?_⟩
          rw [KeyedList.eraseKey,
            List.filter_cons_of_pos (by simpa using other)]
          exact .cons entryShows keptShows

/-- So `remove_entry` keeps what shows the other entries. -/
theorem removeEntry_flawless {faults : CipherFaults} {service : SecureString}
    (flawless : faults.Flawless)
    (reveals : Forall₂ (ProtectedEntry.Shows primitives sessionKey) stored
      plain) (index : Nat) :
    ∃ kept, removeEntry primitives sessionKey faults service index stored =
        (kept, .ok (decide ((KeyedList.eraseKey VaultEntry.service service
          plain).length < plain.length))) ∧
      Forall₂ (ProtectedEntry.Shows primitives sessionKey) kept
        (KeyedList.eraseKey VaultEntry.service service plain) := by
  induction reveals generalizing index with
  | nil => exact ⟨[], rfl, .nil⟩
  | @cons entry shown entries rest entryShows reveals inductionHypothesis =>
      unfold removeEntry
      rw [flawless.at, show entry.service.unprotect primitives sessionKey none =
        .ok shown.service from entryShows.service]
      dsimp only
      split
      · next same =>
          obtain ⟨kept, shifted, keptShows⟩ :=
            @shift_flawless _ _ _ _ _ service flawless reveals (index + 1)
              [entry]
          have erased : KeyedList.eraseKey VaultEntry.service service
              (shown :: rest) =
                KeyedList.eraseKey VaultEntry.service service rest :=
            List.filter_cons_of_neg (by simpa using same)
          have shorter : (KeyedList.eraseKey VaultEntry.service service
              rest).length < (shown :: rest).length :=
            Nat.lt_succ_of_le (List.length_filter_le _ rest)
          refine ⟨kept, ?_, ?_⟩
          · rw [shifted, erased, decide_eq_true shorter]
          · rwa [erased]
      · next other =>
          obtain ⟨kept, removed, keptShows⟩ := inductionHypothesis (index + 1)
          refine ⟨entry :: kept, ?_, ?_⟩
          · rw [removed, KeyedList.eraseKey, KeyedList.eraseKey,
              List.filter_cons_of_pos (by simpa using other)]
            simp
          · rw [KeyedList.eraseKey,
              List.filter_cons_of_pos (by simpa using other)]
            exact .cons entryShows keptShows

/-- All entries in plain text, as `list_entries` and `serialize` make them. -/
theorem unprotectAll_ends
    (reveals : Forall₂ (ProtectedEntry.Shows primitives sessionKey) stored
      plain) (opens : List EntryFaults) (index : Nat) :
    Ends (· = plain) (CryptoFault (∃ faults ∈ opens, faults ≠ .none))
      (stored.unprotectAll primitives sessionKey opens index) := by
  have fails {index : Nat} (flawed : opens.getD index .none ≠ .none) :
      ∃ faults ∈ opens, faults ≠ .none := by
    rw [List.getD_eq_getElem?_getD] at flawed
    cases found : opens[index]? with
    | none =>
        rw [found] at flawed
        exact absurd rfl flawed
    | some faults =>
        rw [found] at flawed
        exact ⟨faults, List.mem_of_getElem? found, flawed⟩
  induction reveals generalizing index with
  | nil => exact .returned rfl
  | cons entryShows _ inductionHypothesis =>
      unfold unprotectAll
      refine (ProtectedEntry.unprotect_ends entryShows _).bind
        (CryptoFault.mono fails) ?_
      rintro first rfl
      refine (inductionHypothesis (index + 1)).bind (fun _ fault => fault) ?_
      rintro rest rfl
      exact .pure rfl

end ProtectedVault

/-! ## Calls -/

/-- No library call of the call fails. -/
def ProtectedCall.Flawless : ProtectedCall → Prop
  | add entry ciphers faults own _ =>
      ciphers.Flawless entry ∧ faults.Flawless ∧ own.Flawless
  | update _ newUsername newPassword newTotpSecret ciphers sought faults own
      _ =>
      (∀ given ∈ newUsername, ciphers.username.Flawless given) ∧
        (∀ given ∈ newPassword, ciphers.password.Flawless given) ∧
        (∀ given ∈ newTotpSecret, ciphers.totpSecret.Flawless given) ∧
        sought.Flawless ∧ faults.Flawless ∧ own.Flawless
  | remove _ faults => faults.Flawless
  | get _ faults opens => faults.Flawless ∧ opens = .none
  | all opens => ∀ faults ∈ opens, faults = .none

/-- No decryption fails in a `remove_entry`. -/
def ProtectedCall.RemovesWhole : ProtectedCall → Prop
  | remove _ faults => faults.Flawless
  | _ => True

instance : (call : ProtectedCall) → Decidable call.RemovesWhole
  | .remove _ faults => inferInstanceAs (Decidable faults.Flawless)
  | .add _ _ _ _ _ | .update _ _ _ _ _ _ _ _ _ | .get _ _ _ | .all _ =>
      .isTrue trivial

/-- A call answers as on plain strings, or something fails in it and it throws
and leaves the vault as it was. -/
inductive PlainStep (vault : Vault) : ProtectedCall × VaultAnswer → Vault → Prop
    where
  | answered (call : ProtectedCall) :
      PlainStep vault (call, (vault.answer call).2) (vault.answer call).1
  | threw {call : ProtectedCall} {message : String} (flawed : ¬ call.Flawless) :
      PlainStep vault (call, .threw (.crypto message)) vault

namespace ProtectedVault

variable {stored next : ProtectedVault} {vault : Vault} {call : ProtectedCall}
  {answered : VaultAnswer}

/-- A call that throws leaves the vault as it was. -/
theorem orThrow_refines {attempt : Except DuckpassError
      (ProtectedVault × VaultAnswer)}
    (reveals : Reveals primitives sessionKey stored vault)
    (ends : Ends (fun result =>
        Reveals primitives sessionKey result.1 (vault.answer call).1 ∧
          result.2 = (vault.answer call).2)
      (CryptoFault (¬ call.Flawless)) attempt) :
    ∃ after, PlainStep vault (call, (stored.orThrow attempt).2) after ∧
      Reveals primitives sessionKey (stored.orThrow attempt).1 after := by
  rcases ends with ⟨shown, same⟩ | ⟨flawed, message, rfl⟩
  · exact ⟨_, same ▸ .answered call, shown⟩
  · exact ⟨vault, .threw flawed, reveals⟩

/-- What `update` leaves on plain strings. -/
theorem answer_update (vault : Vault) {service : SecureString}
    {existing : VaultEntry} (found : vault.getEntry service = some existing)
    (newUsername newPassword newTotpSecret : Option SecureString)
    (ciphers : EntryCiphers) (sought faults own : CipherFaults)
    (clock : Clock) :
    vault.answer (.update service newUsername newPassword newTotpSecret ciphers
        sought faults own clock) =
      ((vault.addEntry ⟨existing.service, newUsername.getD existing.username,
        newPassword.getD existing.password,
        newTotpSecret.getD existing.totpSecret, clock.time⟩ clock.tick).1,
        .done) := by
  rw [Vault.answer, found]

/-- Every call of the vault is one of the plain vault. -/
theorem answer_refines (roundTrips : primitives.RoundTrips)
    (reveals : Reveals primitives sessionKey stored vault)
    (call : ProtectedCall) (whole : call.RemovesWhole) :
    ∃ after, PlainStep vault
        (call, (stored.answer primitives sessionKey call).2) after ∧
      Reveals primitives sessionKey
        (stored.answer primitives sessionKey call).1 after := by
  cases call with
  | add entry ciphers faults own clock =>
      refine orThrow_refines reveals ?_
      refine (ProtectedEntry.protect_ends roundTrips ciphers entry).bind
        (CryptoFault.mono fun flawed flawless => flawed flawless.1)
        fun guarded entryShows => ?_
      refine (addEntry_ends reveals entryShows faults own clock).bind
        (CryptoFault.mono fun flawed flawless => flawed flawless.2)
        fun next shown => ?_
      exact .pure ⟨shown, rfl⟩
  | update service newUsername newPassword newTotpSecret ciphers sought faults
      own clock =>
      refine orThrow_refines reveals ?_
      refine (getEntry_ends reveals sought service).bind
        (CryptoFault.mono fun flawed flawless => flawed flawless.2.2.2.1)
        fun found sameFound => ?_
      cases plainFound : vault.getEntry service with
      | none =>
          rw [plainFound] at sameFound
          cases sameFound
          refine .pure ?_
          rw [Vault.answer, plainFound]
          exact ⟨reveals, rfl⟩
      | some existing =>
          rw [plainFound] at sameFound
          cases sameFound with
          | @some guarded _ entryShows =>
              rw [answer_update vault plainFound]
              refine (ProtectedString.replaced_ends roundTrips ciphers.username
                newUsername entryShows.username).bind (CryptoFault.mono ?_)
                fun username usernameShows => ?_
              · rintro ⟨given, member, flawed⟩ flawless
                exact flawed (flawless.1 given member)
              refine (ProtectedString.replaced_ends roundTrips ciphers.password
                newPassword entryShows.password).bind (CryptoFault.mono ?_)
                fun password passwordShows => ?_
              · rintro ⟨given, member, flawed⟩ flawless
                exact flawed (flawless.2.1 given member)
              refine (ProtectedString.replaced_ends roundTrips
                ciphers.totpSecret newTotpSecret entryShows.totpSecret).bind
                (CryptoFault.mono ?_) fun totpSecret totpSecretShows => ?_
              · rintro ⟨given, member, flawed⟩ flawless
                exact flawed (flawless.2.2.1 given member)
              have updated : ProtectedEntry.Shows primitives sessionKey
                  ⟨guarded.service, username, password, totpSecret,
                    clock.time⟩
                  ⟨existing.service, newUsername.getD existing.username,
                    newPassword.getD existing.password,
                    newTotpSecret.getD existing.totpSecret, clock.time⟩ :=
                ⟨entryShows.service, usernameShows, passwordShows,
                  totpSecretShows, rfl⟩
              refine (addEntry_ends reveals updated faults own clock.tick).bind
                (CryptoFault.mono fun flawed flawless =>
                  flawed flawless.2.2.2.2)
                fun next shown => ?_
              exact .pure ⟨shown, rfl⟩
  | remove service faults =>
      obtain ⟨kept, removed, keptShows⟩ :=
        @removeEntry_flawless _ _ _ _ _ service whole reveals 0
      refine ⟨(vault.removeEntry service).1, ?_, ?_⟩
      · simp only [answer, removed]
        exact .answered (.remove service faults)
      · simp only [answer, removed]
        exact keptShows
  | get service faults opens =>
      refine orThrow_refines reveals ?_
      refine (getEntry_ends reveals faults service).bind
        (CryptoFault.mono fun flawed flawless => flawed flawless.1)
        fun found sameFound => ?_
      rw [Vault.answer]
      revert sameFound
      generalize vault.getEntry service = plainFound
      rintro (entryShows | _)
      · refine (ProtectedEntry.unprotect_ends entryShows opens).bind
          (CryptoFault.mono fun flawed flawless => flawed flawless.2) ?_
        rintro entry rfl
        exact .pure ⟨reveals, rfl⟩
      · exact .pure ⟨reveals, rfl⟩
  | all opens =>
      refine orThrow_refines reveals ?_
      refine (unprotectAll_ends reveals opens 0).bind (CryptoFault.mono ?_) ?_
      · rintro ⟨faults, member, flawed⟩ flawless
        exact flawed (flawless faults member)
      · rintro entries rfl
        exact .pure ⟨reveals, rfl⟩

end ProtectedVault

/-- Whatever calls are made on the vault of encrypted strings, with whichever
library calls failing (none of them in a `remove_entry`): it goes through a run
of the vault of plain strings, in which each call answers the same, or, if
something failed in it, throws what OpenSSL reports and changes nothing. -/
theorem protected_vault_refines (roundTrips : primitives.RoundTrips)
    {stored last : ProtectedVault} {vault : Vault} {calls : List ProtectedCall}
    {answers : List VaultAnswer}
    (reveals : ProtectedVault.Reveals primitives sessionKey stored vault)
    (whole : ∀ call ∈ calls, call.RemovesWhole)
    (finished : Run.run (ProtectedVault.step primitives sessionKey) stored
      calls = some (last, answers)) :
    ∃ after, Simulation.Trace PlainStep vault (calls.zip answers) after ∧
      ProtectedVault.Reveals primitives sessionKey last after := by
  refine Simulation.run_zip ?_ reveals
    (Run.along_of_forall whole stored) finished
  intro state next spec call answer revealed admitted stepped
  have refined := ProtectedVault.answer_refines roundTrips revealed call
    admitted
  rw [Option.some.inj stepped] at refined
  exact refined

namespace ProtectedVault

def ciphers : EntryCiphers :=
  ⟨⟨some ⟨List.replicate 12 1, rfl⟩, none⟩,
    ⟨some ⟨List.replicate 12 2, rfl⟩, none⟩,
    ⟨some ⟨List.replicate 12 3, rfl⟩, none⟩,
    ⟨some ⟨List.replicate 12 4, rfl⟩, none⟩⟩

def added (name : UInt8) : ProtectedCall :=
  .add ⟨[name], [1], [2], [], 0⟩ ciphers [] [] (.constant 7)

/-- Two entries are added, OpenSSL fails while the second is looked up, its
password is changed, and the first is removed. -/
def calls : List ProtectedCall :=
  [added 0x61, added 0x62, .get [0x62] [none, some "Failed"] .none,
    .update [0x62] none (some [3]) none ciphers [] [] [] (.constant 8),
    .remove [0x61] [], .all []]

def answers : List VaultAnswer :=
  [.done, .done, .threw (.crypto "Failed"), .done, .removed true,
    .listed [⟨[0x62], [1], [3], [], 8⟩]]

end ProtectedVault

theorem protected_vault_refines_calls :
    ∃ after, Simulation.Trace PlainStep Vault.empty
        (ProtectedVault.calls.zip ProtectedVault.answers) after ∧
      ProtectedVault.Reveals Symbolic.primitives [9]
        (Run.reached (ProtectedVault.step Symbolic.primitives [9]) []
          ProtectedVault.calls) after := by
  have finished := @Run.run_reached _ _ _
    (ProtectedVault.step Symbolic.primitives [9]) [] ProtectedVault.calls
    ProtectedVault.answers (by decide +kernel)
  exact protected_vault_refines Symbolic.ideal.toRoundTrips .nil
    (by decide +kernel) finished

/-! ## Removals that fail -/

/-- What an entry that was moved from shows. -/
def VaultEntry.blank (lastUpdated : UInt64) : VaultEntry :=
  ⟨[], [], [], [], lastUpdated⟩

namespace ProtectedVault

variable {stored after : ProtectedVault} {plain : List VaultEntry}
  {faults : CipherFaults} {service : SecureString} {error : DuckpassError}

/-- An entry that was moved from shows blank fields. -/
theorem movedFrom_shows {entry : ProtectedEntry} {shown : VaultEntry}
    (entryShows : entry.Shows primitives sessionKey shown) :
    entry.movedFrom.Shows primitives sessionKey (.blank shown.lastUpdated) :=
  ⟨ProtectedString.blank_shows, ProtectedString.blank_shows,
    ProtectedString.blank_shows, ProtectedString.blank_shows,
    entryShows.lastUpdated⟩

/-- An exception behind the service leaves a slot: what was in it, or an entry
that was moved from. -/
theorem shift_threw
    (reveals : Forall₂ (ProtectedEntry.Shows primitives sessionKey) stored
      plain) (absent : ∀ entry ∈ plain, entry.service ≠ service)
    (index : Nat) (slot : ProtectedEntry)
    (threw : shift primitives sessionKey faults service index [slot] stored =
      (after, .error error)) :
    (∃ message, error = .crypto message) ∧
      (after = slot :: stored ∨ ∃ middle passed rest,
        plain = middle ++ passed :: rest ∧
        Forall₂ (ProtectedEntry.Shows primitives sessionKey) after
          (middle ++ passed :: .blank passed.lastUpdated :: rest)) := by
  induction reveals generalizing index slot after with
  | nil => cases threw
  | @cons entry shown entries rest entryShows reveals inductionHypothesis =>
      unfold shift at threw
      have opens := ProtectedString.unprotect_ends entryShows.service
        (faults.at index)
      revert opens threw
      generalize entry.service.unprotect primitives sessionKey
        (faults.at index) = opened
      rintro threw (⟨rfl⟩ | ⟨_, message, rfl⟩)
      · have other := absent shown List.mem_cons_self
        simp only [if_neg other] at threw
        obtain ⟨later, result, shifted⟩ : ∃ later result,
            shift primitives sessionKey faults service (index + 1)
              [entry.movedFrom] entries = (later, result) := ⟨_, _, rfl⟩
        simp only [List.tail_cons, List.nil_append, shifted] at threw
        obtain ⟨rfl, rfl⟩ := Prod.mk.inj threw
        obtain ⟨reported, slots⟩ := inductionHypothesis
          (fun entry member => absent entry (List.mem_cons_of_mem _ member))
          (index + 1) entry.movedFrom shifted
        refine ⟨reported, .inr ?_⟩
        rcases slots with rfl | ⟨middle, passed, last, rfl, shows'⟩
        · exact ⟨[], shown, rest, rfl,
            .cons entryShows (.cons (movedFrom_shows entryShows) reveals)⟩
        · exact ⟨shown :: middle, passed, last, rfl, .cons entryShows shows'⟩
      · cases threw
        exact ⟨⟨message, rfl⟩, .inl rfl⟩

/-- A `remove_if` whose predicate throws has moved a part of the entries
forward. -/
theorem removeEntry_threw
    (reveals : Forall₂ (ProtectedEntry.Shows primitives sessionKey) stored
      plain) (distinct : KeyedList.Distinct VaultEntry.service plain)
    (index : Nat)
    (threw : removeEntry primitives sessionKey faults service index stored =
      (after, .error error)) :
    (∃ message, error = .crypto message) ∧
      (after = stored ∨ ∃ before removed middle passed rest,
        plain = before ++ removed :: middle ++ passed :: rest ∧
        removed.service = service ∧
        Forall₂ (ProtectedEntry.Shows primitives sessionKey) after
          (before ++ middle ++ passed :: .blank passed.lastUpdated ::
            rest)) := by
  induction reveals generalizing index after with
  | nil => cases threw
  | @cons entry shown entries rest entryShows reveals inductionHypothesis =>
      obtain ⟨fresh, distinctRest⟩ := List.nodup_cons.mp distinct
      unfold removeEntry at threw
      have opens := ProtectedString.unprotect_ends entryShows.service
        (faults.at index)
      revert opens threw
      generalize entry.service.unprotect primitives sessionKey
        (faults.at index) = opened
      rintro threw (⟨rfl⟩ | ⟨_, message, rfl⟩)
      · dsimp only at threw
        split at threw
        · next same =>
            have absent : ∀ entry ∈ rest, entry.service ≠ service := by
              intro entry member twice
              refine fresh ?_
              rw [same, ← twice]
              exact List.mem_map_of_mem member
            obtain ⟨reported, slots⟩ :=
              shift_threw reveals absent (index + 1) entry threw
            refine ⟨reported, ?_⟩
            rcases slots with kept | ⟨middle, passed, last, rfl, shows'⟩
            · exact .inl kept
            · exact .inr ⟨[], shown, middle, passed, last, rfl, same, shows'⟩
        · obtain ⟨later, result, removed⟩ : ∃ later result,
              removeEntry primitives sessionKey faults service (index + 1)
                entries = (later, result) := ⟨_, _, rfl⟩
          simp only [removed] at threw
          obtain ⟨rfl, rfl⟩ := Prod.mk.inj threw
          obtain ⟨reported, slots⟩ :=
            inductionHypothesis distinctRest (index + 1) removed
          refine ⟨reported, ?_⟩
          rcases slots with
            rfl | ⟨before, hit, middle, passed, last, rfl, same, shows'⟩
          · exact .inl rfl
          · exact .inr ⟨shown :: before, hit, middle, passed, last, rfl, same,
              .cons entryShows shows'⟩
      · cases threw
        exact ⟨⟨message, rfl⟩, .inl rfl⟩

end ProtectedVault

/-- A `remove_entry` that throws leaves the vault as it was; or, when it had
already moved an entry forward, it has removed the service and left a blank
entry with the time of the last entry that it moved. -/
theorem failed_removal_cases {stored after : ProtectedVault} {vault : Vault}
    {faults : CipherFaults} {service : SecureString} {error : DuckpassError}
    (reveals : ProtectedVault.Reveals primitives sessionKey stored vault)
    (threw : stored.answer primitives sessionKey (.remove service faults) =
      (after, .threw error)) :
    (∃ message, error = .crypto message) ∧
      (after = stored ∨ ∃ before removed middle passed rest,
        vault.entries = before ++ removed :: middle ++ passed :: rest ∧
        removed.service = service ∧
        Forall₂ (ProtectedEntry.Shows primitives sessionKey) after
          (before ++ middle ++ passed :: .blank passed.lastUpdated ::
            rest)) := by
  obtain ⟨left, result, removed⟩ : ∃ left result,
      stored.removeEntry primitives sessionKey faults service 0 =
        (left, result) := ⟨_, _, rfl⟩
  simp only [ProtectedVault.answer, removed] at threw
  cases result with
  | ok found => cases threw
  | error thrown =>
      cases threw
      exact ProtectedVault.removeEntry_threw reveals vault.distinct 0 removed

namespace ProtectedVault

/-- Three entries. -/
def three : ProtectedVault :=
  Run.reached (step Symbolic.primitives [9]) []
    [added 0x61, added 0x62, added 0x63]

def threePlain : Vault :=
  ⟨[⟨[0x61], [1], [2], [], 7⟩, ⟨[0x62], [1], [2], [], 7⟩,
    ⟨[0x63], [1], [2], [], 7⟩], by
      unfold KeyedList.Distinct
      decide⟩

theorem three_reveals :
    Reveals Symbolic.primitives [9] three threePlain :=
  .cons ⟨rfl, rfl, rfl, rfl, rfl⟩
    (.cons ⟨rfl, rfl, rfl, rfl, rfl⟩
      (.cons ⟨rfl, rfl, rfl, rfl, rfl⟩ .nil))

/-- The first is to be removed, and the third cannot be decrypted. -/
def halfRemoved : ProtectedVault × VaultAnswer :=
  three.answer Symbolic.primitives [9]
    (.remove [0x61] [none, none, some "Failed"])

end ProtectedVault

/-- The first entry is gone, and the second is there twice, once blank. -/
theorem failed_removal_cases_halfRemoved :
    ProtectedVault.halfRemoved.1 ≠ ProtectedVault.three ∧
      ∃ before removed middle passed rest,
        ProtectedVault.threePlain.entries =
          before ++ removed :: middle ++ passed :: rest ∧
        removed.service = [0x61] ∧
        Forall₂ (ProtectedEntry.Shows Symbolic.primitives [9])
          ProtectedVault.halfRemoved.1
          (before ++ middle ++ passed :: .blank passed.lastUpdated ::
            rest) := by
  have threw : ProtectedVault.halfRemoved =
      (ProtectedVault.halfRemoved.1, .threw (.crypto "Failed")) := by
    decide +kernel
  have changed : ProtectedVault.halfRemoved.1 ≠ ProtectedVault.three := by
    decide +kernel
  exact ⟨changed, (failed_removal_cases ProtectedVault.three_reveals
    threw).2.resolve_left changed⟩

end DuckPass
