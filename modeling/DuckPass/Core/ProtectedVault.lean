/-
Module: DuckPass.Core.ProtectedVault
Purpose: `ProtectedString` as it is kept in memory, under the session key, and
  the entry operations of `vault.cpp` on entries made of them.
Trusted boundary: OpenSSL as for `DuckPass.Core.Crypto`; one session key for
  the life of the process; a vector that was moved from is empty; allocations
  succeed, those by `OPENSSL_secure_malloc` too.
Main exports: ProtectedString, ProtectedEntry, ProtectedVault, ProtectedCall,
  VaultAnswer, ProtectedVault.step, Vault.answer
-/
import DuckPass.Core.Crypto
import DuckPass.Core.Vault

namespace DuckPass

/-- The two vectors of a `ProtectedString`. -/
structure ProtectedString where
  iv : SecureBytes
  ciphertext : SecureBytes
deriving Repr, Inhabited, DecidableEq

/-- How the library calls of one constructor go. -/
structure ProtectCalls where
  random : Option (Bytes ivBytes)
  fault : Option String

namespace ProtectedString

/-- A default-constructed one, or one that was moved from. -/
def blank : ProtectedString := ⟨[], []⟩

section Key

variable (primitives : Primitives) (sessionKey : SecureBytes)

/-- The constructors from a plaintext. -/
def protect (calls : ProtectCalls) (plaintext : SecureString) :
    Except DuckpassError ProtectedString :=
  if plaintext.isEmpty then .ok blank
  else
    match generateRandomBytes calls.random with
    | .error error => .error error
    | .ok iv =>
        match encryptData primitives calls.fault plaintext sessionKey iv.val []
          with
        | .error error => .error error
        | .ok ciphertext => .ok ⟨iv.val, ciphertext⟩

/-- `unprotect`. -/
def unprotect (fault : Option String) (self : ProtectedString) :
    Except DuckpassError SecureString :=
  if self.ciphertext.isEmpty then .ok []
  else decryptData primitives fault self.ciphertext sessionKey self.iv []

end Key

end ProtectedString

/-- `VaultEntry` with its strings as they are in memory. -/
structure ProtectedEntry where
  service : ProtectedString
  username : ProtectedString
  password : ProtectedString
  totpSecret : ProtectedString
  lastUpdated : UInt64
deriving Repr, Inhabited, DecidableEq

/-- An entry that was moved from keeps its time. -/
def ProtectedEntry.movedFrom (entry : ProtectedEntry) : ProtectedEntry :=
  ⟨.blank, .blank, .blank, .blank, entry.lastUpdated⟩

/-- The messages with which the decryptions of a loop fail, by the index of the
entry; beyond the list none fails. -/
abbrev CipherFaults := List (Option String)

def CipherFaults.at (faults : CipherFaults) (index : Nat) : Option String :=
  faults.getD index none

/-- How the library calls go for the four strings of an entry. -/
structure EntryCiphers where
  service : ProtectCalls
  username : ProtectCalls
  password : ProtectCalls
  totpSecret : ProtectCalls

/-- The entry container with its strings as they are in memory. -/
abbrev ProtectedVault := List ProtectedEntry

namespace ProtectedVault

section Key

variable (primitives : Primitives) (sessionKey : SecureBytes)

/-- `find_if` with a predicate that compares the service with the one sought,
which may have to be decrypted each time. -/
def findService (faults : CipherFaults)
    (sought : (index : Nat) → Except DuckpassError SecureString) :
    (index : Nat) → ProtectedVault → Except DuckpassError (Option Nat)
  | _, [] => .ok none
  | index, entry :: entries =>
      match entry.service.unprotect primitives sessionKey (faults.at index) with
      | .error error => .error error
      | .ok service =>
          match sought index with
          | .error error => .error error
          | .ok name =>
              if service = name then .ok (some index)
              else findService faults sought (index + 1) entries

/-- `Vault::get_entry`. -/
def getEntry (vault : ProtectedVault) (faults : CipherFaults)
    (service : SecureString) : Except DuckpassError (Option ProtectedEntry) :=
  match findService primitives sessionKey faults (fun _ => .ok service) 0
      vault with
  | .error error => .error error
  | .ok none => .ok none
  | .ok (some index) => .ok vault[index]?

/-- `Vault::add_entry`.  The predicate decrypts both services. -/
def addEntry (vault : ProtectedVault) (faults own : CipherFaults)
    (entry : ProtectedEntry) (clock : Clock) :
    Except DuckpassError ProtectedVault :=
  let entry :=
    if entry.lastUpdated = 0 then { entry with lastUpdated := clock.time }
    else entry
  match findService primitives sessionKey faults
      (fun index => entry.service.unprotect primitives sessionKey
        (own.at index)) 0 vault with
  | .error error => .error error
  | .ok none => .ok (vault ++ [entry])
  | .ok (some index) => .ok (vault.set index entry)

/-- `remove_if` once it has found something: entries that stay are moved into
the first of the slots that are free, and an exception leaves the slots as
they are. -/
def shift (faults : CipherFaults) (service : SecureString) :
    (index : Nat) → (slots : List ProtectedEntry) → ProtectedVault →
      ProtectedVault × Except DuckpassError Bool
  | _, _, [] => ([], .ok true)
  | index, slots, entry :: entries =>
      match entry.service.unprotect primitives sessionKey (faults.at index) with
      | .error error => (slots ++ entry :: entries, .error error)
      | .ok name =>
          if name = service then
            shift faults service (index + 1) (slots ++ [entry]) entries
          else
            let (rest, result) := shift faults service (index + 1)
              (slots.tail ++ [entry.movedFrom]) entries
            (entry :: rest, result)

/-- `Vault::remove_entry`. -/
def removeEntry (faults : CipherFaults) (service : SecureString) :
    (index : Nat) → ProtectedVault →
      ProtectedVault × Except DuckpassError Bool
  | _, [] => ([], .ok false)
  | index, entry :: entries =>
      match entry.service.unprotect primitives sessionKey (faults.at index) with
      | .error error => (entry :: entries, .error error)
      | .ok name =>
          if name = service then
            shift primitives sessionKey faults service (index + 1) [entry]
              entries
          else
            let (rest, result) := removeEntry faults service (index + 1) entries
            (entry :: rest, result)

end Key

end ProtectedVault

/-! ## Calls on a vault -/

/-- The messages with which the decryptions of the strings of one entry
fail. -/
structure EntryFaults where
  service : Option String
  username : Option String
  password : Option String
  totpSecret : Option String

def EntryFaults.none : EntryFaults := ⟨.none, .none, .none, .none⟩

/-- A call with what its library calls meet.  `update` is what
`VaultService::update_entry` does to the vault, `all` the loop of
`Vault::serialize`. -/
inductive ProtectedCall where
  | add (entry : VaultEntry) (ciphers : EntryCiphers)
      (faults own : CipherFaults) (clock : Clock)
  | update (service : SecureString)
      (newUsername newPassword newTotpSecret : Option SecureString)
      (ciphers : EntryCiphers) (sought faults own : CipherFaults)
      (clock : Clock)
  | remove (service : SecureString) (faults : CipherFaults)
  | get (service : SecureString) (faults : CipherFaults) (opens : EntryFaults)
  | all (opens : List EntryFaults)

inductive VaultAnswer where
  | done
  | missing
  | removed (found : Bool)
  | found (entry : Option VaultEntry)
  | listed (entries : List VaultEntry)
  | threw (error : DuckpassError)
deriving Repr, DecidableEq

section Key

variable (primitives : Primitives) (sessionKey : SecureBytes)

/-- The four constructors of an entry, in their order. -/
def ProtectedEntry.protect (ciphers : EntryCiphers) (entry : VaultEntry) :
    Except DuckpassError ProtectedEntry := do
  let service ← ProtectedString.protect primitives sessionKey ciphers.service
    entry.service
  let username ← ProtectedString.protect primitives sessionKey ciphers.username
    entry.username
  let password ← ProtectedString.protect primitives sessionKey ciphers.password
    entry.password
  let totpSecret ← ProtectedString.protect primitives sessionKey
    ciphers.totpSecret entry.totpSecret
  return ⟨service, username, password, totpSecret, entry.lastUpdated⟩

/-- The four strings of an entry, in their order. -/
def ProtectedEntry.unprotect (faults : EntryFaults) (entry : ProtectedEntry) :
    Except DuckpassError VaultEntry := do
  let service ← entry.service.unprotect primitives sessionKey faults.service
  let username ← entry.username.unprotect primitives sessionKey faults.username
  let password ← entry.password.unprotect primitives sessionKey faults.password
  let totpSecret ← entry.totpSecret.unprotect primitives sessionKey
    faults.totpSecret
  return ⟨service, username, password, totpSecret, entry.lastUpdated⟩

/-- A string that is given anew, or the one that is there. -/
def ProtectedString.replaced (calls : ProtectCalls) (old : ProtectedString) :
    Option SecureString → Except DuckpassError ProtectedString
  | none => .ok old
  | some plaintext => protect primitives sessionKey calls plaintext

namespace ProtectedVault

def unprotectAll (opens : List EntryFaults) :
    (index : Nat) → ProtectedVault → Except DuckpassError (List VaultEntry)
  | _, [] => .ok []
  | index, entry :: entries => do
      let first ← entry.unprotect primitives sessionKey
        (opens.getD index .none)
      let rest ← unprotectAll opens (index + 1) entries
      return first :: rest

/-- What an exception leaves: the vault as it is. -/
def orThrow (vault : ProtectedVault) :
    Except DuckpassError (ProtectedVault × VaultAnswer) →
      ProtectedVault × VaultAnswer
  | .error error => (vault, .threw error)
  | .ok result => result

/-- One call. -/
def answer (vault : ProtectedVault) :
    ProtectedCall → ProtectedVault × VaultAnswer
  | .add entry ciphers faults own clock =>
      vault.orThrow do
        let entry ← ProtectedEntry.protect primitives sessionKey ciphers entry
        let vault ← vault.addEntry primitives sessionKey faults own entry clock
        return (vault, .done)
  | .update service newUsername newPassword newTotpSecret ciphers sought faults
      own clock =>
      vault.orThrow do
        match ← vault.getEntry primitives sessionKey sought service with
        | none => return (vault, .missing)
        | some existing =>
            let username ← ProtectedString.replaced primitives sessionKey
              ciphers.username existing.username newUsername
            let password ← ProtectedString.replaced primitives sessionKey
              ciphers.password existing.password newPassword
            let totpSecret ← ProtectedString.replaced primitives sessionKey
              ciphers.totpSecret existing.totpSecret newTotpSecret
            let vault ← vault.addEntry primitives sessionKey faults own
              ⟨existing.service, username, password, totpSecret, clock.time⟩
              clock.tick
            return (vault, .done)
  | .remove service faults =>
      let (vault, result) :=
        vault.removeEntry primitives sessionKey faults service 0
      match result with
      | .error error => (vault, .threw error)
      | .ok found => (vault, .removed found)
  | .get service faults opens =>
      vault.orThrow do
        match ← vault.getEntry primitives sessionKey faults service with
        | none => return (vault, .found none)
        | some entry =>
            let entry ← entry.unprotect primitives sessionKey opens
            return (vault, .found (some entry))
  | .all opens =>
      vault.orThrow do
        let entries ← vault.unprotectAll primitives sessionKey opens 0
        return (vault, .listed entries)

def step (vault : ProtectedVault) (call : ProtectedCall) :
    Option (ProtectedVault × VaultAnswer) :=
  some (vault.answer primitives sessionKey call)

end ProtectedVault

end Key

/-- The same call on a vault of plain strings, where nothing fails. -/
def Vault.answer (vault : Vault) : ProtectedCall → Vault × VaultAnswer
  | .add entry _ _ _ clock => ((vault.addEntry entry clock).1, .done)
  | .update service newUsername newPassword newTotpSecret _ _ _ _ clock =>
      match vault.getEntry service with
      | none => (vault, .missing)
      | some existing =>
          ((vault.addEntry ⟨existing.service,
            newUsername.getD existing.username,
            newPassword.getD existing.password,
            newTotpSecret.getD existing.totpSecret, clock.time⟩
            clock.tick).1, .done)
  | .remove service _ =>
      ((vault.removeEntry service).1, .removed (vault.removeEntry service).2)
  | .get service _ _ => (vault, .found (vault.getEntry service))
  | .all _ => (vault, .listed vault.entries)

end DuckPass
