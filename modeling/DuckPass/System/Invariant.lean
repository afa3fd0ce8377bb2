/-
Module: DuckPass.System.Invariant
Purpose: The rule for invariants that ask one thing of the vault on disk and
  one thing of every instance, and the simplest such invariants.
Trusted boundary: none beyond the named properties of the primitives.
Main exports: SharedInvariant, Preserves, SharedInvariant.step,
  SharedInvariant.run, run_file_present
-/
import DuckPass.Proofs.Disk
import DuckPass.System.SharedVault

namespace DuckPass

variable {path : Path} {primitives : Primitives}

/-- The vault file can be opened, whatever it opens to has the property
`onDisk`, and every instance has the property `cached`. -/
structure SharedInvariant (primitives : Primitives) (onDisk : Vault → Prop)
    (cached : Session path → Prop) (system : System path) : Prop where
  opens : ∃ password, OpensWith primitives (system.files path) password
  disk : Reads primitives (system.files path) onDisk
  sessions : ∀ id session, system.sessions id = some session → cached session

/-- What an event must respect so that a shared invariant survives it: a fresh
instance, a call up to the lock, a commit that is refused, and a commit that
has merged the vault on disk into the cached one. -/
structure Preserves (onDisk : Vault → Prop) (cached : Session path → Prop)
    (system : System path) (event : Event) : Prop where
  fresh : ∀ after : Session path, onDisk after.service.vault →
    after.service.deletedServices = [] → after.pending = none → cached after
  staged : ∀ (id : Nat) (request : Request) (clock : Clock)
      (session after : Session path), event = .call id request clock →
    cached session → session.pending = none →
    Staging clock session.service request after.service →
    after.pending = some request → cached after
  refused : ∀ (id : Nat) (env : CommitEnv) (clock : Clock)
      (session after : Session path), event = .commit id env clock →
    system.sessions id = some session → cached session →
    after.service = session.service → after.pending = none → cached after
  merged : ∀ (id : Nat) (env : CommitEnv) (clock : Clock)
      (session : Session path) (disk : Vault) (rest : Clock),
    event = .commit id env clock → system.sessions id = some session →
    cached session → onDisk disk →
    let merged := (mergeEntries session.service.deletedServices disk.entries
      session.service.vault rest).1
    (∀ later, onDisk (merged.restamp later).1) ∧
      ∀ after : Session path, after.service.vault = merged →
        after.service.deletedServices ⊆ session.service.deletedServices →
        after.pending = none → cached after

namespace SharedInvariant

variable {onDisk : Vault → Prop} {cached : Session path → Prop}
  {system next : System path}

/-- A step that leaves the file alone only has to keep the sessions. -/
theorem of_sameFile
    (holds : SharedInvariant primitives onDisk cached system)
    (same : next.files path = system.files path)
    (sessions : ∀ id session, next.sessions id = some session →
      cached session) :
    SharedInvariant primitives onDisk cached next where
  opens := same.symm ▸ holds.opens
  disk := same.symm ▸ holds.disk
  sessions := sessions

/-- A file that has just been written. -/
theorem of_encrypted (ideal : primitives.Ideal) {password : SecureString}
    {vault : Vault} {blob : SecureBytes}
    (present : system.files path = some blob)
    (encrypted : SealedBlob primitives password vault blob)
    (restamped : ∀ clock, onDisk (vault.restamp clock).1)
    (sessions : ∀ id session, system.sessions id = some session →
      cached session) :
    SharedInvariant primitives onDisk cached system where
  opens := ⟨password, present ▸ encrypted.opensWith ideal.toRoundTrips⟩
  disk := present ▸ encrypted.reads ideal restamped
  sessions := sessions

/-- The merge of a commit sees a vault with the property of the file. -/
theorem merged_cases
    (holds : SharedInvariant primitives onDisk cached system)
    {self : VaultService} {clock : Clock} {merged : Vault}
    (merges : MergesTo primitives self (system.files path) clock merged) :
    ∃ disk rest, onDisk disk ∧
      merged = (mergeEntries self.deletedServices disk.entries self.vault
        rest).1 := by
  cases merges with
  | missing absent =>
      obtain ⟨_, _, _, _, content, _⟩ := holds.opens
      rw [absent] at content
      cases content
  | @loaded blob disk rest content opened =>
      exact ⟨disk, rest,
        holds.disk blob self.masterPassword clock disk rest content opened,
        rfl⟩

/-- Every step keeps the invariant whose commits do. -/
theorem step (ideal : primitives.Ideal) {event : Event} {reply : Reply}
    (holds : SharedInvariant primitives onDisk cached system)
    (preserves : Preserves onDisk cached system event)
    (stepped : system.step primitives event = some (next, reply)) :
    SharedInvariant primitives onDisk cached next := by
  cases step_cases stepped with
  | notConstructed => exact holds
  | rejected => exact holds
  | constructed _ constructed idle =>
      obtain ⟨blob, rest, content, opened⟩ := constructed.opened
      have good := preserves.fresh _
        (holds.disk blob _ _ _ rest content opened)
        constructed.deletedServices_eq idle
      exact holds.of_sameFile rfl (System.put_some_forall holds.sessions good)
  | called present idle staging waits =>
      have good := preserves.staged _ _ _ _ _ rfl
        (holds.sessions _ _ present) idle staging waits
      exact holds.of_sameFile rfl (System.put_some_forall holds.sessions good)
  | committed present _ effect service_eq idle =>
      have before := holds.sessions _ _ present
      cases effect with
      | refused vaultFile =>
          have good := preserves.refused _ _ _ _ _ rfl present before
            service_eq idle
          exact holds.of_sameFile vaultFile
            (System.put_some_forall holds.sessions good)
      | failed merges vaultFile =>
          obtain ⟨disk, rest, diskGood, rfl⟩ := holds.merged_cases merges
          obtain ⟨_, good⟩ := preserves.merged _ _ _ _ disk rest rfl present
            before diskGood
          refine holds.of_sameFile vaultFile
            (System.put_some_forall holds.sessions (good _ ?_ ?_ idle))
          · rw [service_eq]
          · rw [service_eq]
            exact fun _ member => member
      | returned merges encrypted vaultFile =>
          obtain ⟨disk, rest, diskGood, rfl⟩ := holds.merged_cases merges
          obtain ⟨restamped, good⟩ := preserves.merged _ _ _ _ disk rest rfl
            present before diskGood
          refine .of_encrypted ideal vaultFile encrypted restamped
            (System.put_some_forall holds.sessions (good _ ?_ ?_ idle))
          · rw [service_eq]
          · rw [service_eq]
            exact List.nil_subset _
      | unkept _ _ merges encrypted vaultFile =>
          obtain ⟨disk, rest, diskGood, rfl⟩ := holds.merged_cases merges
          obtain ⟨restamped, good⟩ := preserves.merged _ _ _ _ disk rest rfl
            present before diskGood
          refine .of_encrypted ideal vaultFile encrypted restamped
            (System.put_some_forall holds.sessions (good _ ?_ ?_ idle))
          · rw [service_eq]
          · rw [service_eq]
            exact fun _ member => member
  | destroyed =>
      refine holds.of_sameFile rfl ?_
      intro other session present
      exact holds.sessions other session (System.put_none_sessions present)

/-- The rule over whole runs. -/
theorem run (ideal : primitives.Ideal) {events : List Event}
    {replies : List Reply}
    (holds : SharedInvariant primitives onDisk cached system)
    (preserves : system.Along primitives (Preserves onDisk cached) events)
    (finished : system.run primitives events = some (next, replies)) :
    SharedInvariant primitives onDisk cached next :=
  Run.invariant
    (fun holds preserves stepped => step ideal holds preserves stepped)
    holds preserves finished

end SharedInvariant

/-! ## The vault file exists -/

/-- An instance is only ever constructed from a vault file, and no step removes
the file. -/
theorem run_file_present {files : Files} {events : List Event}
    {system : System path} {replies : List Reply} {id : Nat}
    {session : Session path}
    (finished : (System.initial path files).run primitives events =
      some (system, replies))
    (present : system.sessions id = some session) :
    ∃ blob, system.files path = some blob := by
  suffices everywhere : ∀ id session, system.sessions id = some session →
      ∃ blob, system.files path = some blob from
    everywhere id session present
  refine @Run.invariant_of_step _ _ _ (System.step primitives)
    (fun system => ∀ id session, system.sessions id = some session →
      ∃ blob, system.files path = some blob) ?_ _ _ _ _ ?_ finished
  · intro system next event reply before stepped
    cases step_cases stepped with
    | notConstructed => exact before
    | rejected => exact before
    | constructed _ fresh =>
        obtain ⟨blob, _, content, _⟩ := fresh.opened
        exact fun _ _ _ => ⟨blob, content⟩
    | called present => exact fun _ _ _ => before _ _ present
    | committed present _ effect =>
        obtain ⟨blob, content⟩ := before _ _ present
        rcases effect.file_cases with
          same | ⟨_, written, _, _, _, vaultFile⟩
        · exact fun _ _ _ => ⟨blob, same.trans content⟩
        · exact fun _ _ _ => ⟨written, vaultFile⟩
    | destroyed present => exact fun _ _ _ => before _ _ present
  · intro id session impossible
    cases impossible

end DuckPass
