/-
Module: DuckPass.Proofs.PartialUpdate
Purpose: Exactly when `update_entry` leaves the fields it was not given as they
  are on disk.  It stamps a copy of the cached entry with a fresh time, so that
  stale fields win the merge together with the new ones.
Trusted boundary: none beyond the named properties of the primitives.
Main exports: Request.KeepsRest, UpdateFresh, partial_update_iff_fresh,
  partial_update_reverts_other_field
-/
import DuckPass.System.Invariant
import DuckPass.System.Symbolic

namespace DuckPass

variable {path : Path} {primitives : Primitives}

/-- The fields that an update was not given are as before. -/
def Request.KeepsRest (request : Request) (before : Option Credentials)
    (after : Credentials) : Prop :=
  match request with
  | updateEntry _ newUsername newPassword newTotpSecret =>
      (newUsername = none →
          before.map Credentials.username = some after.username) ∧
        (newPassword = none →
          before.map Credentials.password = some after.password) ∧
        (newTotpSecret = none →
          before.map Credentials.totpSecret = some after.totpSecret)
  | _ => True

theorem Request.keepsRest_self (request : Request)
    (credentials : Credentials) :
    request.KeepsRest (some credentials) credentials := by
  cases request with
  | updateEntry => exact ⟨fun _ => rfl, fun _ => rfl, fun _ => rfl⟩
  | addEntry => trivial
  | deleteEntry => trivial
  | save => trivial
  | rekey => trivial

/-- The condition under which an update does what it was asked for, given the
vault on disk that its commit meets.  If the entry on disk is newer than the
update it already has the values that were given; otherwise the cached entry
agrees with the one on disk in every field that was not given. -/
def UpdateFresh (request : Request) (deletedServices : List SecureString)
    (service : SecureString) (disk : Vault) (cached : VaultEntry) : Prop :=
  (∀ entry, disk.getEntry service = some entry →
      Supersedes deletedServices service cached entry →
      request.Carries entry.credentials) ∧
    ((∀ entry, disk.getEntry service = some entry →
        ¬ Supersedes deletedServices service cached entry) →
      request.KeepsRest (disk.credentials service) cached.credentials)

/-- A vault that holds what the update was given, with every other field as it
was on disk. -/
def PartiallyUpdated (request : Request) (before : Option Credentials)
    (after : Option Credentials) : Prop :=
  ∃ credentials, after = some credentials ∧ request.Carries credentials ∧
    request.KeepsRest before credentials

/-- The merged vault is as the update asked exactly under the condition. -/
theorem MergedEntry.partiallyUpdated_iff
    {deletedServices : List SecureString} {service : SecureString}
    {disk merged : Vault} {cached : VaultEntry} {request : Request}
    (merge : MergedEntry deletedServices service (disk.getEntry service)
      (some cached) (merged.getEntry service))
    (carries : request.Carries cached.credentials) :
    PartiallyUpdated request (disk.credentials service)
        (merged.credentials service) ↔
      UpdateFresh request deletedServices service disk cached := by
  rcases merge.of_cached with
    ⟨entry, onDisk, supersedes, mergedEq⟩ | ⟨notSuperseded, mergedEq⟩
  · have before : disk.credentials service = some entry.credentials := by
      rw [Vault.credentials, onDisk, Option.map_some]
    have after : merged.credentials service = some entry.credentials := by
      rw [Vault.credentials, mergedEq, Option.map_some]
    rw [before, after]
    constructor
    · rintro ⟨_, same, carried, _⟩
      cases same
      refine ⟨?_, fun never => absurd supersedes (never entry onDisk)⟩
      intro other found _
      rw [onDisk] at found
      cases found
      exact carried
    · intro fresh
      exact ⟨_, rfl, fresh.1 entry onDisk supersedes,
        request.keepsRest_self _⟩
  · have after : merged.credentials service = some cached.credentials := by
      rw [Vault.credentials, mergedEq, Option.map_some]
    rw [after]
    constructor
    · rintro ⟨_, same, _, keeps⟩
      cases same
      refine ⟨?_, fun _ => keeps⟩
      intro entry found supersedes
      exact absurd supersedes (notSuperseded entry found)
    · intro fresh
      exact ⟨_, rfl, carries, fresh.2 notSuperseded⟩

/-! ## Main result -/

/-- In every run and for every `update_entry` that returns in it: the vault
file holds the new values and, in the fields that were not given, the values
that were on disk immediately before the commit, if and only if the condition
holds of the vault on disk and the cached entry. -/
theorem partial_update_iff_fresh (ideal : primitives.Ideal) {files : Files}
    {events : List Event} {system next : System path} {replies : List Reply}
    {id : Nat} {session : Session path} {request : Request}
    {service : SecureString}
    {newUsername newPassword newTotpSecret : Option SecureString}
    {env : CommitEnv} {clock : Clock}
    (finished : (System.initial path files).run primitives events =
      some (system, replies))
    (present : system.sessions id = some session)
    (isUpdate : request =
      .updateEntry service newUsername newPassword newTotpSecret)
    (pending : session.pending = some request)
    (returned : system.step primitives (.commit id env clock) =
      some (next, .returned)) :
    ∃ blob disk rest cached,
      system.files path = some blob ∧
      openVaultBlob primitives none blob session.service.masterPassword
        clock = .ok (disk, rest) ∧
      session.service.vault.getEntry service = some cached ∧
      OpensWith primitives (next.files path)
        session.service.masterPassword ∧
      (Reads primitives (next.files path) (fun after =>
          PartiallyUpdated request (disk.credentials service)
            (after.credentials service)) ↔
        UpdateFresh request session.service.deletedServices service disk
          cached) := by
  obtain ⟨blob, content⟩ := run_file_present finished present
  obtain ⟨cached, cachedEq, carries⟩ :=
    (session.staged request pending).written service (by
      rw [isUpdate]
      rfl)
  obtain ⟨_, _, _, _, files, _, found, samePending, merges, encrypted,
    vaultFile, rfl, _⟩ := step_returned returned
  rw [present] at found
  cases found
  rw [pending] at samePending
  cases samePending
  rcases merges.getEntry service with
    ⟨missing, _⟩ | ⟨other, disk, rest, otherContent, opened, merge⟩
  · rw [content] at missing
    cases missing
  · rw [content] at otherContent
    cases otherContent
    refine ⟨blob, disk, rest, cached, content, opened, cachedEq, ?_, ?_⟩
    · rw [System.put_files, vaultFile]
      rw [isUpdate] at encrypted
      exact encrypted.opensWith ideal.toRoundTrips
    · rw [cachedEq] at merge
      rw [System.put_files, vaultFile, encrypted.reads_iff ideal service
        (PartiallyUpdated request (disk.credentials service))]
      exact merge.partiallyUpdated_iff carries

namespace PartialUpdate

open Symbolic (calm masterPassword service)

def passwordUpdate : Request := .updateEntry service none (some [3]) none

/-- A lone instance adds the entry and is called to change its password. -/
def alone : List Event :=
  [.construct 0 masterPassword .none (.constant 5),
    .call 0 (.addEntry service [1] [2] []) (.constant 5),
    .commit 0 calm (.constant 5),
    .call 0 passwordUpdate (.constant 6)]

/-- Two instances know the entry; the first one changes its user name. -/
def history : List Event :=
  [.construct 0 masterPassword .none (.constant 4),
    .call 0 (.addEntry service [1] [2] []) (.constant 5),
    .commit 0 calm (.constant 6),
    .construct 1 masterPassword .none (.constant 7),
    .call 0 (.updateEntry service (some [9]) none none) (.constant 8),
    .commit 0 calm (.constant 9)]

/-- The second one then changes the password. -/
def secondUpdate : List Event :=
  [.call 1 passwordUpdate (.constant 10), .commit 1 calm (.constant 11)]

end PartialUpdate

/-- The theorem at the password update of a lone instance. -/
theorem partial_update_iff_fresh_alone :
    let system := Symbolic.reached Symbolic.onEmptyVault PartialUpdate.alone
    let next := Symbolic.reached system
      [.commit 0 Symbolic.calm (.constant 6)]
    ∃ session, system.sessions 0 = some session ∧
      ∃ blob disk rest cached,
        system.files Symbolic.path = some blob ∧
        openVaultBlob Symbolic.primitives none blob
          session.service.masterPassword (.constant 6) = .ok (disk, rest) ∧
        session.service.vault.getEntry Symbolic.service = some cached ∧
        OpensWith Symbolic.primitives (next.files Symbolic.path)
          session.service.masterPassword ∧
        (Reads Symbolic.primitives (next.files Symbolic.path) (fun after =>
            PartiallyUpdated PartialUpdate.passwordUpdate
              (disk.credentials Symbolic.service)
              (after.credentials Symbolic.service)) ↔
          UpdateFresh PartialUpdate.passwordUpdate
            session.service.deletedServices Symbolic.service disk
            cached) := by
  intro system next
  have pendings : (system.sessions 0).map Session.pending =
      some (some PartialUpdate.passwordUpdate) := by
    decide +kernel
  obtain ⟨session, present, pending⟩ := Option.map_eq_some_iff.mp pendings
  have finished := Symbolic.run_reached Symbolic.onEmptyVault
    PartialUpdate.alone [.constructed, .waiting, .returned, .waiting]
    (by decide +kernel)
  have returned := Symbolic.step_reached system
    (.commit 0 Symbolic.calm (.constant 6)) .returned (by decide +kernel)
  exact ⟨session, present,
    partial_update_iff_fresh Symbolic.ideal finished present rfl pending
      returned⟩

/-- With strictly increasing times, the second instance's update of the
password puts its cached user name back over the one on disk. -/
theorem partial_update_reverts_other_field :
    Symbolic.outcome PartialUpdate.history (.constant 12) =
      some ([.constructed, .waiting, .returned, .constructed, .waiting,
          .returned], some [⟨Symbolic.service, [9], [2], [], 8⟩]) ∧
    Symbolic.outcome (PartialUpdate.history ++ PartialUpdate.secondUpdate)
        (.constant 12) =
      some ([.constructed, .waiting, .returned, .constructed, .waiting,
          .returned, .waiting, .returned],
        some [⟨Symbolic.service, [1], [3], [], 10⟩]) := by
  refine ⟨?_, ?_⟩
  · decide +kernel
  · decide +kernel

end DuckPass
