/-
Module: DuckPass.Proofs.Resurrection
Purpose: When a deleted entry stays out of the vault file.  A deletion is
  remembered only by the instance that made it and only until its commit, so
  that any other cached copy brings the entry back.
Trusted boundary: none beyond the named properties of the primitives.
Main exports: DeleteIsolated, deleted_entry_stays_absent,
  deleted_entry_comes_back
-/
import DuckPass.System.Invariant
import DuckPass.System.Symbolic

namespace DuckPass

variable {path : Path} {primitives : Primitives}

/-- The instance is inside `add_entry` on the service. -/
def Session.Adding (session : Session path) (service : SecureString) : Prop :=
  ∃ username password totpSecret,
    session.pending = some (.addEntry service username password totpSecret)

/-- The instance does not have the service, except for an `add_entry` that has
not been committed. -/
def Session.Lacks (session : Session path) (service : SecureString) : Prop :=
  session.service.vault.getEntry service = none ∨ session.Adding service

/-- No `add_entry` on the service comes to its end: it does not return, and it
does not fail with the entry left in memory. -/
def NoAddEnds (service : SecureString) (system : System path) : Event → Prop
  | .commit id _ _ => ∀ session, system.sessions id = some session →
      ¬ session.Adding service
  | _ => True

/-- The condition under which a deletion is final, in the state that its commit
finds: no other instance has the service cached. -/
def DeleteIsolated (system : System path) (id : Nat)
    (service : SecureString) : Prop :=
  ∀ other session, other ≠ id → system.sessions other = some session →
    session.Lacks service

/-! ## The invariant -/

/-- The service is neither on disk nor cached. -/
abbrev Absent (primitives : Primitives) (service : SecureString) :
    System path → Prop :=
  SharedInvariant primitives (fun disk => disk.getEntry service = none)
    (fun session => session.Lacks service)

theorem Vault.getEntry_restamp_none {vault : Vault} {service : SecureString}
    (absent : vault.getEntry service = none) (clock : Clock) :
    (vault.restamp clock).1.getEntry service = none := by
  rw [← Vault.credentials_eq_none_iff, Vault.credentials_restamp,
    Vault.credentials_eq_none_iff]
  exact absent

/-- Up to the lock, an instance without the service can only begin to add
it. -/
theorem Staging.lacks {clock : Clock} {self after : VaultService}
    {request : Request} {service : SecureString}
    (staging : Staging clock self request after)
    (absent : self.vault.getEntry service = none) :
    after.vault.getEntry service = none ∨
      ∃ username password totpSecret,
        request = .addEntry service username password totpSecret := by
  by_cases target : request.target = some service
  · cases staging with
    | added =>
        cases target
        exact .inr ⟨_, _, _, rfl⟩
    | updated _ _ _ present =>
        cases target
        rw [absent] at present
        cases present
    | deleted present =>
        cases target
        rw [absent] at present
        cases present
    | save => cases target
    | rekey => cases target
  · exact .inl ((staging.frame target).1.trans absent)

theorem preserves_absent {service : SecureString} {system : System path}
    {event : Event} (noAdd : NoAddEnds service system event) :
    Preserves (fun disk => disk.getEntry service = none)
      (fun session => session.Lacks service) system event where
  fresh := by
    intro after absent _ _
    exact .inl absent
  staged := by
    intro id request clock session after _ before idle staging waits
    have absent : session.service.vault.getEntry service = none := by
      rcases before with absent | ⟨_, _, _, adding⟩
      · exact absent
      · rw [idle] at adding
        cases adding
    rcases staging.lacks absent with still | ⟨_, _, _, rfl⟩
    · exact .inl still
    · exact .inr ⟨_, _, _, waits⟩
  refused := by
    rintro id env clock session after rfl present before service_eq _
    left
    rw [service_eq]
    exact before.resolve_right (noAdd session present)
  merged := by
    rintro id env clock session disk rest rfl present before onDisk
    have absent := before.resolve_right (noAdd session present)
    have merge := getEntry_mergeEntries session.service.deletedServices
      service disk.distinct session.service.vault rest
    have diskNone : KeyedList.lookup VaultEntry.service service disk.entries =
        none := onDisk
    rw [diskNone, absent] at merge
    have gone := merge.eq_mine_of_missing
    refine ⟨Vault.getEntry_restamp_none gone, ?_⟩
    intro after vault_eq _ _
    left
    rw [vault_eq]
    exact gone

/-- A deletion that meets the condition establishes the invariant. -/
theorem DeleteIsolated.absent (ideal : primitives.Ideal)
    {system next : System path} {id : Nat} {session : Session path}
    {env : CommitEnv} {clock : Clock} {service : SecureString}
    (isolated : DeleteIsolated system id service)
    (present : system.sessions id = some session)
    (pending : session.pending = some (.deleteEntry service))
    (returned : system.step primitives (.commit id env clock) =
      some (next, .returned)) : Absent primitives service next := by
  obtain ⟨removed, listed⟩ :=
    (session.staged _ pending).deleted service rfl
  obtain ⟨_, _, merged, _, files, after, found, _, merges, encrypted,
    vaultFile, rfl, service_eq⟩ := step_returned returned
  rw [present] at found
  cases found
  have gone : merged.getEntry service = none := by
    rcases merges.getEntry service with ⟨_, same⟩ | ⟨_, _, _, _, _, merge⟩
    · exact same.trans removed
    · exact (merge.eq_mine_of_deleted listed).trans removed
  refine .of_encrypted ideal vaultFile encrypted
    (Vault.getEntry_restamp_none gone) ?_
  intro other otherSession found
  rcases System.put_sessions found with ⟨_, same⟩ | ⟨differs, old⟩
  · cases same
    left
    rw [service_eq]
    exact gone
  · exact isolated other otherSession differs old

/-! ## Main result -/

/-- A `delete_entry` whose commit meets the condition is final: until an
`add_entry` on the service comes to its end, the service is absent from the
vault file, whatever the instances, old and new, save in whatever order. -/
theorem deleted_entry_stays_absent (ideal : primitives.Ideal)
    {system next last : System path} {id : Nat} {session : Session path}
    {env : CommitEnv} {clock : Clock} {service : SecureString}
    {later : List Event} {replies : List Reply}
    (present : system.sessions id = some session)
    (pending : session.pending = some (.deleteEntry service))
    (isolated : DeleteIsolated system id service)
    (returned : system.step primitives (.commit id env clock) =
      some (next, .returned))
    (noAdd : next.Along primitives (NoAddEnds service) later)
    (finished : next.run primitives later = some (last, replies)) :
    (∃ password, OpensWith primitives (last.files path) password) ∧
      Reads primitives (last.files path)
        fun disk => disk.getEntry service = none := by
  have start := isolated.absent ideal present pending returned
  have kept := start.run ideal
    (noAdd.mono fun state event now => preserves_absent now) finished
  exact ⟨kept.opens, kept.disk⟩

namespace Resurrection

open Symbolic (calm masterPassword service entry)

/-- One instance waits for the lock to commit its deletion, another one was
constructed before the entry was added. -/
def lateReader : System Symbolic.path where
  files := Symbolic.files (Vault.empty.store (entry 2 5)) masterPassword
  sessions
    | 0 => some
        { service := ⟨Symbolic.path, masterPassword, Vault.empty, [service]⟩
          pending := some (.deleteEntry service)
          onPath := rfl
          staged := by
            rintro _ ⟨⟩
            refine ⟨by simp [Request.Writes], ?_, by simp⟩
            rintro _ ⟨⟩
            exact ⟨rfl, List.mem_cons_self⟩ }
    | 1 => some
        { service := ⟨Symbolic.path, masterPassword, Vault.empty, []⟩
          pending := none
          onPath := rfl
          staged := by simp }
    | _ => none

theorem isolated : DeleteIsolated lateReader 0 service := by
  intro other session differs present
  match other with
  | 0 => exact absurd rfl differs
  | 1 =>
      cases present
      exact .inl rfl
  | _ + 2 => cases present

/-- The file after the deletion, and the other instance about to save. -/
def deleted : System Symbolic.path :=
  Symbolic.reached lateReader [.commit 0 calm (.constant 6)]

/-- A save is no `add_entry`. -/
theorem noAddEnds : deleted.Along Symbolic.primitives (NoAddEnds service)
    (Symbolic.save 1 7) := by
  refine Run.along_cons trivial
    (Symbolic.step_reached _ _ .waiting (by decide +kernel)) ?_
  refine Run.along_cons ?_
    (Symbolic.step_reached _ _ .returned (by decide +kernel)) trivial
  intro session present adding
  have saves : ((Symbolic.reached deleted
      [.call 1 .save (.constant 7)]).sessions 1).map Session.pending =
        some (some .save) := by
    decide +kernel
  obtain ⟨_, _, _, pending⟩ := adding
  rw [present, Option.map_some, pending] at saves
  cases saves

/-- The history of a resurrection: both instances know the entry, and the first
one deletes it. -/
def history : List Event :=
  [.construct 0 masterPassword .none (.constant 5),
    .call 0 (.addEntry service [1] [2] []) (.constant 5),
    .commit 0 calm (.constant 5),
    .construct 1 masterPassword .none (.constant 6),
    .call 0 (.deleteEntry service) (.constant 7),
    .commit 0 calm (.constant 7)]

end Resurrection

/-- A deletion that no other cache knows survives the save of another
instance. -/
theorem deleted_entry_stays_absent_late_reader :
    let last := Symbolic.reached Resurrection.deleted (Symbolic.save 1 7)
    (∃ password, OpensWith Symbolic.primitives (last.files Symbolic.path)
        password) ∧
      Reads Symbolic.primitives (last.files Symbolic.path)
        fun disk => disk.getEntry Symbolic.service = none :=
  deleted_entry_stays_absent Symbolic.ideal rfl rfl Resurrection.isolated
    (Symbolic.step_reached _ _ _ (by decide +kernel)) Resurrection.noAddEnds
    (Symbolic.run_reached _ _ [.waiting, .returned]
      (by decide +kernel))

/-- Deletions are not remembered across instances: the deletion has returned
and the file is empty, and a mere `save` of another instance puts its cached
entry back. -/
theorem deleted_entry_comes_back :
    Symbolic.outcome Resurrection.history (.constant 7) =
      some ([.constructed, .waiting, .returned, .constructed, .waiting,
          .returned], some []) ∧
    Symbolic.outcome (Resurrection.history ++ Symbolic.save 1 8)
        (.constant 8) =
      some ([.constructed, .waiting, .returned, .constructed, .waiting,
          .returned, .waiting, .returned], some [Symbolic.entry 2 5]) := by
  refine ⟨?_, ?_⟩
  · decide +kernel
  · decide +kernel

end DuckPass
