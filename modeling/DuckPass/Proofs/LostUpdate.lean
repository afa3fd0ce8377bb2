/-
Module: DuckPass.Proofs.LostUpdate
Purpose: When an entry that one instance has written stays in the vault file
  while other instances write back what they have cached.
Trusted boundary: none beyond the named properties of the primitives.
Main exports: CommitIsolated, written_entry_survives,
  lost_update_in_one_second
-/
import DuckPass.System.Invariant
import DuckPass.System.Symbolic

namespace DuckPass

variable {path : Path}

/-- No instance is called on the service. -/
def NotCalledOn (service : SecureString) : Event → Prop
  | .call _ request _ => request.target ≠ some service
  | _ => True

/-- A copy that cannot displace the credentials `written` at `time`. -/
def Harmless (written : Credentials) (time : UInt64) (copy : VaultEntry) :
    Prop :=
  copy.lastUpdated < time ∨ copy.credentials = written

/-- The instance will neither drop the service nor displace what was
written. -/
def Session.Harmless (session : Session path) (service : SecureString)
    (written : Credentials) (time : UInt64) : Prop :=
  service ∉ session.service.deletedServices ∧
    ∀ copy, session.service.vault.getEntry service = some copy →
      DuckPass.Harmless written time copy

/-- The condition under which a commit is safe, in the state that the commit
finds: the entry it meets on disk is not newer than its own, and no other
instance has deleted the service or holds a different copy that is as new. -/
structure CommitIsolated (primitives : Primitives) (system : System path)
    (id : Nat) (session : Session path) (clock : Clock)
    (service : SecureString) (written : VaultEntry) : Prop where
  disk : ∀ blob disk rest entry, system.files path = some blob →
    openVaultBlob primitives none blob session.service.masterPassword clock =
      .ok (disk, rest) →
    disk.getEntry service = some entry →
    entry.lastUpdated ≤ written.lastUpdated ∨
      entry.credentials = written.credentials
  others : ∀ other otherSession, other ≠ id →
    system.sessions other = some otherSession →
    otherSession.Harmless service written.credentials written.lastUpdated

/-! ## The merge keeps what was written -/

/-- The entry holds what was written and is not older. -/
def Upholds (written : Credentials) (time : UInt64)
    (found : Option VaultEntry) : Prop :=
  ∃ entry, found = some entry ∧ entry.credentials = written ∧
    time ≤ entry.lastUpdated

/-- A harmless copy loses against the disk, or agrees with it. -/
theorem MergedEntry.upholds_disk {deletedServices : List SecureString}
    {service : SecureString} {disk mine merged : Option VaultEntry}
    {written : Credentials} {time : UInt64}
    (merge : MergedEntry deletedServices service disk mine merged)
    (live : service ∉ deletedServices)
    (harmless : ∀ copy, mine = some copy → Harmless written time copy)
    (onDisk : Upholds written time disk) : Upholds written time merged := by
  obtain ⟨entry, diskEq, agrees, fresh⟩ := onDisk
  cases merge with
  | kept skipped =>
      rcases skipped with deleted | missing
      · exact absurd deleted live
      · rw [missing] at diskEq
        cases diskEq
  | taken _ found _ restamps =>
      rw [found] at diskEq
      cases diskEq
      exact ⟨_, rfl, restamps.credentials_eq.trans agrees,
        UInt64.le_trans fresh restamps.lastUpdated_le⟩
  | replaced _ found =>
      rw [found] at diskEq
      cases diskEq
      exact ⟨_, rfl, agrees, fresh⟩
  | retained _ found cached notNewer =>
      rw [found] at diskEq
      cases diskEq
      have newEnough := UInt64.le_trans fresh (UInt64.not_lt.mp notNewer)
      rcases harmless _ cached with older | same
      · exact absurd older (UInt64.not_lt.mpr newEnough)
      · exact ⟨_, rfl, same, newEnough⟩

/-- The writer's own merge keeps its entry unless the disk has a newer one. -/
theorem MergedEntry.upholds_mine {deletedServices : List SecureString}
    {service : SecureString} {disk mine merged : Option VaultEntry}
    {written : VaultEntry}
    (merge : MergedEntry deletedServices service disk mine merged)
    (cached : mine = some written)
    (notNewer : ∀ entry, disk = some entry →
      entry.lastUpdated ≤ written.lastUpdated ∨
        entry.credentials = written.credentials) :
    Upholds written.credentials written.lastUpdated merged := by
  cases merge with
  | kept => exact ⟨written, cached, rfl, UInt64.le_refl _⟩
  | taken _ _ absent =>
      rw [cached] at absent
      cases absent
  | replaced _ found cachedEq newer =>
      rw [cached] at cachedEq
      cases cachedEq
      rcases notNewer _ found with older | same
      · exact absurd newer (UInt64.not_lt.mpr older)
      · exact ⟨_, rfl, same, UInt64.le_of_lt newer⟩
  | retained _ _ cachedEq =>
      rw [cached] at cachedEq
      cases cachedEq
      exact ⟨_, rfl, rfl, UInt64.le_refl _⟩

theorem Upholds.restamp {vault : Vault} {service : SecureString}
    {written : Credentials} {time : UInt64}
    (upholds : Upholds written time (vault.getEntry service))
    (clock : Clock) :
    Upholds written time ((vault.restamp clock).1.getEntry service) := by
  obtain ⟨entry, found, agrees, fresh⟩ := upholds
  rcases vault.restamp_getEntry clock service with
    ⟨before, _⟩ | ⟨other, stored, before, restamps, after⟩
  · rw [found] at before
    cases before
  · rw [found] at before
    cases before
    exact ⟨stored, after, restamps.credentials_eq.trans agrees,
      UInt64.le_trans fresh restamps.lastUpdated_le⟩

/-- Copies that uphold what was written are harmless. -/
theorem Upholds.harmless {written : Credentials} {time : UInt64}
    {found : Option VaultEntry} (upholds : Upholds written time found) :
    ∀ copy, found = some copy → Harmless written time copy := by
  intro copy foundEq
  obtain ⟨entry, entryEq, agrees, _⟩ := upholds
  rw [foundEq] at entryEq
  cases entryEq
  exact .inr agrees

/-! ## The invariant -/

/-- The file holds what was written, and no instance threatens it. -/
abbrev Kept (primitives : Primitives) (service : SecureString)
    (written : Credentials) (time : UInt64) : System path → Prop :=
  SharedInvariant primitives
    (fun disk => Upholds written time (disk.getEntry service))
    (fun session => session.Harmless service written time)

theorem preserves_kept {service : SecureString} {written : Credentials}
    {time : UInt64} (system : System path) {event : Event}
    (untargeted : NotCalledOn service event) :
    Preserves (fun disk => Upholds written time (disk.getEntry service))
      (fun session => session.Harmless service written time) system
      event where
  fresh := by
    intro after upholds nothingDeleted _
    refine ⟨?_, upholds.harmless⟩
    rw [nothingDeleted]
    exact List.not_mem_nil
  staged := by
    rintro id request clock session after rfl ⟨live, harmless⟩ _ staging _
    obtain ⟨entryEq, deletedIff⟩ := staging.frame untargeted
    refine ⟨?_, ?_⟩
    · rw [deletedIff]
      exact live
    · rw [entryEq]
      exact harmless
  refused := by
    intro id env clock session after _ _ before service_eq _
    unfold Session.Harmless
    rw [service_eq]
    exact before
  merged := by
    intro id env clock session disk rest _ _ before upholds
    obtain ⟨live, harmless⟩ := before
    have merge := getEntry_mergeEntries session.service.deletedServices
      service disk.distinct session.service.vault rest
    have kept := merge.upholds_disk live harmless upholds
    refine ⟨kept.restamp, ?_⟩
    intro after vault_eq deletedSubset _
    refine ⟨fun member => live (deletedSubset member), ?_⟩
    rw [vault_eq]
    exact kept.harmless

/-- A commit that meets the condition establishes the invariant. -/
theorem CommitIsolated.kept {primitives : Primitives}
    (ideal : primitives.Ideal) {system next : System path} {id : Nat}
    {session : Session path} {env : CommitEnv} {clock : Clock}
    {service : SecureString} {written : VaultEntry}
    (isolated : CommitIsolated primitives system id session clock service
      written)
    (present : system.sessions id = some session)
    (cached : session.service.vault.getEntry service = some written)
    (returned : system.step primitives (.commit id env clock) =
      some (next, .returned)) :
    Kept primitives service written.credentials written.lastUpdated next := by
  obtain ⟨_, _, merged, _, files, after, found, _, merges, encrypted,
    vaultFile, rfl, service_eq⟩ := step_returned returned
  rw [present] at found
  cases found
  have upholds : Upholds written.credentials written.lastUpdated
      (merged.getEntry service) := by
    rcases merges.getEntry service with
      ⟨_, same⟩ | ⟨blob, disk, rest, content, opened, merge⟩
    · exact ⟨written, same.trans cached, rfl, UInt64.le_refl _⟩
    · exact merge.upholds_mine cached fun entry onDisk =>
        isolated.disk blob disk rest entry content opened onDisk
  refine .of_encrypted ideal vaultFile encrypted upholds.restamp ?_
  intro other otherSession found
  rcases System.put_sessions found with ⟨_, same⟩ | ⟨differs, old⟩
  · cases same
    refine ⟨?_, ?_⟩
    · rw [service_eq]
      exact List.not_mem_nil
    · rw [service_eq]
      exact upholds.harmless
  · exact isolated.others other otherSession differs old

/-! ## Main result -/

/-- An `add_entry` or `update_entry` whose commit meets the condition is never
lost: as long as no instance is called on the service again, the vault file
keeps exactly the credentials that were written, whatever the instances, old
and new, save in whatever order and at whatever times. -/
theorem written_entry_survives {primitives : Primitives}
    (ideal : primitives.Ideal) {system next last : System path} {id : Nat}
    {session : Session path} {request : Request} {env : CommitEnv}
    {clock : Clock} {service : SecureString} {written : VaultEntry}
    {later : List Event} {replies : List Reply}
    (present : system.sessions id = some session)
    (pending : session.pending = some request)
    (writes : request.Writes service)
    (cached : session.service.vault.getEntry service = some written)
    (isolated : CommitIsolated primitives system id session clock service
      written)
    (returned : system.step primitives (.commit id env clock) =
      some (next, .returned))
    (untargeted : ∀ event ∈ later, NotCalledOn service event)
    (finished : next.run primitives later = some (last, replies)) :
    request.Carries written.credentials ∧
      (∃ password, OpensWith primitives (last.files path) password) ∧
      Reads primitives (last.files path)
        fun disk => disk.credentials service = some written.credentials := by
  have start := isolated.kept ideal present cached returned
  have kept := start.run ideal
    ((Run.along_of_forall untargeted next).mono fun state _ now =>
      preserves_kept state now) finished
  refine ⟨?_, kept.opens, ?_⟩
  · obtain ⟨entry, found, carries⟩ :=
      (session.staged request pending).written service writes
    rw [cached] at found
    cases found
    exact carries
  · intro blob password clock disk rest content opened
    obtain ⟨entry, found, agrees, _⟩ :=
      kept.disk blob password clock disk rest content opened
    rw [Vault.credentials, found, Option.map_some, agrees]

namespace LostUpdate

open Symbolic (calm masterPassword service entry)

def update : Request := .updateEntry service none (some [3]) none

/-- One instance waits for the lock to write its update, another one still
holds the entry that it had loaded. -/
def staleReader (writeTime : UInt64) : System Symbolic.path where
  files := Symbolic.files (Vault.empty.store (entry 2 5)) masterPassword
  sessions
    | 0 => some
        { service := ⟨Symbolic.path, masterPassword,
            Vault.empty.store (entry 3 writeTime), []⟩
          pending := some update
          onPath := rfl
          staged := by
            rintro _ ⟨⟩
            refine ⟨?_, by simp [update], by simp [update]⟩
            rintro _ rfl
            exact ⟨entry 3 writeTime, rfl, rfl, rfl, rfl⟩ }
    | 1 => some
        { service := ⟨Symbolic.path, masterPassword,
            Vault.empty.store (entry 2 5), []⟩
          pending := none
          onPath := rfl
          staged := by simp }
    | _ => none

theorem isolated : CommitIsolated Symbolic.primitives (staleReader 6) 0
    (((staleReader 6).sessions 0).get rfl) (.constant 6) service
    (entry 3 6) where
  disk := by
    intro blob disk rest found content opened foundEq
    cases content
    have encrypted := Symbolic.encrypted
      (Vault.empty.store (entry 2 5)) masterPassword (by decide)
    have loaded := (encrypted.open_eq Symbolic.ideal opened).2
    have diskEq : disk = Vault.empty.store (entry 2 5) :=
      congrArg Prod.fst loaded
    subst diskEq
    cases foundEq
    exact .inl (by decide)
  others := by
    intro other session differs present
    match other with
    | 0 => exact absurd rfl differs
    | 1 =>
        cases present
        refine ⟨by decide, ?_⟩
        intro copy found
        cases found
        exact .inl (by decide)
    | _ + 2 => cases present

/-- The history of a lost update: the second instance is constructed, and the
first one updates the password within the same second and returns. -/
def history : List Event :=
  [.construct 0 masterPassword .none (.constant 5),
    .call 0 (.addEntry service [1] [2] []) (.constant 5),
    .commit 0 calm (.constant 5),
    .construct 1 masterPassword .none (.constant 5),
    .call 0 update (.constant 5),
    .commit 0 calm (.constant 5)]

end LostUpdate

/-- An update one second after the other instance loaded the entry survives
that instance's save. -/
theorem written_entry_survives_stale_save :
    let next := Symbolic.reached (LostUpdate.staleReader 6)
      [.commit 0 Symbolic.calm (.constant 6)]
    let last := Symbolic.reached next (Symbolic.save 1 7)
    LostUpdate.update.Carries (Symbolic.entry 3 6).credentials ∧
      (∃ password, OpensWith Symbolic.primitives (last.files Symbolic.path)
        password) ∧
      Reads Symbolic.primitives (last.files Symbolic.path) fun disk =>
        disk.credentials Symbolic.service =
          some (Symbolic.entry 3 6).credentials :=
  written_entry_survives Symbolic.ideal rfl rfl rfl rfl LostUpdate.isolated
    (Symbolic.step_reached _ _ _ (by decide +kernel))
    (by simp [Symbolic.save, NotCalledOn, Request.target])
    (Symbolic.run_reached _ _ [.waiting, .returned] (by decide +kernel))

/-- With one-second times and a strict comparison the stale copy wins the tie:
the update has returned and is on disk, and a mere `save` of the other instance
puts the old password back. -/
theorem lost_update_in_one_second :
    Symbolic.outcome LostUpdate.history (.constant 5) =
      some ([.constructed, .waiting, .returned, .constructed, .waiting,
          .returned], some [Symbolic.entry 3 5]) ∧
    (∀ event ∈ Symbolic.save 1 5, NotCalledOn Symbolic.service event) ∧
    Symbolic.outcome (LostUpdate.history ++ Symbolic.save 1 5)
        (.constant 5) =
      some ([.constructed, .waiting, .returned, .constructed, .waiting,
          .returned, .waiting, .returned], some [Symbolic.entry 2 5]) := by
  refine ⟨by decide +kernel, ?_, by decide +kernel⟩
  simp [Symbolic.save, NotCalledOn, Request.target]

end DuckPass
