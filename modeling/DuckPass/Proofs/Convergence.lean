/-
Module: DuckPass.Proofs.Convergence
Purpose: Instances with the same password that do nothing but save converge in
  two rounds: for every service the newest copy is everywhere.  Each save is
  one exchange of an instance with the vault file, which is the hub.
Trusted boundary: none beyond the named properties of the primitives.
Main exports: Quiet, Save, saves, star, save_syncs, replicas_converge
-/
import DuckPass.System.Invariant
import DuckPass.System.Symbolic

namespace DuckPass

open LastWriter

variable {path : Path} {primitives : Primitives}

/-- The time by which copies of an entry are compared. -/
def VaultEntry.stamp (entry : VaultEntry) : Nat := entry.lastUpdated.toNat

/-- The copies of one service: the vault file is the hub, the instances are the
replicas. -/
def star (disk : Vault) (system : System path) (service : SecureString) :
    Star Nat VaultEntry where
  hub := disk.getEntry service
  replica id := (system.sessions id).bind
    fun session => session.service.vault.getEntry service

/-- The instances that exist. -/
def System.live (system : System path) : Set Nat :=
  { id | ∃ session, system.sessions id = some session }

/-- No call is under way, every instance holds the password and has no deletion
outstanding, every copy carries a time, and the file opens to `disk`. -/
structure Quiet (primitives : Primitives) (password : SecureString)
    (disk : Vault) (system : System path) : Prop where
  file : ∃ blob, system.files path = some blob ∧ ∀ clock,
    openVaultBlob primitives none blob password clock = .ok (disk, clock)
  diskStamped : disk.Stamped
  sessions : ∀ id session, system.sessions id = some session →
    session.pending = none ∧ session.service.masterPassword = password ∧
      session.service.deletedServices = [] ∧ session.service.vault.Stamped

/-- One `save` of an instance, with the clocks and system calls it meets. -/
structure Save where
  id : Nat
  callClock : Clock
  env : CommitEnv
  clock : Clock

def Save.events (save : Save) : List Event :=
  [.call save.id .save save.callClock, .commit save.id save.env save.clock]

/-- One instance after the other saves. -/
def saves (round : List Save) : List Event := round.flatMap Save.events

/-- No call has thrown. -/
def NoFailure (replies : List Reply) : Prop :=
  ∀ error, Reply.threw error ∉ replies

/-- Replacing the session of an instance creates and destroys none. -/
theorem live_put {system : System path} {files : Files} {id : Nat}
    {session after : Session path}
    (present : system.sessions id = some session) :
    (system.put files id (some after)).live = system.live := by
  ext other
  by_cases same : other = id
  · subst same
    exact ⟨fun _ => ⟨session, present⟩,
      fun _ => ⟨after, System.put_sessions_self system files other _⟩⟩
  · have unchanged :=
      System.put_sessions_of_ne system files (some after) same
    constructor
    · rintro ⟨found, foundEq⟩
      exact ⟨found, unchanged.symm.trans foundEq⟩
    · rintro ⟨found, foundEq⟩
      exact ⟨found, unchanged.trans foundEq⟩

theorem star_replica (disk : Vault) {system : System path} {id : Nat}
    {session : Session path} (present : system.sessions id = some session)
    (service : SecureString) :
    (star disk system service).replica id =
      session.service.vault.getEntry service := by
  change (system.sessions id).bind _ = _
  rw [present]
  rfl

theorem star_put_replica (disk : Vault) (system : System path) (files : Files)
    (id : Nat) (after : Session path) (service : SecureString) :
    (star disk (system.put files id (some after)) service).replica =
      Function.update (star disk system service).replica id
        (after.service.vault.getEntry service) := by
  funext other
  by_cases same : other = id
  · subst same
    rw [Function.update_self]
    exact star_replica _ (System.put_sessions_self system files other _) service
  · rw [Function.update_of_ne same]
    exact congrArg (Option.bind · _)
      (System.put_sessions_of_ne system files (some after) same)

/-! ## One save -/

/-- The session after the first half of a save is the same instance. -/
theorem save_called {system middle : System path} {id : Nat} {clock : Clock}
    {reply : Reply}
    (stepped : system.step primitives (.call id .save clock) =
      some (middle, reply)) :
    ∃ session waiting, system.sessions id = some session ∧
      middle = system.put system.files id (some waiting) ∧
      waiting.service = session.service ∧
      waiting.pending = some .save := by
  cases step_cases stepped with
  | rejected _ _ failed => cases failed
  | @called _ _ _ session waiting present _ staging waits =>
      refine ⟨session, waiting, present, rfl, ?_, waits⟩
      generalize waiting.service = service at staging
      cases staging
      rfl

/-- A commit that does not throw writes the merged vault. -/
theorem save_committed {middle next : System path} {id : Nat}
    {env : CommitEnv} {clock : Clock} {reply : Reply}
    {waiting : Session path}
    (stepped : middle.step primitives (.commit id env clock) =
      some (next, reply))
    (present : middle.sessions id = some waiting)
    (pending : waiting.pending = some .save)
    (succeeded : ∀ error, reply ≠ .threw error) :
    ∃ merged blob files after,
      MergesTo primitives waiting.service (middle.files path) clock merged ∧
      SealedBlob primitives waiting.service.masterPassword merged blob ∧
      files path = some blob ∧
      next = middle.put files id (some after) ∧
      after.pending = none ∧
      after.service = ⟨waiting.service.vaultPath,
        waiting.service.masterPassword, merged, []⟩ := by
  cases step_cases stepped with
  | @committed _ _ _ request _ after _ files _ found samePending effect
      service_eq idle =>
      rw [present] at found
      cases found
      rw [pending] at samePending
      cases samePending
      cases effect with
      | refused => exact absurd rfl (succeeded _)
      | failed => exact absurd rfl (succeeded _)
      | unkept => exact absurd rfl (succeeded _)
      | @returned merged blob _ merges encrypted vaultFile =>
          exact ⟨merged, blob, files, after, merges, encrypted, vaultFile, rfl,
            idle, service_eq⟩

/-- A merge with a file that opens has read the vault of the file. -/
theorem MergesTo.eq_of_opens {self : VaultService} {blob : SecureBytes}
    {disk merged : Vault} {clock : Clock}
    (opens : ∀ clock, openVaultBlob primitives none blob self.masterPassword
      clock = .ok (disk, clock))
    (merges : MergesTo primitives self (some blob) clock merged) :
    merged =
      (mergeEntries self.deletedServices disk.entries self.vault clock).1 := by
  cases merges with
  | missing absent => cases absent
  | loaded present opened =>
      cases present
      rw [opens] at opened
      cases opened
      rfl

/-- One save in a quiet system is one exchange with the hub, for every
service. -/
theorem save_syncs (roundTrips : primitives.RoundTrips)
    {system next : System path} {password : SecureString} {disk : Vault}
    {save : Save} {replies : List Reply}
    (quiet : Quiet primitives password disk system)
    (finished : system.run primitives save.events = some (next, replies))
    (noFailure : NoFailure replies) :
    save.id ∈ system.live ∧ next.live = system.live ∧
      ∃ merged, Quiet primitives password merged next ∧
        ∀ service, star merged next service =
          (star disk system service).sync VaultEntry.stamp save.id := by
  obtain ⟨middle, first, rest, called, ran, rfl⟩ := Run.run_cons finished
  obtain ⟨last, second, rest, committed, ended, rfl⟩ := Run.run_cons ran
  cases ended
  obtain ⟨session, waiting, present, rfl, sameService, pending⟩ :=
    save_called called
  obtain ⟨_, passwordEq, nothingDeleted, stamped⟩ :=
    quiet.sessions _ _ present
  obtain ⟨merged, blob, files, after, merges, encrypted, vaultFile, rfl, idle,
    afterEq⟩ := save_committed committed (System.put_sessions_self ..) pending
      (by
        rintro error rfl
        exact noFailure error (by simp))
  rw [sameService] at merges encrypted afterEq
  rw [passwordEq] at encrypted afterEq
  obtain ⟨oldBlob, content, opens⟩ := quiet.file
  rw [System.put_files, content] at merges
  have mergedEq := merges.eq_of_opens (passwordEq ▸ opens)
  rw [nothingDeleted] at mergedEq
  have mergedStamped : merged.Stamped := by
    rw [mergedEq]
    exact mergeEntries_stamped_of_stamped save.clock quiet.diskStamped stamped
  have chosen : ∀ service, merged.getEntry service =
      newer VaultEntry.stamp (session.service.vault.getEntry service)
        (disk.getEntry service) := by
    intro service
    have merge := getEntry_mergeEntries [] service disk.distinct
      session.service.vault save.clock
    rw [← mergedEq] at merge
    refine merge.eq_newer List.not_mem_nil ?_
    intro entry found
    exact quiet.diskStamped entry (Vault.mem_of_getEntry found)
  refine ⟨⟨session, present⟩, ?_, merged, ⟨?_, mergedStamped, ?_⟩, ?_⟩
  · rw [live_put (System.put_sessions_self ..), live_put present]
  · exact ⟨blob, vaultFile,
      encrypted.opens_stamped roundTrips mergedStamped⟩
  · intro other found foundEq
    rcases System.put_sessions foundEq with ⟨_, same⟩ | ⟨differs, old⟩
    · cases same
      rw [afterEq]
      exact ⟨idle, rfl, rfl, mergedStamped⟩
    · rcases System.put_sessions old with ⟨same, _⟩ | ⟨_, older⟩
      · exact absurd same differs
      · exact quiet.sessions other found older
  · intro service
    have mine := star_replica disk present service
    apply Star.ext
    · rw [Star.sync, mine]
      exact chosen service
    · rw [Star.sync, mine, star_put_replica merged, star_put_replica merged,
        Function.update_idem, afterEq, chosen]
      rfl

/-! ## Rounds -/

/-- A round of saves is a round of exchanges with the hub. -/
theorem saves_sync (roundTrips : primitives.RoundTrips)
    {system next : System path} {password : SecureString} {disk : Vault}
    {round : List Save} {replies : List Reply}
    (quiet : Quiet primitives password disk system)
    (finished : system.run primitives (saves round) = some (next, replies))
    (noFailure : NoFailure replies) :
    (∀ id ∈ round.map Save.id, id ∈ system.live) ∧
      next.live = system.live ∧
      ∃ merged, Quiet primitives password merged next ∧
        ∀ service, star merged next service =
          (star disk system service).syncAll VaultEntry.stamp
            (round.map Save.id) := by
  induction round generalizing system disk replies with
  | nil =>
      cases finished
      exact ⟨by simp, rfl, disk, quiet, fun _ => rfl⟩
  | cons save round inductionHypothesis =>
      obtain ⟨middle, first, second, saved, rest, rfl⟩ :=
        Run.run_append finished
      obtain ⟨alive, sameLive, disk', quiet', synced⟩ :=
        save_syncs roundTrips quiet saved fun error member =>
          noFailure error (List.mem_append_left _ member)
      obtain ⟨others, sameLive', merged, quietEnd, allSynced⟩ :=
        inductionHypothesis quiet' rest fun error member =>
          noFailure error (List.mem_append_right _ member)
      refine ⟨?_, sameLive'.trans sameLive, merged, quietEnd, ?_⟩
      · intro id member
        rcases List.mem_cons.mp member with rfl | later
        · exact alive
        · exact sameLive ▸ others id later
      · intro service
        rw [allSynced service, synced service]
        rfl

/-- The copies of a service that exist, on disk and in memory. -/
def copies (disk : Vault) (system : System path) (service : SecureString) :
    Set (Option VaultEntry) :=
  { copy | copy = disk.getEntry service ∨
    ∃ id session, system.sessions id = some session ∧
      copy = session.service.vault.getEntry service }

theorem star_copies (disk : Vault) (system : System path)
    (service : SecureString) :
    (star disk system service).copies system.live =
      copies disk system service := by
  ext copy
  constructor
  · rintro (onDisk | ⟨id, ⟨session, present⟩, rfl⟩)
    · exact .inl onDisk
    · exact .inr ⟨id, session, present, star_replica _ present service⟩
  · rintro (onDisk | ⟨id, session, present, rfl⟩)
    · exact .inl onDisk
    · exact .inr ⟨id, ⟨session, present⟩, (star_replica _ present service).symm⟩

/-! ## Main result -/

/-- Any number of instances with the same password and no deletion outstanding,
over arbitrary vaults in memory and on disk in which copies of a service with
the same time are the same: when every instance has saved, in any order, and
then every instance has saved once more, in any order, and nothing has failed,
the file and all instances hold the same map, which has for each service the
newest of the initial copies. -/
theorem replicas_converge (roundTrips : primitives.RoundTrips)
    {system last : System path} {password : SecureString} {disk : Vault}
    {first second : List Save} {replies : List Reply}
    (quiet : Quiet primitives password disk system)
    (coherent : ∀ service,
      Coherent VaultEntry.stamp (copies disk system service))
    (firstAll : ∀ id session, system.sessions id = some session →
      id ∈ first.map Save.id)
    (secondAll : ∀ id session, system.sessions id = some session →
      id ∈ second.map Save.id)
    (finished : system.run primitives (saves first ++ saves second) =
      some (last, replies))
    (noFailure : NoFailure replies) :
    ∃ final, Quiet primitives password final last ∧
      (∀ service, IsLatest VaultEntry.stamp (copies disk system service)
        (final.getEntry service)) ∧
      ∀ id session, last.sessions id = some session → ∀ service,
        session.service.vault.getEntry service = final.getEntry service := by
  obtain ⟨middle, firstReplies, secondReplies, one, two, rfl⟩ :=
    Run.run_append finished
  obtain ⟨firstInside, sameLive, disk', quiet', firstSynced⟩ :=
    saves_sync roundTrips quiet one fun error member =>
      noFailure error (List.mem_append_left _ member)
  obtain ⟨secondInside, sameLive', final, quietEnd, secondSynced⟩ :=
    saves_sync roundTrips quiet' two fun error member =>
      noFailure error (List.mem_append_right _ member)
  rw [sameLive] at secondInside sameLive'
  have converged := fun service =>
    Star.converges (star disk system service) (first.map Save.id)
      (second.map Save.id)
      (star_copies disk system service ▸ coherent service) firstInside
      (fun id ⟨session, present⟩ => firstAll id session present) secondInside
      (fun id ⟨session, present⟩ => secondAll id session present)
  refine ⟨final, quietEnd, ?_, ?_⟩
  · intro service
    have latest := (converged service).1
    rw [star_copies, ← firstSynced service, ← secondSynced service] at latest
    exact latest
  · intro id session present service
    have spread := (converged service).2 id (sameLive' ▸ ⟨session, present⟩)
    rw [← firstSynced service, ← secondSynced service,
      star_replica _ present service] at spread
    exact spread

namespace Convergence

open Symbolic (calm masterPassword entry)

def onDisk : Vault := Vault.empty.store (entry 2 5)

def idle (vault : Vault) : Session Symbolic.path where
  service := ⟨Symbolic.path, masterPassword, vault, []⟩
  pending := none
  onPath := rfl
  staged := by simp

/-- One instance has a newer copy of the entry, another one has none. -/
def diverged : System Symbolic.path where
  files := Symbolic.files onDisk masterPassword
  sessions
    | 0 => some (idle (Vault.empty.store (entry 3 6)))
    | 1 => some (idle Vault.empty)
    | _ => none

def round (order : List Nat) : List Save :=
  order.map fun id => ⟨id, .constant 7, calm, .constant 7⟩

theorem quiet : Quiet Symbolic.primitives masterPassword onDisk diverged where
  file := by
    have encrypted := Symbolic.encrypted onDisk masterPassword (by decide)
    exact ⟨_, rfl, encrypted.opens_stamped Symbolic.ideal.toRoundTrips
      (Vault.Stamped.empty.store (by decide))⟩
  diskStamped := Vault.Stamped.empty.store (by decide)
  sessions := by
    intro id session present
    match id with
    | 0 =>
        cases present
        exact ⟨rfl, rfl, rfl, Vault.Stamped.empty.store (by decide)⟩
    | 1 =>
        cases present
        exact ⟨rfl, rfl, rfl, .empty⟩
    | _ + 2 => cases present

/-- Every copy is one of two, which differ in their times. -/
theorem coherent (service : SecureString) :
    Coherent VaultEntry.stamp (copies onDisk diverged service) := by
  have known : ∀ found, some found ∈ copies onDisk diverged service →
      found = entry 2 5 ∨ found = entry 3 6 := by
    rintro found (disk | ⟨id, session, present, cached⟩)
    · exact .inl (List.mem_singleton.mp (Vault.mem_of_getEntry disk.symm))
    · match id with
      | 0 =>
          cases present
          exact .inr (List.mem_singleton.mp (Vault.mem_of_getEntry cached.symm))
      | 1 =>
          cases present
          cases cached
      | _ + 2 => cases present
  intro a b aMember bMember sameTime
  rcases known a aMember with rfl | rfl <;>
    rcases known b bMember with rfl | rfl <;>
    first
      | rfl
      | exact absurd sameTime (by decide)

end Convergence

/-- The two instances converge. -/
theorem replicas_converge_two :
    let last := Symbolic.reached Convergence.diverged
      (saves (Convergence.round [0, 1]) ++ saves (Convergence.round [1, 0]))
    ∃ final, Quiet Symbolic.primitives Symbolic.masterPassword final last ∧
      (∀ service, IsLatest VaultEntry.stamp
        (copies Convergence.onDisk Convergence.diverged service)
        (final.getEntry service)) ∧
      ∀ id session, last.sessions id = some session → ∀ service,
        session.service.vault.getEntry service = final.getEntry service := by
  intro last
  have everyone : ∀ order : List Nat, 0 ∈ order → 1 ∈ order →
      ∀ id session, Convergence.diverged.sessions id = some session →
        id ∈ (Convergence.round order).map Save.id := by
    intro order zero one id session present
    have member : id ∈ order := by
      match id with
      | 0 => exact zero
      | 1 => exact one
      | _ + 2 => cases present
    simpa [Convergence.round] using member
  have finished := Symbolic.run_reached Convergence.diverged
    (saves (Convergence.round [0, 1]) ++ saves (Convergence.round [1, 0]))
    [.waiting, .returned, .waiting, .returned, .waiting, .returned, .waiting,
      .returned]
    (by decide +kernel)
  exact replicas_converge Symbolic.ideal.toRoundTrips Convergence.quiet
    Convergence.coherent (everyone [0, 1] (by decide) (by decide))
    (everyone [1, 0] (by decide) (by decide)) finished (by simp [NoFailure])

end DuckPass
