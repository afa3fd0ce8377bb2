/-
Module: DuckPass.Proofs.DoubleAdd
Purpose: When `add_entry` finds its service absent from the vault file.  The
  existence check looks at the cached vault before the lock is taken, and the
  half under the lock does not repeat it.
Trusted boundary: none beyond the named properties of the primitives.
Main exports: AddGuarded, add_entry_adds_absent_service,
  add_entry_overwrites_other_instance
-/
import DuckPass.Proofs.Resurrection

namespace DuckPass

variable {path : Path} {primitives : Primitives}

/-- The service is not in the vault file. -/
def OffDisk (primitives : Primitives) (service : SecureString)
    (system : System path) : Prop :=
  Reads primitives (system.files path)
    fun disk => disk.getEntry service = none

/-- Another instance is inside `add_entry` on the service. -/
def OtherAdding (system : System path) (id : Nat) (service : SecureString) :
    Prop :=
  ∃ other session, other ≠ id ∧ system.sessions other = some session ∧
    session.Adding service

/-- The condition on the steps of a run: an instance that is called to add the
service knows of it if the file has it, and while one instance waits to add the
service no other instance commits a vault that has it. -/
def AddGuarded (primitives : Primitives) (service : SecureString)
    (system : System path) : Event → Prop
  | .call id (.addEntry target _ _ _) _ =>
      target = service → ∀ session, system.sessions id = some session →
        session.service.vault.getEntry service = none →
        OffDisk primitives service system
  | .commit id _ _ =>
      ∀ session, system.sessions id = some session →
        OtherAdding system id service →
        session.service.vault.getEntry service = none
  | _ => True

/-- As long as some instance waits to add the service, it is not on disk. -/
def AddsFresh (primitives : Primitives) (service : SecureString)
    (system : System path) : Prop :=
  ∀ id session, system.sessions id = some session →
    session.Adding service → OffDisk primitives service system

theorem not_adding_of_idle {session : Session path} {service : SecureString}
    (idle : session.pending = none) : ¬ session.Adding service := by
  rintro ⟨_, _, _, pending⟩
  rw [idle] at pending
  cases pending

/-- Committing a vault without the service over a file without it. -/
theorem MergesTo.offDisk {self : VaultService} {content : Option SecureBytes}
    {clock : Clock} {merged : Vault} {service : SecureString}
    (merges : MergesTo primitives self content clock merged)
    (absent : self.vault.getEntry service = none)
    (onDisk : Reads primitives content
      fun disk => disk.getEntry service = none) :
    merged.getEntry service = none := by
  rcases merges.getEntry service with
    ⟨_, same⟩ | ⟨blob, disk, rest, present, opened, merge⟩
  · exact same.trans absent
  · rw [onDisk blob _ _ disk rest present opened, absent] at merge
    exact merge.eq_mine_of_missing

theorem AddsFresh.step (ideal : primitives.Ideal)
    {system next : System path} {service : SecureString} {event : Event}
    {reply : Reply} (fresh : AddsFresh primitives service system)
    (guarded : AddGuarded primitives service system event)
    (stepped : system.step primitives event = some (next, reply)) :
    AddsFresh primitives service next := by
  cases step_cases stepped with
  | notConstructed => exact fresh
  | rejected => exact fresh
  | constructed _ _ idle =>
      intro other session present adding
      rcases System.put_sessions present with ⟨_, same⟩ | ⟨_, old⟩
      · cases same
        exact absurd adding (not_adding_of_idle idle)
      · exact fresh other session old adding
  | called present idle staging waits =>
      intro other session found adding
      rcases System.put_sessions found with ⟨_, same⟩ | ⟨_, old⟩
      · cases same
        obtain ⟨_, _, _, pending⟩ := adding
        rw [waits] at pending
        cases pending
        exact guarded rfl _ present staging.absent_of_add
      · exact fresh other session old adding
  | committed present _ effect _ idle =>
      intro other session found adding
      rcases System.put_sessions found with ⟨_, same⟩ | ⟨differs, old⟩
      · cases same
        exact absurd adding (not_adding_of_idle idle)
      · have offDisk := fresh other session old adding
        rcases effect.file_cases with
          same | ⟨merged, blob, _, merges, encrypted, vaultFile⟩
        · unfold OffDisk at offDisk ⊢
          rw [← same] at offDisk
          exact offDisk
        · have absent := guarded _ present
            ⟨other, session, differs, old, adding⟩
          have gone := merges.offDisk absent offDisk
          have written : Reads primitives (some blob)
              fun disk => disk.getEntry service = none :=
            encrypted.reads ideal (Vault.getEntry_restamp_none gone)
          rw [← vaultFile] at written
          exact written
  | destroyed =>
      intro other session found adding
      exact fresh other session (System.put_none_sessions found) adding

/-! ## Main result -/

/-- What a commit of `add_entry` writes when the service is not on disk. -/
theorem add_commit_writes (ideal : primitives.Ideal)
    {system next : System path} {id : Nat} {session : Session path}
    {env : CommitEnv} {clock : Clock}
    {service username password totpSecret : SecureString}
    (present : system.sessions id = some session)
    (pending : session.pending =
      some (.addEntry service username password totpSecret))
    (offDisk : OffDisk primitives service system)
    (returned : system.step primitives (.commit id env clock) =
      some (next, .returned)) :
    Reads primitives (next.files path) fun disk =>
      disk.credentials service = some ⟨username, password, totpSecret⟩ := by
  obtain ⟨entry, cached, carries⟩ :=
    (session.staged _ pending).written service rfl
  have agrees : entry.credentials = ⟨username, password, totpSecret⟩ := carries
  obtain ⟨_, _, merged, _, files, _, found, _, merges, encrypted, vaultFile,
    rfl, _⟩ := step_returned returned
  rw [present] at found
  cases found
  have kept : merged.getEntry service = some entry := by
    rcases merges.getEntry service with
      ⟨_, same⟩ | ⟨blob, disk, rest, content, opened, merge⟩
    · exact same.trans cached
    · rw [offDisk blob _ _ disk rest content opened, cached] at merge
      exact merge.eq_mine_of_missing
  have written := encrypted.reads_credentials ideal service
  rw [← vaultFile] at written
  intro blob password clock disk rest content opened
  rw [written blob password clock disk rest content opened,
    Vault.credentials, kept, Option.map_some, agrees]

/-- In every run whose steps meet the condition, an `add_entry` that comes to
its commit finds its service absent from the vault file and, when it returns,
has added it; and one that is called while the service is on disk throws and
changes nothing. -/
theorem add_entry_adds_absent_service (ideal : primitives.Ideal)
    {files : Files} {events : List Event} {system : System path}
    {replies : List Reply} {service : SecureString}
    (guarded : (System.initial path files).Along primitives
      (AddGuarded primitives service) events)
    (finished : (System.initial path files).run primitives events =
      some (system, replies))
    {id : Nat} {session : Session path}
    (present : system.sessions id = some session)
    (username password totpSecret : SecureString) :
    (session.pending =
        some (.addEntry service username password totpSecret) →
      OffDisk primitives service system ∧
        ∀ env clock next,
          system.step primitives (.commit id env clock) =
            some (next, .returned) →
          Reads primitives (next.files path) fun disk =>
            disk.credentials service =
              some ⟨username, password, totpSecret⟩) ∧
    ∀ clock next reply,
      let call := Event.call id
        (.addEntry service username password totpSecret) clock
      AddGuarded primitives service system call →
      ¬ OffDisk primitives service system →
      system.step primitives call = some (next, reply) →
      next = system ∧ ∃ error, reply = .threw error := by
  have start : AddsFresh primitives service (System.initial path files) := by
    intro other otherSession impossible
    cases impossible
  have fresh : AddsFresh primitives service system :=
    Run.invariant
      (fun holds now stepped => AddsFresh.step ideal holds now stepped)
      start guarded finished
  refine ⟨?_, ?_⟩
  · intro pending
    have offDisk := fresh id session present ⟨_, _, _, pending⟩
    refine ⟨offDisk, ?_⟩
    intro env clock next returned
    exact add_commit_writes ideal present pending offDisk returned
  · intro clock next reply
    dsimp only
    intro nowGuarded onDisk stepped
    cases step_cases stepped with
    | rejected => exact ⟨rfl, _, rfl⟩
    | called found _ staging =>
        exact absurd (nowGuarded rfl _ found staging.absent_of_add) onDisk

namespace DoubleAdd

open Symbolic (calm masterPassword service)

/-- A single instance is constructed and called to add the service. -/
def firstAdd : List Event :=
  [.construct 0 masterPassword .none (.constant 5),
    .call 0 (.addEntry service [1] [2] []) (.constant 5)]

theorem firstAdd_guarded : Symbolic.onEmptyVault.Along Symbolic.primitives
    (AddGuarded Symbolic.primitives service) firstAdd := by
  refine Run.along_cons trivial
    (Symbolic.step_reached _ _ .constructed (by decide +kernel)) ?_
  refine Run.along_cons ?_
    (Symbolic.step_reached _ _ .waiting (by decide +kernel)) trivial
  intro _ session _ _
  have content : (Symbolic.reached Symbolic.onEmptyVault
      [.construct 0 masterPassword .none (.constant 5)]).files Symbolic.path =
        some (Symbolic.blob Vault.empty masterPassword) := by
    decide +kernel
  unfold OffDisk
  rw [content]
  have encrypted := Symbolic.encrypted Vault.empty masterPassword (by decide)
  exact encrypted.reads Symbolic.ideal fun _ => rfl

/-- Two instances are constructed on the empty vault; the first one adds the
service, and later the second one, which has not seen it, adds it too. -/
def history : List Event :=
  [.construct 0 masterPassword .none (.constant 5),
    .construct 1 masterPassword .none (.constant 5),
    .call 0 (.addEntry service [1] [2] []) (.constant 6),
    .commit 0 calm (.constant 6)]

def secondAdd : List Event :=
  [.call 1 (.addEntry service [1] [3] []) (.constant 7),
    .commit 1 calm (.constant 7)]

end DoubleAdd

/-- A lone instance that comes to the commit of its `add_entry` finds the
service absent. -/
theorem add_entry_adds_absent_service_alone :
    let system := Symbolic.reached Symbolic.onEmptyVault DoubleAdd.firstAdd
    OffDisk Symbolic.primitives Symbolic.service system := by
  have waiting : ∃ session,
      (Symbolic.reached Symbolic.onEmptyVault DoubleAdd.firstAdd).sessions 0 =
        some session ∧
      session.pending = some (.addEntry Symbolic.service [1] [2] []) := by
    have pending : ((Symbolic.reached Symbolic.onEmptyVault
        DoubleAdd.firstAdd).sessions 0).map Session.pending =
          some (some (.addEntry Symbolic.service [1] [2] [])) := by
      decide +kernel
    exact Option.map_eq_some_iff.mp pending
  obtain ⟨session, present, pending⟩ := waiting
  have finished := Symbolic.run_reached Symbolic.onEmptyVault DoubleAdd.firstAdd
    [.constructed, .waiting] (by decide +kernel)
  have both := add_entry_adds_absent_service Symbolic.ideal
    DoubleAdd.firstAdd_guarded finished present [1] [2] []
  exact (both.1 pending).1

/-- The second instance's `add_entry` returns although the service is on disk
when it commits, and it replaces the entry of the first. -/
theorem add_entry_overwrites_other_instance :
    Symbolic.outcome DoubleAdd.history (.constant 6) =
      some ([.constructed, .constructed, .waiting, .returned],
        some [Symbolic.entry 2 6]) ∧
    Symbolic.outcome (DoubleAdd.history ++ DoubleAdd.secondAdd)
        (.constant 7) =
      some ([.constructed, .constructed, .waiting, .returned, .waiting,
        .returned], some [Symbolic.entry 3 7]) := by
  refine ⟨?_, ?_⟩
  · decide +kernel
  · decide +kernel

end DuckPass
