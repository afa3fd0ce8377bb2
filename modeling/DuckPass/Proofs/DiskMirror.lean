/-
Module: DuckPass.Proofs.DiskMirror
Purpose: After every call that returns, the vault file is a faithful copy of
  the instance's vault, entry by entry and in order.
Trusted boundary: none beyond the named properties of the primitives.
Main exports: Event.ClockSet, AllStamped, run_allStamped, disk_mirrors_memory
-/
import DuckPass.System.Invariant
import DuckPass.System.Symbolic

namespace DuckPass

variable {path : Path} {primitives : Primitives}

/-- No reading of the clock during the step is the epoch. -/
def Event.ClockSet : Event → Prop
  | .construct _ _ _ clock => clock.NonZero
  | .call _ _ clock => clock.NonZero
  | .commit _ _ clock => clock.NonZero
  | .destroy _ => True

/-- Every cached entry carries a time. -/
def AllStamped (system : System path) : Prop :=
  ∀ id session, system.sessions id = some session →
    session.service.vault.Stamped

theorem Staging.stamped {clock : Clock} {self after : VaultService}
    {request : Request} (staging : Staging clock self request after)
    (stamped : self.vault.Stamped) (nonZero : clock.NonZero) :
    after.vault.Stamped := by
  have stampSet : clock.stamp ≠ 0 := by
    rw [nonZero.stamp_eq]
    exact nonZero.time
  cases staging with
  | added => exact stamped.store stampSet
  | updated => exact stamped.store stampSet
  | deleted => exact stamped.removeEntry
  | save => exact stamped
  | rekey => exact stamped

/-- What a commit leaves in memory carries times if what it found did. -/
theorem CommitEffect.stamped {request : Request} {env : CommitEnv}
    {clock : Clock} {self service : VaultService} {files after : Files}
    {reply : Reply}
    (effect : CommitEffect primitives path request env clock self files service
      after reply)
    (stamped : self.vault.Stamped) (nonZero : clock.NonZero) :
    service.vault.Stamped := by
  cases effect with
  | refused => exact stamped
  | failed merges => exact merges.stamped stamped nonZero
  | returned merges => exact merges.stamped stamped nonZero
  | unkept _ _ merges => exact merges.stamped stamped nonZero

theorem AllStamped.step {system next : System path} {event : Event}
    {reply : Reply} (stamped : AllStamped system)
    (clockSet : event.ClockSet)
    (stepped : system.step primitives event = some (next, reply)) :
    AllStamped next := by
  cases step_cases stepped with
  | notConstructed => exact stamped
  | rejected => exact stamped
  | constructed _ fresh =>
      obtain ⟨_, _, _, opened⟩ := fresh.opened
      exact System.put_some_forall stamped
        (openVaultBlob_stamped clockSet opened).1
  | called present _ staging =>
      exact System.put_some_forall stamped
        (staging.stamped (stamped _ _ present) clockSet)
  | committed present _ effect service_eq =>
      apply System.put_some_forall stamped
      rw [service_eq]
      exact effect.stamped (stamped _ _ present) clockSet
  | destroyed =>
      intro other session present
      exact stamped other session (System.put_none_sessions present)

theorem run_allStamped {files : Files} {events : List Event}
    {system : System path} {replies : List Reply}
    (clocksSet : ∀ event ∈ events, event.ClockSet)
    (finished : (System.initial path files).run primitives events =
      some (system, replies)) : AllStamped system := by
  have start : AllStamped (System.initial path files) := by
    intro id session impossible
    cases impossible
  exact Run.invariant
    (fun stamped clockSet stepped => AllStamped.step stamped clockSet stepped)
    start (Run.along_of_forall clocksSet _) finished

/-! ## Main result -/

/-- In every run of any number of instances on one vault file: when a call of
one of the five writing methods returns, `load_vault` with the instance's
current password yields exactly the instance's vault, and no deletion is
outstanding. -/
theorem disk_mirrors_memory (roundTrips : primitives.RoundTrips)
    {files : Files} {events : List Event} {system next : System path}
    {replies : List Reply} {id : Nat} {env : CommitEnv} {clock : Clock}
    {session : Session path}
    (clocksSet : ∀ event ∈ events, event.ClockSet)
    (clockSet : clock.NonZero)
    (finished : (System.initial path files).run primitives events =
      some (system, replies))
    (returned : system.step primitives (.commit id env clock) =
      some (next, .returned))
    (present : next.sessions id = some session)
    (small : ∀ blob, next.files path = some blob →
      blob.length ≤ maxFileSize) (later : Clock) :
    loadVault primitives .none next.files path session.service.masterPassword
        later = .ok (session.service.vault, later) ∧
      session.service.deletedServices = [] := by
  have stamped := run_allStamped clocksSet finished
  obtain ⟨_, _, _, _, files, _, before, _, merges, encrypted, vaultFile, rfl,
    service_eq⟩ := step_returned returned
  have mergedStamped := merges.stamped (stamped _ _ before) clockSet
  rcases System.put_sessions present with ⟨_, same⟩ | ⟨differs, _⟩
  · cases same
    rw [service_eq]
    refine ⟨?_, rfl⟩
    rw [System.put_files,
      loadVault_of_openVaultBlob vaultFile (small _ vaultFile)]
    exact encrypted.opens_stamped roundTrips mergedStamped later
  · exact absurd rfl differs

namespace DiskMirror

open Symbolic (calm masterPassword service)

/-- Two instances; the first one has added an entry and the second one is about
to commit a change of the master password. -/
def history : List Event :=
  [.construct 0 masterPassword .none (.constant 5),
    .construct 1 masterPassword .none (.constant 5),
    .call 0 (.addEntry service [1] [2] []) (.constant 6),
    .commit 0 calm (.constant 6),
    .call 1 (.rekey [0x6E]) (.constant 7)]

def rekeying : System Symbolic.path :=
  Symbolic.reached Symbolic.onEmptyVault history

def rekeyed : System Symbolic.path :=
  Symbolic.reached rekeying [.commit 1 calm (.constant 7)]

end DiskMirror

/-- After the second instance's `rekey` the file, opened with the new password,
is its vault, into which the entry of the first has been merged. -/
theorem disk_mirrors_memory_rekey :
    ∃ session, DiskMirror.rekeyed.sessions 1 = some session ∧
      session.service.masterPassword = [0x6E] ∧
      session.service.vault.entries = [Symbolic.entry 2 6] ∧
      loadVault Symbolic.primitives .none DiskMirror.rekeyed.files
          Symbolic.path session.service.masterPassword (.constant 8) =
        .ok (session.service.vault, .constant 8) ∧
      session.service.deletedServices = [] := by
  have observed : (DiskMirror.rekeyed.sessions 1).map (fun session =>
      (session.service.masterPassword, session.service.vault.entries)) =
        some ([0x6E], [Symbolic.entry 2 6]) := by
    decide +kernel
  obtain ⟨session, present, seen⟩ := Option.map_eq_some_iff.mp observed
  have finished : Symbolic.onEmptyVault.run Symbolic.primitives
      DiskMirror.history =
        some (DiskMirror.rekeying,
          [.constructed, .constructed, .waiting, .returned, .waiting]) :=
    Symbolic.run_reached _ _ _ (by decide +kernel)
  have returned : DiskMirror.rekeying.step Symbolic.primitives
      (.commit 1 Symbolic.calm (.constant 7)) =
        some (DiskMirror.rekeyed, .returned) :=
    Symbolic.step_reached _ _ _ (by decide +kernel)
  have size : (DiskMirror.rekeyed.files Symbolic.path).all
      (fun blob => decide (blob.length ≤ maxFileSize)) = true := by
    decide +kernel
  have small : ∀ blob, DiskMirror.rekeyed.files Symbolic.path = some blob →
      blob.length ≤ maxFileSize := by
    intro blob content
    rw [content] at size
    exact of_decide_eq_true size
  have clocksSet : ∀ event ∈ DiskMirror.history, event.ClockSet := by
    intro event member
    simp only [DiskMirror.history, List.mem_cons, List.not_mem_nil,
      or_false] at member
    rcases member with rfl | rfl | rfl | rfl | rfl <;>
      exact Clock.nonZero_constant (by decide)
  have mirrored := disk_mirrors_memory Symbolic.ideal.toRoundTrips clocksSet
    (Clock.nonZero_constant (by decide)) finished returned present small
    (.constant 8)
  exact ⟨session, present, congrArg Prod.fst seen, congrArg Prod.snd seen,
    mirrored⟩

end DuckPass
