/-
Module: DuckPass.Proofs.SingleWriter
Purpose: One instance that is the only writer of its vault file refines a
  finite map from services to credentials, exactly as long as the clock does
  not fall behind the times on disk.
Trusted boundary: none beyond the named properties of the primitives.
Main exports: Request.apply, SoleWriter.serve, TakesEffect, Agrees, ClockAhead,
  Tracks, settled_run_agrees, call_takes_effect_iff_clock_ahead,
  update_lost_when_clock_steps_back
-/
import DuckPass.System.Invariant
import DuckPass.System.Symbolic

namespace DuckPass

variable {primitives : Primitives}

/-! ## The finite map -/

/-- The given fields replace the old ones. -/
def Credentials.revise (credentials : Credentials)
    (newUsername newPassword newTotpSecret : Option SecureString) :
    Credentials :=
  ⟨newUsername.getD credentials.username,
    newPassword.getD credentials.password,
    newTotpSecret.getD credentials.totpSecret⟩

/-- What a call means for a finite map from services to credentials. -/
def Request.apply (request : Request)
    (entries : SecureString → Option Credentials) (service : SecureString) :
    Option Credentials :=
  match request with
  | addEntry target username password totpSecret =>
      if target = service then some ⟨username, password, totpSecret⟩
      else entries service
  | updateEntry target newUsername newPassword newTotpSecret =>
      if target = service then
        (entries service).map
          (·.revise newUsername newPassword newTotpSecret)
      else entries service
  | deleteEntry target => if service = target then none else entries service
  | save => entries service
  | rekey _ => entries service

/-- Up to the lock, the cached vault follows the map. -/
theorem Staging.credentials_eq {clock : Clock} {self after : VaultService}
    {request : Request} (staging : Staging clock self request after)
    (service : SecureString) :
    after.vault.credentials service =
      request.apply self.vault.credentials service := by
  cases staging with
  | added => exact Vault.credentials_store _
  | updated _ _ _ present =>
      rw [Vault.credentials_store, Request.apply]
      split
      · next same =>
          subst same
          rw [Vault.credentials, present]
          rfl
      · rfl
  | deleted => exact Vault.credentials_removeEntry _
  | save => rfl
  | rekey => rfl

/-! ## The sole writer -/

/-- The file shows the map to whoever loads it with the password. -/
def FileShows (primitives : Primitives) (files : Files) (path : Path)
    (password : SecureString) (entries : SecureString → Option Credentials) :
    Prop :=
  ∃ blob, files path = some blob ∧ ∀ clock, ∃ disk rest,
    openVaultBlob primitives none blob password clock = .ok (disk, rest) ∧
    (blob.length ≤ maxFileSize →
      loadVault primitives .none files path password clock =
        .ok (disk, rest)) ∧
    ∀ service, disk.credentials service = entries service

/-- A call with the clock readings and system calls it will meet. -/
structure Call where
  request : Request
  env : CommitEnv
  clock : Clock

namespace SoleWriter

/-- The instance and the directory, which nobody else writes. -/
abbrev State := VaultService × Files

/-- The file of the instance shows the map. -/
def State.Shows (primitives : Primitives) (state : State)
    (entries : SecureString → Option Credentials) : Prop :=
  FileShows primitives state.2 state.1.vaultPath state.1.masterPassword entries

/-- One whole call. -/
def outcome (primitives : Primitives) (state : State) (call : Call) :
    Outcome :=
  call.request.execute primitives call.env call.clock state.1
    (.start state.2)

def serve (primitives : Primitives) (state : State) (call : Call) :
    Option (State × Except DuckpassError Unit) :=
  let outcome := outcome primitives state call
  some ((outcome.self, outcome.storage.files), outcome.result)

end SoleWriter

open SoleWriter (State)

/-- Memory and file show the same credentials for every service that the call
is not about. -/
def Agrees (primitives : Primitives) (state : State) (call : Call) : Prop :=
  ∀ entries, state.Shows primitives entries →
    ∀ service, call.request.target ≠ some service →
      state.1.vault.credentials service = entries service

/-- The condition on the clock, in the state that a call finds: an update is not
stamped with an earlier time than the entry on disk has when the call loads it,
unless that entry already is as the update would make it. -/
def ClockAhead (primitives : Primitives) (state : State) (call : Call) :
    Prop :=
  match call.request with
  | .updateEntry service _ _ _ =>
      service ∉ state.1.deletedServices →
      ∀ blob disk rest entry, state.2 state.1.vaultPath = some blob →
        openVaultBlob primitives none blob state.1.masterPassword
          call.clock.afterStamp = .ok (disk, rest) →
        disk.getEntry service = some entry →
        call.request.apply state.1.vault.credentials service ≠
          some entry.credentials →
        entry.lastUpdated ≤ call.clock.stamp
  | _ => True

/-- Afterwards the instance shows the map that the call makes of the one before,
and the file shows the same for the call's service and is unchanged for every
other one. -/
structure TakesEffect (primitives : Primitives) (state : State) (call : Call)
    (after : State) : Prop where
  cached : ∀ service, after.1.vault.credentials service =
    call.request.apply state.1.vault.credentials service
  file : ∃ entries, state.Shows primitives entries ∧
    after.Shows primitives fun service =>
      if call.request.target = some service then
        call.request.apply state.1.vault.credentials service
      else entries service

/-- The file can be read, and every service in it is cached, unless the
instance has deleted it. -/
def Tracks (primitives : Primitives) (state : State) : Prop :=
  ∃ entries, state.Shows primitives entries ∧
    ∀ service, (entries service).isSome →
      (state.1.vault.getEntry service).isSome ∨
        service ∈ state.1.deletedServices

/-! ## What the file shows -/

theorem fileShows_of_open {files : Files} {path : Path}
    {password : SecureString} {blob : SecureBytes}
    {entries : SecureString → Option Credentials}
    (present : files path = some blob)
    (opens : ∀ clock, ∃ disk rest,
      openVaultBlob primitives none blob password clock = .ok (disk, rest) ∧
      ∀ service, disk.credentials service = entries service) :
    FileShows primitives files path password entries := by
  refine ⟨blob, present, ?_⟩
  intro clock
  obtain ⟨disk, rest, opened, same⟩ := opens clock
  refine ⟨disk, rest, opened, ?_, same⟩
  intro small
  rw [loadVault_of_openVaultBlob present small]
  exact opened

theorem FileShows.unique {files : Files} {path : Path}
    {password : SecureString}
    {entries others : SecureString → Option Credentials}
    (one : FileShows primitives files path password entries)
    (two : FileShows primitives files path password others) :
    entries = others := by
  obtain ⟨blob, present, opens⟩ := one
  obtain ⟨otherBlob, otherPresent, otherOpens⟩ := two
  rw [present] at otherPresent
  cases otherPresent
  obtain ⟨disk, rest, opened, _, same⟩ := opens (.constant 0)
  obtain ⟨otherDisk, otherRest, otherOpened, _, otherSame⟩ :=
    otherOpens (.constant 0)
  rw [opened] at otherOpened
  cases otherOpened
  funext service
  rw [← same, otherSame]

/-- Only the file at the path matters. -/
theorem FileShows.congr {files other : Files} {path : Path}
    {password : SecureString} {entries : SecureString → Option Credentials}
    (shows : FileShows primitives files path password entries)
    (same : other path = files path) :
    FileShows primitives other path password entries := by
  obtain ⟨blob, present, opens⟩ := shows
  refine ⟨blob, same.trans present, ?_⟩
  intro clock
  rw [loadVault_congr .none same]
  exact opens clock

/-- A file that has just been written shows the vault it was made from. -/
theorem SealedBlob.fileShows {files : Files} {path : Path}
    {password : SecureString} {vault : Vault} {blob : SecureBytes}
    (encrypted : SealedBlob primitives password vault blob)
    (roundTrips : primitives.RoundTrips) (present : files path = some blob) :
    FileShows primitives files path password vault.credentials := by
  apply fileShows_of_open present
  intro clock
  exact ⟨_, _, encrypted.opens roundTrips clock,
    fun _ => Vault.credentials_restamp clock⟩

/-- The merge keeps the cached copy, or takes the one on disk where it is newer
or there is no cached one. -/
theorem MergedEntry.mine_or_disk {deletedServices : List SecureString}
    {service : SecureString} {disk mine merged : Option VaultEntry}
    (merge : MergedEntry deletedServices service disk mine merged) :
    merged = mine ∨ service ∉ deletedServices ∧ ∃ entry, disk = some entry ∧
      merged.map VaultEntry.credentials = some entry.credentials ∧
      ∀ cached, mine = some cached →
        cached.lastUpdated < entry.lastUpdated := by
  cases merge with
  | kept => exact .inl rfl
  | taken live onDisk absent restamps =>
      refine .inr ⟨live, _, onDisk, ?_, ?_⟩
      · rw [Option.map_some, restamps.credentials_eq]
      · rw [absent]
        intro cached impossible
        cases impossible
  | replaced live onDisk present newer =>
      refine .inr ⟨live, _, onDisk, rfl, ?_⟩
      rw [present]
      rintro cached ⟨⟩
      exact newer
  | retained _ _ present => exact .inl present.symm

theorem Request.apply_of_ne {request : Request} {service : SecureString}
    {entries : SecureString → Option Credentials}
    (other : request.target ≠ some service) :
    request.apply entries service = entries service := by
  cases request with
  | addEntry => exact if_neg fun same => other (congrArg some same)
  | updateEntry => exact if_neg fun same => other (congrArg some same)
  | deleteEntry => exact if_neg fun same => other (congrArg some same.symm)
  | save => rfl
  | rekey => rfl

/-! ## One call -/

/-- What a call that returns has done. -/
theorem outcome_returned {state : State} {call : Call}
    (returned : (SoleWriter.outcome primitives state call).result = .ok ()) :
    ∃ staged merged blob,
      Staging call.clock state.1 call.request staged ∧
      MergesTo primitives staged (state.2 state.1.vaultPath)
        (call.request.clockAfter call.clock) merged ∧
      SealedBlob primitives
        (call.request.nextPassword state.1.masterPassword) merged blob ∧
      (SoleWriter.outcome primitives state call).self =
        ⟨state.1.vaultPath,
          call.request.nextPassword state.1.masterPassword, merged, []⟩ ∧
      (SoleWriter.outcome primitives state call).storage.files
        state.1.vaultPath = some blob := by
  unfold SoleWriter.outcome at returned ⊢
  have executed := execute_cases primitives call.request call.env call.clock
    state.1 state.2
  generalize call.request.execute primitives call.env call.clock state.1
    (.start state.2) = outcome at returned executed ⊢
  cases executed with
  | rejected => cases returned
  | @ran self _ staging ended =>
      cases ended with
      | refused => cases returned
      | failed => cases returned
      | unkept => cases returned
      | returned merges encrypted replaced =>
          rw [staging.masterPassword_eq] at encrypted ⊢
          rw [staging.vaultPath_eq] at merges replaced ⊢
          cases replaced with
          | returned _ content =>
              exact ⟨self, _, _, staging, merges, encrypted, rfl, content⟩

/-- The vault that a call meets on disk, and what the merge makes of it. -/
theorem Tracks.merged_cases {state : State} {request : Request}
    {clock loadClock : Clock} {staged : VaultService} {merged : Vault}
    (tracks : Tracks primitives state)
    (staging : Staging clock state.1 request staged)
    (merges : MergesTo primitives staged (state.2 state.1.vaultPath)
      loadClock merged) :
    ∃ blob disk rest, state.2 state.1.vaultPath = some blob ∧
      openVaultBlob primitives none blob state.1.masterPassword loadClock =
        .ok (disk, rest) ∧
      state.Shows primitives disk.credentials ∧
      (∀ service, (disk.credentials service).isSome →
        (state.1.vault.getEntry service).isSome ∨
          service ∈ state.1.deletedServices) ∧
      ∀ service, MergedEntry staged.deletedServices service
        (disk.getEntry service) (staged.vault.getEntry service)
        (merged.getEntry service) := by
  obtain ⟨entries, shown, tracked⟩ := tracks
  obtain ⟨blob, present, opens⟩ := id shown
  obtain ⟨disk, rest, opened, _, same⟩ := opens loadClock
  have entriesEq : entries = disk.credentials :=
    funext fun service => (same service).symm
  subst entriesEq
  refine ⟨blob, disk, rest, present, opened, shown, tracked, ?_⟩
  intro service
  rcases merges.getEntry service with
    ⟨missing, _⟩ | ⟨other, otherDisk, otherRest, content, otherOpened, merge⟩
  · rw [present] at missing
    cases missing
  · rw [present] at content
    cases content
    rw [staging.masterPassword_eq, opened] at otherOpened
    cases otherOpened
    exact merge

/-- The merge changes nothing that the call has not asked for, if the file
agrees elsewhere and the clock is ahead. -/
theorem Staging.merged_credentials {clock : Clock}
    {self staged : VaultService} {request : Request} {disk merged : Vault}
    {service : SecureString}
    (staging : Staging clock self request staged)
    (merge : MergedEntry staged.deletedServices service
      (disk.getEntry service) (staged.vault.getEntry service)
      (merged.getEntry service))
    (agrees : request.target ≠ some service →
      self.vault.credentials service = disk.credentials service)
    (tracked : (disk.credentials service).isSome →
      (self.vault.getEntry service).isSome ∨ service ∈ self.deletedServices)
    (ahead : ∀ newUsername newPassword newTotpSecret entry,
      request =
        .updateEntry service newUsername newPassword newTotpSecret →
      service ∉ self.deletedServices → disk.getEntry service = some entry →
      request.apply self.vault.credentials service ≠
        some entry.credentials →
      entry.lastUpdated ≤ clock.stamp) :
    merged.credentials service =
      request.apply self.vault.credentials service := by
  rw [← staging.credentials_eq]
  rcases merge.mine_or_disk with
    mine | ⟨live, entry, onDisk, taken, newer⟩
  · exact Vault.credentials_congr mine
  · have shown : disk.credentials service = some entry.credentials := by
      rw [Vault.credentials, onDisk, Option.map_some]
    suffices unchanged :
        staged.vault.credentials service = some entry.credentials from
      Eq.trans taken unchanged.symm
    have effect := staging.credentials_eq service
    by_cases target : request.target = some service
    · cases staging with
      | added _ _ _ _ absent =>
          cases target
          rcases tracked (by simp [shown]) with cached | deleted
          · rw [absent] at cached
            cases cached
          · exact absurd deleted live
      | updated =>
          cases target
          have stampLt := newer _ (Vault.getEntry_store.trans (if_pos rfl))
          rw [effect]
          exact not_imp_comm.mp (ahead _ _ _ entry rfl live onDisk)
            (UInt64.not_le.mpr stampLt)
      | deleted =>
          cases target
          exact absurd (List.mem_append_right _ List.mem_cons_self) live
      | save => cases target
      | rekey => cases target
    · rw [effect, Request.apply_of_ne target, agrees target, shown]

/-- An update that took effect had the clock ahead. -/
theorem Tracks.clockAhead {state : State} {call : Call}
    {staged : VaultService} {merged : Vault}
    (tracks : Tracks primitives state)
    (staging : Staging call.clock state.1 call.request staged)
    (merges : MergesTo primitives staged (state.2 state.1.vaultPath)
      (call.request.clockAfter call.clock) merged)
    (effective : ∀ service, merged.credentials service =
      call.request.apply state.1.vault.credentials service) :
    ClockAhead primitives state call := by
  obtain ⟨blob, disk, rest, present, opened, _, _, merge⟩ :=
    tracks.merged_cases staging merges
  unfold ClockAhead
  split
  · next service newUsername newPassword newTotpSecret isUpdate =>
      intro live otherBlob otherDisk otherRest entry content otherOpened
        onDisk changes
      rw [present] at content
      cases content
      rw [isUpdate] at opened staging
      have sameRead :
          Except.ok (disk, rest) = Except.ok (otherDisk, otherRest) :=
        opened.symm.trans otherOpened
      cases sameRead
      have effect := effective service
      have merge := merge service
      cases staging with
      | updated =>
          rw [Vault.getEntry_store, if_pos rfl] at merge
          rcases merge.of_cached with
            ⟨found, foundEq, _, mergedEq⟩ | ⟨notSuperseded, _⟩
          · rw [onDisk] at foundEq
            cases foundEq
            rw [Vault.credentials, mergedEq, Option.map_some] at effect
            exact absurd effect.symm changes
          · apply UInt64.not_lt.mp
            intro stampLt
            exact notSuperseded entry onDisk ⟨live, stampLt⟩
  · trivial

/-- A call that returns takes effect if and only if memory and file agreed
elsewhere and the clock was ahead. -/
theorem Tracks.takesEffect_iff {state : State} {call : Call}
    (roundTrips : primitives.RoundTrips)
    (tracks : Tracks primitives state)
    (returned : (SoleWriter.outcome primitives state call).result = .ok ()) :
    TakesEffect primitives state call
        ((SoleWriter.outcome primitives state call).self,
          (SoleWriter.outcome primitives state call).storage.files) ↔
      Agrees primitives state call ∧ ClockAhead primitives state call := by
  obtain ⟨staged, merged, blob, staging, merges, encrypted, selfEq, content⟩ :=
    outcome_returned returned
  have written := encrypted.fileShows roundTrips content
  constructor
  · rintro ⟨cached, entries, shown, afterwards⟩
    rw [selfEq] at cached
    rw [SoleWriter.State.Shows, selfEq] at afterwards
    refine ⟨?_, tracks.clockAhead staging merges cached⟩
    intro others othersShown service other
    have fileEq := congrFun (afterwards.unique written) service
    rw [if_neg other, shown.unique othersShown] at fileEq
    have cachedEq := cached service
    rw [Request.apply_of_ne other] at cachedEq
    exact cachedEq.symm.trans fileEq.symm
  · rintro ⟨agrees, ahead⟩
    obtain ⟨blob, disk, rest, present, opened, shown, tracked, merge⟩ :=
      tracks.merged_cases staging merges
    have effective : ∀ service, merged.credentials service =
        call.request.apply state.1.vault.credentials service := by
      intro service
      apply staging.merged_credentials (merge service)
        (agrees _ shown service) (tracked service)
      intro newUsername newPassword newTotpSecret entry isUpdate live onDisk
        changes
      rw [ClockAhead, isUpdate] at ahead
      rw [isUpdate] at opened changes
      exact ahead live blob disk rest entry present opened onDisk changes
    refine ⟨?_, disk.credentials, shown, ?_⟩
    · intro service
      rw [selfEq]
      exact effective service
    · rw [SoleWriter.State.Shows, selfEq]
      have same : merged.credentials = fun service =>
          if call.request.target = some service then
            call.request.apply state.1.vault.credentials service
          else disk.credentials service := by
        funext service
        split
        · exact effective service
        · next other =>
            rw [effective, Request.apply_of_ne other,
              agrees _ shown service other]
      rw [← same]
      exact written

/-! ## Whole runs -/

/-- The constructor caches what the file shows. -/
theorem construct_shows {faults : LoadFaults} {path : Path}
    {password : SecureString} {files : Files} {clock : Clock}
    {service : VaultService}
    (constructed : VaultService.construct primitives faults path password
      files clock = .ok service) :
    State.Shows primitives (service, files) service.vault.credentials := by
  have fresh := construct_eq_ok constructed
  obtain ⟨blob, rest, present, opened⟩ := fresh.opened
  rw [SoleWriter.State.Shows, fresh.vaultPath_eq, fresh.masterPassword_eq]
  apply fileShows_of_open present
  intro otherClock
  obtain ⟨disk, otherRest, otherOpened, same⟩ :=
    openVaultBlob_credentials opened otherClock
  exact ⟨disk, otherRest, otherOpened, fun name => (same name).symm⟩

/-- What is shown is cached wherever memory and file are in step. -/
theorem tracks_of_shows {state : State}
    (inStep : state.Shows primitives state.1.vault.credentials) :
    Tracks primitives state := by
  refine ⟨state.1.vault.credentials, inStep, ?_⟩
  intro service shown
  rw [Vault.credentials, Option.isSome_map] at shown
  exact .inl shown

/-- Up to the lock, a call forgets a service only by deleting it. -/
theorem Staging.tracked {clock : Clock} {self staged : VaultService}
    {request : Request} {service : SecureString}
    (staging : Staging clock self request staged)
    (before : (self.vault.getEntry service).isSome ∨
      service ∈ self.deletedServices) :
    (staged.vault.getEntry service).isSome ∨
      service ∈ staged.deletedServices := by
  by_cases target : request.target = some service
  · cases staging with
    | added =>
        cases target
        exact .inl (by rw [Vault.getEntry_store, if_pos rfl]; rfl)
    | updated =>
        cases target
        exact .inl (by rw [Vault.getEntry_store, if_pos rfl]; rfl)
    | deleted =>
        cases target
        exact .inr (List.mem_append_right _ List.mem_cons_self)
    | save => exact before
    | rekey => exact before
  · obtain ⟨entryEq, deletedIff⟩ := staging.frame target
    rw [entryEq, deletedIff]
    exact before

/-- The merge takes over every service that was not deleted. -/
theorem MergedEntry.isSome {deletedServices : List SecureString}
    {service : SecureString} {disk mine merged : Option VaultEntry}
    (merge : MergedEntry deletedServices service disk mine merged)
    (live : service ∉ deletedServices) (onDisk : disk.isSome) :
    merged.isSome := by
  cases merge with
  | kept skipped =>
      rcases skipped with deleted | missing
      · exact absurd deleted live
      · rw [missing] at onDisk
        cases onDisk
  | taken => rfl
  | replaced => rfl
  | retained => rfl

/-- If the call is a `rekey`, its new password can be kept in memory. -/
def Call.KeepsPassword (call : Call) : Prop :=
  ∀ newMasterPassword, call.request = .rekey newMasterPassword →
    call.env.protect = none

/-- However a call ends, the instance keeps track of its file. -/
theorem Tracks.serve {state next : State} {call : Call}
    {result : Except DuckpassError Unit}
    (roundTrips : primitives.RoundTrips)
    (tracks : Tracks primitives state) (kept : call.KeepsPassword)
    (served : SoleWriter.serve primitives state call = some (next, result)) :
    Tracks primitives next := by
  cases served
  unfold SoleWriter.outcome
  have executed := execute_cases primitives call.request call.env call.clock
    state.1 state.2
  generalize call.request.execute primitives call.env call.clock state.1
    (.start state.2) = outcome at executed ⊢
  cases executed with
  | rejected => exact tracks
  | @ran self _ staging ended =>
      -- As long as the file is untouched, only the cached vault may differ.
      have unwritten : ∀ (vault : Vault) (storage : Storage) (entries),
          state.Shows primitives entries →
          Storage.Untouched self.vaultPath (.start state.2) storage →
          (∀ service, (entries service).isSome →
            (vault.getEntry service).isSome ∨
              service ∈ self.deletedServices) →
          Tracks primitives ({ self with vault := vault }, storage.files) := by
        intro vault storage entries shown untouched tracked
        refine ⟨entries, ?_, tracked⟩
        have same := untouched.now
        rw [staging.vaultPath_eq] at same
        rw [SoleWriter.State.Shows, staging.vaultPath_eq,
          staging.masterPassword_eq]
        exact shown.congr same
      cases ended with
      | refused vaultFile =>
          obtain ⟨entries, shown, tracked⟩ := tracks
          exact unwritten self.vault _ entries shown vaultFile
            fun service present => staging.tracked (tracked service present)
      | failed merges vaultFile =>
          rw [staging.vaultPath_eq] at merges
          obtain ⟨_, disk, _, _, _, shown, _, merge⟩ :=
            tracks.merged_cases staging merges
          apply unwritten _ _ disk.credentials shown vaultFile
          intro service present
          rw [Vault.credentials, Option.isSome_map] at present
          by_cases deleted : service ∈ self.deletedServices
          · exact .inr deleted
          · exact .inl ((merge service).isSome deleted present)
      | returned _ encrypted replaced =>
          cases replaced with
          | returned _ content =>
              exact tracks_of_shows (encrypted.fileShows roundTrips content)
      | unkept isRekey fault =>
          rw [kept _ isRekey] at fault
          cases fault

/-- The call is turned down by its checks or returns: it does not fail with
its change left in memory. -/
def Settles (primitives : Primitives) (state : State) (call : Call) : Prop :=
  (∃ error, call.request.stage call.clock state.1 = .error error) ∨
    (SoleWriter.outcome primitives state call).result = .ok ()

theorem Settles.serve_shows {state next : State} {call : Call}
    {result : Except DuckpassError Unit}
    (roundTrips : primitives.RoundTrips)
    (inStep : state.Shows primitives state.1.vault.credentials)
    (settles : Settles primitives state call)
    (served : SoleWriter.serve primitives state call = some (next, result)) :
    next.Shows primitives next.1.vault.credentials := by
  cases served
  rcases settles with ⟨error, rejected⟩ | returned
  · unfold SoleWriter.outcome
    rw [execute_eq, rejected]
    exact inStep
  · obtain ⟨_, _, _, _, _, encrypted, selfEq, content⟩ :=
      outcome_returned returned
    rw [SoleWriter.State.Shows, selfEq]
    exact encrypted.fileShows roundTrips content

/-- Memory and file disagree only after a call that failed in its save: in a
run without such calls the clock alone decides. -/
theorem settled_run_agrees (roundTrips : primitives.RoundTrips)
    {faults : LoadFaults} {path : Path} {password : SecureString}
    {files : Files} {clock : Clock} {service : VaultService}
    {calls : List Call} {state : State}
    {results : List (Except DuckpassError Unit)}
    (constructed : VaultService.construct primitives faults path password
      files clock = .ok service)
    (settled : Run.Along (SoleWriter.serve primitives) (Settles primitives)
      (service, files) calls)
    (finished : Run.run (SoleWriter.serve primitives) (service, files) calls =
      some (state, results)) (call : Call) :
    Agrees primitives state call := by
  have inStep : state.Shows primitives state.1.vault.credentials :=
    @Run.invariant _ _ _ (SoleWriter.serve primitives)
      (fun state => state.Shows primitives state.1.vault.credentials)
      (Settles primitives)
      (fun inStep now served => now.serve_shows roundTrips inStep served)
      _ _ _ _ (construct_shows constructed) settled finished
  intro entries shown other _
  exact congrFun (inStep.unique shown) other

/-! ## Main result -/

/-- One instance over its own file, after any sequence of calls, however they
ended and whatever the clock showed: the next call that returns takes effect as
on a finite map, in memory and for a fresh load of the file, if and only if
memory and file agree on every other service and the clock is ahead.  Calls of
`rekey` are allowed too if they can keep their new password. -/
theorem call_takes_effect_iff_clock_ahead
    (roundTrips : primitives.RoundTrips) {faults : LoadFaults} {path : Path}
    {password : SecureString} {files : Files} {clock : Clock}
    {service : VaultService} {calls : List Call} {state : State}
    {results : List (Except DuckpassError Unit)} {call : Call}
    (constructed : VaultService.construct primitives faults path password
      files clock = .ok service)
    (finished : Run.run (SoleWriter.serve primitives) (service, files) calls =
      some (state, results))
    (kept : ∀ call ∈ calls, call.KeepsPassword)
    (returned : (SoleWriter.outcome primitives state call).result = .ok ()) :
    TakesEffect primitives state call
        ((SoleWriter.outcome primitives state call).self,
          (SoleWriter.outcome primitives state call).storage.files) ↔
      Agrees primitives state call ∧ ClockAhead primitives state call := by
  have tracks : Tracks primitives state :=
    Run.invariant
      (fun tracks kept served => Tracks.serve roundTrips tracks kept served)
      (tracks_of_shows (construct_shows constructed))
      (Run.along_of_forall kept _) finished
  exact tracks.takesEffect_iff roundTrips returned

namespace SoleWriter

open Symbolic (calm masterPassword service entry)

/-- An instance on an empty vault. -/
def fresh : State :=
  (⟨Symbolic.path, masterPassword, Vault.empty, []⟩,
    Symbolic.files Vault.empty masterPassword)

theorem constructed : VaultService.construct Symbolic.primitives .none
    Symbolic.path masterPassword fresh.2 (.constant 5) = .ok fresh.1 := by
  have encrypted := Symbolic.encrypted Vault.empty masterPassword (by decide)
  have present : fresh.2 Symbolic.path =
      some (Symbolic.blob Vault.empty masterPassword) := by
    decide +kernel
  unfold VaultService.construct
  rw [loadVault_of_openVaultBlob present (by decide +kernel),
    encrypted.opens_stamped Symbolic.ideal.toRoundTrips .empty]
  rfl

def add (now : UInt64) : Call :=
  ⟨.addEntry service [1] [2] [], calm, .constant now⟩

def update (now : UInt64) : Call :=
  ⟨.updateEntry service none (some [3]) none, calm, .constant now⟩

/-- The state after one call. -/
def after (state : State) (call : Call) : State :=
  ((outcome Symbolic.primitives state call).self,
    (outcome Symbolic.primitives state call).storage.files)

theorem add_returned : (outcome Symbolic.primitives fresh (add 5)).result =
    .ok () := by
  decide +kernel

theorem add_finished : Run.run (serve Symbolic.primitives) fresh [add 5] =
    some (after fresh (add 5), [.ok ()]) := by
  rw [← add_returned]
  rfl

end SoleWriter

/-- The update of an entry that was added a second before. -/
theorem call_takes_effect_iff_clock_ahead_update :
    let state := SoleWriter.after SoleWriter.fresh (SoleWriter.add 5)
    TakesEffect Symbolic.primitives state (SoleWriter.update 6)
        (SoleWriter.after state (SoleWriter.update 6)) ↔
      Agrees Symbolic.primitives state (SoleWriter.update 6) ∧
        ClockAhead Symbolic.primitives state (SoleWriter.update 6) := by
  intro state
  have returned : (SoleWriter.outcome Symbolic.primitives state
      (SoleWriter.update 6)).result = .ok () := by
    decide +kernel
  have kept : ∀ call ∈ [SoleWriter.add 5], call.KeepsPassword := by
    rintro call member newMasterPassword isRekey
    rw [List.mem_singleton.mp member] at isRekey
    cases isRekey
  exact call_takes_effect_iff_clock_ahead Symbolic.ideal.toRoundTrips
    SoleWriter.constructed SoleWriter.add_finished kept returned

/-- The clock steps back from 9 to 5 between the two calls: the update returns,
and afterwards both the instance and the file have the old password. -/
theorem update_lost_when_clock_steps_back :
    let added := SoleWriter.after SoleWriter.fresh (SoleWriter.add 9)
    let updated := SoleWriter.after added (SoleWriter.update 5)
    (SoleWriter.outcome Symbolic.primitives added
        (SoleWriter.update 5)).result = .ok () ∧
      updated.1.getEntry Symbolic.service = some (Symbolic.entry 2 9) ∧
      Symbolic.entriesOnDisk updated.2 Symbolic.masterPassword
        (.constant 5) = some [Symbolic.entry 2 9] := by
  refine ⟨?_, ?_, ?_⟩
  · decide +kernel
  · decide +kernel
  · decide +kernel

end DuckPass
