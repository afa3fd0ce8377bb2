/-
Module: DuckPass.System.SharedVault
Purpose: Any number of `VaultService` instances, in any processes, over one
  vault file.  A call runs in two steps, since other instances may take the
  file lock while it waits for it.
Trusted boundary: `flock` serialises the halves of calls that run under the
  lock.
Main exports: Session, System, Event, Reply, System.step, System.run,
  Transition, step_cases, step_returned
-/
import DuckPass.Lib.Run
import DuckPass.Proofs.VaultService

namespace DuckPass

/-- The values that a call was given are among the credentials. -/
def Request.Carries (request : Request) (credentials : Credentials) : Prop :=
  match request with
  | addEntry _ username password totpSecret =>
      credentials = ⟨username, password, totpSecret⟩
  | updateEntry _ newUsername newPassword newTotpSecret =>
      newUsername.getD credentials.username = credentials.username ∧
        newPassword.getD credentials.password = credentials.password ∧
        newTotpSecret.getD credentials.totpSecret = credentials.totpSecret
  | _ => True

/-- The call writes an entry for the service. -/
def Request.Writes (request : Request) (service : SecureString) : Prop :=
  match request with
  | addEntry target _ _ _ => target = service
  | updateEntry target _ _ _ => target = service
  | _ => False

/-- What the half of a call before the lock has already done to its
instance. -/
structure Request.Staged (request : Request) (after : VaultService) :
    Prop where
  written : ∀ service, request.Writes service →
    ∃ entry, after.vault.getEntry service = some entry ∧
      request.Carries entry.credentials
  deleted : ∀ service, request = .deleteEntry service →
    after.vault.getEntry service = none ∧ service ∈ after.deletedServices
  rekeyed : ∀ newMasterPassword, request = .rekey newMasterPassword →
    newMasterPassword ≠ []

theorem getD_getD {given : Option SecureString} {value : SecureString} :
    given.getD (given.getD value) = given.getD value := by
  cases given <;> rfl

/-- What is staged for a request is in the cached vault. -/
theorem Staging.staged {clock : Clock} {self after : VaultService}
    {request : Request} (staging : Staging clock self request after) :
    request.Staged after := by
  cases staging with
  | added =>
      refine ⟨?_, by simp, by simp⟩
      rintro _ rfl
      exact ⟨_, Vault.getEntry_store.trans (if_pos rfl), rfl⟩
  | updated =>
      refine ⟨?_, by simp, by simp⟩
      rintro _ rfl
      exact ⟨_, Vault.getEntry_store.trans (if_pos rfl), getD_getD, getD_getD,
        getD_getD⟩
  | deleted =>
      refine ⟨by simp [Request.Writes], ?_, by simp⟩
      rintro _ ⟨⟩
      exact ⟨Vault.getEntry_removeEntry.trans (if_pos rfl),
        List.mem_append_right _ List.mem_cons_self⟩
  | save => exact ⟨by simp [Request.Writes], by simp, by simp⟩
  | rekey given =>
      refine ⟨by simp [Request.Writes], by simp, ?_⟩
      rintro _ ⟨⟩
      exact given

/-- `service` is fresh from the constructor: it caches what the file opens
to. -/
structure Constructed (primitives : Primitives) (path : Path)
    (masterPassword : SecureString) (files : Files) (clock : Clock)
    (service : VaultService) : Prop where
  vaultPath_eq : service.vaultPath = path
  masterPassword_eq : service.masterPassword = masterPassword
  deletedServices_eq : service.deletedServices = []
  opened : ∃ blob rest, files path = some blob ∧
    openVaultBlob primitives none blob masterPassword clock =
      .ok (service.vault, rest)

/-- A service that was constructed has loaded the file with its password. -/
theorem construct_eq_ok {primitives : Primitives} {faults : LoadFaults}
    {path : Path} {masterPassword : SecureString} {files : Files}
    {clock : Clock} {service : VaultService}
    (finished : VaultService.construct primitives faults path masterPassword
      files clock = .ok service) :
    Constructed primitives path masterPassword files clock service := by
  obtain ⟨⟨vault, rest⟩, loaded, same⟩ := bind_eq_ok.mp finished
  obtain ⟨blob, present, _, opened⟩ := loadVault_eq_ok loaded
  cases same
  exact ⟨rfl, rfl, rfl, blob, rest, present, opened⟩

/-- Staging does not touch the path. -/
theorem Staging.vaultPath_eq {clock : Clock} {self after : VaultService}
    {request : Request} (staging : Staging clock self request after) :
    after.vaultPath = self.vaultPath := by
  cases staging <;> rfl

/-- Nor does the locked section. -/
theorem LockedOutcome.vaultPath_eq {primitives : Primitives}
    {request : Request} {env : CommitEnv} {clock : Clock} {self : VaultService}
    {files : Files} {outcome : Outcome}
    (ended : LockedOutcome primitives request env clock self files outcome) :
    outcome.self.vaultPath = self.vaultPath := by
  cases ended <;> rfl

/-- An instance on the vault file at `path`, and the call it is inside of, if
any.  Such a call has done its half before the lock and waits for the lock. -/
structure Session (path : Path) where
  service : VaultService
  pending : Option Request
  onPath : service.vaultPath = path
  staged : ∀ request, pending = some request → request.Staged service

/-- The directory and the live instances. -/
structure System (path : Path) where
  files : Files
  sessions : Nat → Option (Session path)

/-- What can happen next.  The clock and fault records say how the calls into
the system go during the step. -/
inductive Event where
  | construct (id : Nat) (masterPassword : SecureString) (faults : LoadFaults)
      (clock : Clock)
  | call (id : Nat) (request : Request) (clock : Clock)
  | commit (id : Nat) (env : CommitEnv) (clock : Clock)
  | destroy (id : Nat)

/-- What the caller sees of the step. -/
inductive Reply where
  | constructed
  | waiting
  | returned
  | threw (error : DuckpassError)
  | destroyed
deriving Repr, Inhabited, DecidableEq

def Reply.ofResult : Except DuckpassError Unit → Reply
  | .ok () => .returned
  | .error error => .threw error

namespace System

variable {path : Path}

/-- No instance has been constructed yet. -/
def initial (path : Path) (files : Files) : System path :=
  ⟨files, fun _ => none⟩

/-- Replace the directory and one session. -/
def put (system : System path) (files : Files) (id : Nat)
    (session : Option (Session path)) : System path :=
  ⟨files, Function.update system.sessions id session⟩

/-- A process constructs an instance. -/
def construct (primitives : Primitives) (system : System path) (id : Nat)
    (masterPassword : SecureString) (faults : LoadFaults) (clock : Clock) :
    Option (System path × Reply) :=
  match system.sessions id with
  | some _ => none
  | none =>
      match finished : VaultService.construct primitives faults path
          masterPassword system.files clock with
      | .error error => some (system, .threw error)
      | .ok service =>
          let session : Session path :=
            ⟨service, none, (construct_eq_ok finished).vaultPath_eq, by simp⟩
          some (system.put system.files id (some session), .constructed)

/-- An idle instance is called, up to the lock. -/
def call (system : System path) (id : Nat) (request : Request)
    (clock : Clock) : Option (System path × Reply) :=
  match system.sessions id with
  | none => none
  | some session =>
      match session.pending with
      | some _ => none
      | none =>
          match finished : request.stage clock session.service with
          | .error error => some (system, .threw error)
          | .ok service =>
              let staging := stage_eq_ok finished
              let session : Session path :=
                ⟨service, some request,
                  staging.vaultPath_eq.trans session.onPath, by
                    intro other same
                    cases same
                    exact staging.staged⟩
              some (system.put system.files id (some session), .waiting)

/-- A waiting instance gets the lock and its call ends. -/
def commit (primitives : Primitives) (system : System path) (id : Nat)
    (env : CommitEnv) (clock : Clock) : Option (System path × Reply) :=
  match system.sessions id with
  | none => none
  | some session =>
      match session.pending with
      | none => none
      | some request =>
          let outcome := request.locked primitives env clock session.service
            (.start system.files)
          let ended := locked_cases primitives request env clock
            session.service system.files
          let session : Session path :=
            ⟨outcome.self, none, ended.vaultPath_eq.trans session.onPath,
              by simp⟩
          some (system.put outcome.storage.files id (some session),
            .ofResult outcome.result)

/-- The destructor runs, or the process ends while it waits for the lock. -/
def destroy (system : System path) (id : Nat) :
    Option (System path × Reply) :=
  match system.sessions id with
  | none => none
  | some _ => some (system.put system.files id none, .destroyed)

/-- One step, if it is possible in this state. -/
def step (primitives : Primitives) (system : System path) :
    Event → Option (System path × Reply)
  | .construct id masterPassword faults clock =>
      system.construct primitives id masterPassword faults clock
  | .call id request clock => system.call id request clock
  | .commit id env clock => system.commit primitives id env clock
  | .destroy id => system.destroy id

/-- A sequence of steps with the replies they got. -/
def run (primitives : Primitives) (system : System path)
    (events : List Event) : Option (System path × List Reply) :=
  Run.run (step primitives) system events

/-- Every event of a sequence meets the condition in the state it finds. -/
def Along (primitives : Primitives)
    (condition : System path → Event → Prop) (system : System path)
    (events : List Event) : Prop :=
  Run.Along (step primitives) condition system events

@[simp] theorem put_files (system : System path) (files : Files) (id : Nat)
    (session : Option (Session path)) :
    (system.put files id session).files = files := rfl

@[simp] theorem put_sessions_self (system : System path) (files : Files)
    (id : Nat) (session : Option (Session path)) :
    (system.put files id session).sessions id = session := by
  change Function.update system.sessions id session id = session
  rw [Function.update_self]

theorem put_sessions_of_ne (system : System path) (files : Files)
    {id other : Nat} (session : Option (Session path))
    (differs : other ≠ id) :
    (system.put files id session).sessions other = system.sessions other := by
  change Function.update system.sessions id session other = _
  rw [Function.update_of_ne differs]

/-- A session of the system is the one that was put in its place, or one that
was there under another number. -/
theorem put_sessions {system : System path} {files : Files} {id other : Nat}
    {session : Option (Session path)} {found : Session path}
    (present : (system.put files id session).sessions other = some found) :
    (other = id ∧ session = some found) ∨
      (other ≠ id ∧ system.sessions other = some found) := by
  by_cases same : other = id
  · subst same
    rw [put_sessions_self] at present
    exact .inl ⟨rfl, present⟩
  · rw [put_sessions_of_ne system files session same] at present
    exact .inr ⟨same, present⟩

/-- What all instances have they keep when one of them is replaced by one that
has it too. -/
theorem put_some_forall {system : System path} {files : Files} {id : Nat}
    {after : Session path} {property : Session path → Prop}
    (before : ∀ other found, system.sessions other = some found →
      property found) (new : property after) :
    ∀ other found,
      (system.put files id (some after)).sessions other = some found →
      property found := by
  intro other found present
  rcases put_sessions present with ⟨_, same⟩ | ⟨_, old⟩
  · cases same
    exact new
  · exact before other found old

/-- Whoever is there after an instance has gone was there before. -/
theorem put_none_sessions {system : System path} {files : Files}
    {id other : Nat} {found : Session path}
    (present : (system.put files id none).sessions other = some found) :
    system.sessions other = some found := by
  rcases put_sessions present with ⟨_, impossible⟩ | ⟨_, old⟩
  · cases impossible
  · exact old

end System

/-! ## Inversion of steps -/

/-- How the half under the lock can end, seen from the outside: what becomes of
the instance, of the vault file and its backup, and the reply. -/
inductive CommitEffect (primitives : Primitives) (path : Path)
    (request : Request) (env : CommitEnv) (clock : Clock) (self : VaultService)
    (files : Files) : VaultService → Files → Reply → Prop where
  | refused {after : Files} {error : DuckpassError}
      (vaultFile : after path = files path)
      (backupFile : after path.backup = files path.backup) :
      CommitEffect primitives path request env clock self files self after
        (.threw error)
  | failed {merged : Vault} {after : Files} {error : DuckpassError}
      (merges : MergesTo primitives self (files path) clock merged)
      (vaultFile : after path = files path) :
      CommitEffect primitives path request env clock self files
        { self with vault := merged } after (.threw error)
  | returned {merged : Vault} {blob : SecureBytes} {after : Files}
      (merges : MergesTo primitives self (files path) clock merged)
      (encrypted : SealedBlob primitives
        (request.nextPassword self.masterPassword) merged blob)
      (vaultFile : after path = some blob) :
      CommitEffect primitives path request env clock self files
        { vaultPath := self.vaultPath
          masterPassword := request.nextPassword self.masterPassword
          vault := merged
          deletedServices := [] } after .returned
  | unkept {newMasterPassword : SecureString} {merged : Vault}
      {blob : SecureBytes} {after : Files} {error : DuckpassError}
      (isRekey : request = .rekey newMasterPassword)
      (fault : env.protect = some error)
      (merges : MergesTo primitives self (files path) clock merged)
      (encrypted : SealedBlob primitives newMasterPassword merged blob)
      (vaultFile : after path = some blob) :
      CommitEffect primitives path request env clock self files
        { self with vault := merged } after (.threw error)

/-- The locked section of a request as a commit on the shared file. -/
theorem LockedOutcome.effect {primitives : Primitives} {request : Request}
    {env : CommitEnv} {clock : Clock} {self : VaultService} {files : Files}
    {outcome : Outcome} {path : Path}
    (ended : LockedOutcome primitives request env clock self files outcome)
    (onPath : self.vaultPath = path) :
    CommitEffect primitives path request env clock self files outcome.self
      outcome.storage.files (.ofResult outcome.result) := by
  subst onPath
  cases ended with
  | refused vaultFile backupFile => exact .refused vaultFile.now backupFile.now
  | failed merges vaultFile => exact .failed merges vaultFile.now
  | returned merges encrypted replaced =>
      cases replaced with
      | returned _ content => exact .returned merges encrypted content
  | unkept isRekey fault merges encrypted replaced =>
      cases replaced with
      | returned _ content =>
          exact .unkept isRekey fault merges encrypted content

/-- The vault file is as it was, or it is an encryption of the merged vault:
the call has returned, or is a `rekey` that could not keep the password. -/
theorem CommitEffect.file_cases {primitives : Primitives} {path : Path}
    {request : Request} {env : CommitEnv} {clock : Clock}
    {self service : VaultService} {files after : Files} {reply : Reply}
    (effect : CommitEffect primitives path request env clock self files service
      after reply) :
    after path = files path ∨
      ∃ merged blob,
        (reply = .returned ∨
          ∃ newMasterPassword error, request = .rekey newMasterPassword ∧
            env.protect = some error ∧ reply = .threw error) ∧
        MergesTo primitives self (files path) clock merged ∧
        SealedBlob primitives (request.nextPassword self.masterPassword)
          merged blob ∧
        after path = some blob := by
  cases effect with
  | refused vaultFile => exact .inl vaultFile
  | failed _ vaultFile => exact .inl vaultFile
  | returned merges encrypted vaultFile =>
      exact .inr ⟨_, _, .inl rfl, merges, encrypted, vaultFile⟩
  | unkept isRekey fault merges encrypted vaultFile =>
      subst isRekey
      exact .inr ⟨_, _, .inr ⟨_, _, rfl, fault, rfl⟩, merges, encrypted,
        vaultFile⟩

/-- What a step can do, with everything it has checked. -/
inductive Transition {path : Path} (primitives : Primitives)
    (system : System path) : Event → System path → Reply → Prop where
  | notConstructed {id : Nat} {masterPassword : SecureString}
      {faults : LoadFaults} {clock : Clock} {error : DuckpassError} :
      Transition primitives system (.construct id masterPassword faults clock)
        system (.threw error)
  | constructed {id : Nat} {masterPassword : SecureString}
      {faults : LoadFaults} {clock : Clock} {after : Session path}
      (free : system.sessions id = none)
      (fresh : Constructed primitives path masterPassword system.files clock
        after.service)
      (idle : after.pending = none) :
      Transition primitives system (.construct id masterPassword faults clock)
        (system.put system.files id (some after)) .constructed
  | rejected {id : Nat} {request : Request} {clock : Clock}
      {session : Session path} {error : DuckpassError}
      (present : system.sessions id = some session)
      (idle : session.pending = none)
      (failed : request.stage clock session.service = .error error) :
      Transition primitives system (.call id request clock) system
        (.threw error)
  | called {id : Nat} {request : Request} {clock : Clock}
      {session after : Session path}
      (present : system.sessions id = some session)
      (idle : session.pending = none)
      (staging : Staging clock session.service request after.service)
      (waits : after.pending = some request) :
      Transition primitives system (.call id request clock)
        (system.put system.files id (some after)) .waiting
  | committed {id : Nat} {env : CommitEnv} {clock : Clock}
      {request : Request} {session after : Session path}
      {service : VaultService} {files : Files} {reply : Reply}
      (present : system.sessions id = some session)
      (pending : session.pending = some request)
      (effect : CommitEffect primitives path request env clock session.service
        system.files service files reply)
      (service_eq : after.service = service)
      (idle : after.pending = none) :
      Transition primitives system (.commit id env clock)
        (system.put files id (some after)) reply
  | destroyed {id : Nat} {session : Session path}
      (present : system.sessions id = some session) :
      Transition primitives system (.destroy id)
        (system.put system.files id none) .destroyed

/-- Every step of the instances on one file is one of the transitions. -/
theorem step_cases {path : Path} {primitives : Primitives}
    {system next : System path} {event : Event} {reply : Reply}
    (stepped : system.step primitives event = some (next, reply)) :
    Transition primitives system event next reply := by
  cases event with
  | construct id masterPassword faults clock =>
      change system.construct primitives id masterPassword faults clock =
        some (next, reply) at stepped
      unfold System.construct at stepped
      split at stepped
      · cases stepped
      · next free =>
          split at stepped
          · cases stepped
            exact .notConstructed
          · next service finished =>
              cases stepped
              exact .constructed free (construct_eq_ok finished) rfl
  | call id request clock =>
      change system.call id request clock = some (next, reply) at stepped
      unfold System.call at stepped
      split at stepped
      · cases stepped
      · next session present =>
          split at stepped
          · cases stepped
          · next idle =>
              split at stepped
              · next error failed =>
                  cases stepped
                  exact .rejected present idle failed
              · next service finished =>
                  cases stepped
                  exact .called present idle (stage_eq_ok finished) rfl
  | commit id env clock =>
      change system.commit primitives id env clock = some (next, reply)
        at stepped
      unfold System.commit at stepped
      split at stepped
      · cases stepped
      · next session present =>
          split at stepped
          · cases stepped
          · next request pending =>
              cases stepped
              have ended := locked_cases primitives request env clock
                session.service system.files
              exact .committed present pending (ended.effect session.onPath)
                rfl rfl
  | destroy id =>
      change system.destroy id = some (next, reply) at stepped
      unfold System.destroy at stepped
      split at stepped
      · cases stepped
      · next session present =>
          cases stepped
          exact .destroyed present

/-- A commit that has returned has merged the file into the cached vault,
encrypted the result and written it. -/
theorem step_returned {path : Path} {primitives : Primitives}
    {system next : System path} {id : Nat} {env : CommitEnv} {clock : Clock}
    (returned : system.step primitives (.commit id env clock) =
      some (next, .returned)) :
    ∃ session request merged blob files after,
      system.sessions id = some session ∧
      session.pending = some request ∧
      MergesTo primitives session.service (system.files path) clock merged ∧
      SealedBlob primitives
        (request.nextPassword session.service.masterPassword) merged blob ∧
      files path = some blob ∧
      next = system.put files id (some after) ∧
      after.service = ⟨session.service.vaultPath,
        request.nextPassword session.service.masterPassword, merged, []⟩ := by
  cases step_cases returned with
  | @committed _ _ _ request session after _ files _ present pending effect
      service_eq _ =>
      cases effect with
      | @returned merged blob _ merges encrypted vaultFile =>
          exact ⟨session, request, merged, blob, files, after, present,
            pending, merges, encrypted, vaultFile, rfl, service_eq⟩

end DuckPass
