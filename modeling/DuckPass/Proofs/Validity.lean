/-
Module: DuckPass.Proofs.Validity
Purpose: From the vault that `init` writes on, every entry in memory and in the
  vault file passes the checks of `add_entry`, though merges and loads check
  nothing, whatever fails and whoever calls.
Trusted boundary: as for `DuckPass.System.AgentSystem`, and the named
  properties of the primitives.
Main exports: VaultEntry.Valid, Vault.Valid, Preserves.valid,
  AgentSystem.valid_run, reachable_vaults_valid
-/
import DuckPass.Proofs.AgentHandling
import DuckPass.Proofs.DiskMirror
import DuckPass.System.EntryInvariant
import DuckPass.System.SymbolicAgent

namespace DuckPass

variable {path : Path} {primitives : Primitives} {library : Library}

/-! ## Valid entries -/

/-- What the checks of `add_entry` and `update_entry` ask of an entry, and the
time they give it. -/
structure VaultEntry.Valid (entry : VaultEntry) : Prop where
  service : entry.service ≠ []
  username : entry.username ≠ []
  password : entry.password ≠ []
  totpSecret : entry.totpSecret = [] ∨
    ∃ key, decodeBase32 entry.totpSecret = .ok key
  lastUpdated : entry.lastUpdated ≠ 0

/-- Every entry is valid. -/
def Vault.Valid (vault : Vault) : Prop :=
  ∀ entry ∈ vault.entries, entry.Valid

/-- The empty vault is valid. -/
theorem Vault.Valid.empty : Vault.empty.Valid := by
  intro entry member
  cases member

/-- A valid entry misses no time. -/
theorem VaultEntry.Valid.steady : Steady VaultEntry.Valid := by
  intro before after restamps valid
  rw [restamps.eq_of_stamped valid.lastUpdated]
  exact valid

/-! ## Calls -/

/-- A secret that passes is empty or decodes. -/
theorem checkTotpSecret_eq_ok {secret : SecureString}
    (checked : VaultService.checkTotpSecret secret = .ok ()) :
    secret = [] ∨ ∃ key, decodeBase32 secret = .ok key := by
  unfold VaultService.checkTotpSecret at checked
  split at checked
  · next empty => exact .inl (List.isEmpty_iff.mp empty)
  · obtain ⟨key, decoded, _⟩ := bind_eq_ok.mp checked
    exact .inr ⟨key, decoded⟩

/-- A field that is not given keeps a value that is not empty. -/
theorem getD_ne_nil {given : Option SecureString} {old : SecureString}
    (checked : given ≠ some []) (oldGiven : old ≠ []) :
    given.getD old ≠ [] := by
  cases given with
  | none => exact oldGiven
  | some value =>
      intro empty
      exact checked (congrArg some empty)

/-- A call that passes its checks leaves only valid entries behind. -/
theorem Staging.valid {clock : Clock} {self after : VaultService}
    {request : Request} (staging : Staging clock self request after)
    (valid : self.vault.Valid) (nonZero : clock.NonZero) :
    after.vault.Valid := by
  have stampSet : clock.stamp ≠ 0 := by
    rw [nonZero.stamp_eq]
    exact nonZero.time
  cases staging with
  | added serviceGiven usernameGiven passwordGiven secretValid =>
      apply Vault.All.store valid
      exact ⟨serviceGiven, usernameGiven, passwordGiven,
        checkTotpSecret_eq_ok secretValid, stampSet⟩
  | @updated service newUsername newPassword newTotpSecret existing
      usernameGiven passwordGiven secretValid present =>
      have before := valid existing (Vault.mem_of_getEntry present)
      have serviceGiven := before.service
      rw [Vault.service_of_getEntry present] at serviceGiven
      apply Vault.All.store valid
      constructor
      · exact serviceGiven
      · exact getD_ne_nil usernameGiven before.username
      · exact getD_ne_nil passwordGiven before.password
      · cases given : newTotpSecret with
        | none => exact before.totpSecret
        | some secret => exact checkTotpSecret_eq_ok (secretValid secret given)
      · exact stampSet
  | deleted => exact Vault.All.removeEntry valid
  | save => exact valid
  | rekey => exact valid

/-! ## Runs -/

/-- Every step whose clock is set keeps all entries valid, in every instance
and in the file. -/
theorem Preserves.valid {system : System path} {event : Event}
    (clockSet : event.ClockSet) :
    Preserves Vault.Valid (fun session => session.service.vault.Valid) system
      event := by
  apply Preserves.all VaultEntry.Valid.steady
  intro id request clock self after same valid staging
  subst same
  exact staging.valid valid clockSet

/-- No reading of the clock during the step is the epoch. -/
def AgentEvent.ClockSet : AgentEvent → Prop
  | .other event => event.ClockSet
  | .check _ => True
  | .request _ env _ => env.clock.NonZero
  | .resume _ clock _ => clock.NonZero
  | .shutdown => True

/-- The clock of the agent's event is that of the step inside. -/
theorem AgentEvent.Inner.clockSet {event : AgentEvent} {inner : Event}
    (consists : event.Inner inner) (clockSet : event.ClockSet) :
    inner.ClockSet := by
  cases consists with
  | other => exact clockSet
  | destroy => trivial
  | construct => exact clockSet
  | call => exact clockSet
  | commit => exact clockSet

/-- All entries are valid, in every instance and in the file. -/
def AllValid (primitives : Primitives) (system : System path) : Prop :=
  SharedInvariant primitives Vault.Valid
    (fun session => session.service.vault.Valid) system

/-- Every step of the agent keeps all vaults valid. -/
theorem AllValid.step (ideal : primitives.Ideal)
    {state next : AgentSystem path} {event : AgentEvent} {reply : AgentReply}
    (valid : AllValid primitives state.system) (clockSet : event.ClockSet)
    (stepped : state.step primitives library event = some (next, reply)) :
    AllValid primitives next.system := by
  rcases AgentSystem.step_system stepped with
    same | ⟨inner, answer, consists, innerStepped⟩
  · rw [same]
    exact valid
  · exact SharedInvariant.step ideal valid
      (.valid (consists.clockSet clockSet)) innerStepped

/-- So does a run. -/
theorem AllValid.run (ideal : primitives.Ideal)
    {state last : AgentSystem path} {events : List AgentEvent}
    {replies : List AgentReply} (valid : AllValid primitives state.system)
    (clocksSet : ∀ event ∈ events, event.ClockSet)
    (finished : state.run primitives library events = some (last, replies)) :
    AllValid primitives last.system :=
  @Run.invariant _ _ _ (AgentSystem.step primitives library)
    (fun state => AllValid primitives state.system)
    (fun _ event => event.ClockSet)
    (fun valid clockSet stepped => valid.step ideal clockSet stepped) _ _ _ _
    valid (Run.along_of_forall clocksSet _) finished

/-! ## The start -/

/-- The directory after `init`: `save_vault` of an empty vault, under a
password that is not empty, has returned. -/
structure Initialized (primitives : Primitives) (path : Path) (files : Files) :
    Prop where
  saved : ∃ (env : SealEnv) (faults : WriteFaults) (password : SecureString)
      (storage after : Storage),
    storage.files path = none ∧ password ≠ [] ∧
      saveVault primitives env faults path Vault.empty password true storage =
        (.ok (), after) ∧ files = after.files

/-- An initialized file holds the empty vault. -/
theorem Initialized.encrypted {files : Files}
    (initialized : Initialized primitives path files) :
    ∃ password blob, files path = some blob ∧
      SealedBlob primitives password Vault.empty blob := by
  obtain ⟨env, faults, password, storage, after, _, _, saved, rfl⟩ :=
    initialized.saved
  unfold saveVault at saved
  split at saved
  · cases saved
  · next blob encrypted =>
      have target :=
        writeFileAtomic_target faults path blob true storage
      rw [saved] at target
      cases target with
      | returned _ content =>
          exact ⟨password, blob, content,
            serializeAndEncryptVault_eq_ok encrypted⟩

/-- So all vaults are valid at the start. -/
theorem Initialized.allValid (ideal : primitives.Ideal) {files : Files}
    (initialized : Initialized primitives path files) :
    AllValid primitives (System.initial path files) := by
  obtain ⟨password, blob, content, encrypted⟩ := initialized.encrypted
  refine .of_encrypted ideal content encrypted
    (Vault.All.restamp VaultEntry.Valid.steady Vault.Valid.empty) ?_
  intro id session impossible
  cases impossible

/-! ## TOTP codes -/

/-- `generate_totp` with the service's arguments fails only if `decode_base32`
or HMAC does. -/
theorem generateTotp_ok {hmacSha1 : HmacSha1} {secret key : SecureString}
    {clock : Clock} (total : ∀ key message, hmacSha1 key message ≠ none)
    (decoded : decodeBase32 secret = .ok key) :
    ∃ answer, generateTotp hmacSha1 secret 0 30 6 clock = .ok answer := by
  have step : ¬ (30 : UInt32) = 0 := by decide
  have digits : ¬ ((6 : UInt32) < 6 ∨ (6 : UInt32) > 8) := by decide
  simp only [generateTotp, if_neg step, if_neg digits, decoded, bind,
    Except.bind, pure, Except.pure]
  split
  · next failed => exact absurd failed (total _ _)
  · exact ⟨_, rfl⟩

/-- `get_totp_code` on a vault of valid entries throws only for a service that
is absent or has no secret. -/
theorem getTotpCode_error {self : VaultService} {service : SecureString}
    {clock : Clock} {error : DuckpassError} (valid : self.vault.Valid)
    (total : ∀ key message, library.hmacSha1 key message ≠ none)
    (threw : self.getTotpCode library service clock = .error error) :
    ∀ entry, self.getEntry service = some entry → entry.totpSecret = [] := by
  intro entry found
  change self.vault.getEntry service = some entry at found
  rcases (valid entry (Vault.mem_of_getEntry found)).totpSecret with
    empty | ⟨key, decoded⟩
  · exact empty
  · obtain ⟨answer, computed⟩ :=
      @generateTotp_ok library.hmacSha1 _ _ clock total decoded
    unfold VaultService.getTotpCode at threw
    simp only [found, computed] at threw
    split at threw
    · next empty => exact List.isEmpty_iff.mp empty
    · cases threw

/-! ## Main result -/

/-- In every state that any number of instances and an agent reach from the
vault that `init` wrote: the entries in memory and in the file are valid, no
service name is there twice, and `get_totp_code` throws only for a service that
is absent or has no secret. -/
theorem reachable_vaults_valid (ideal : primitives.Ideal) {files : Files}
    {idleTimeoutSeconds : UInt32} {events : List AgentEvent}
    {state : AgentSystem path} {replies : List AgentReply}
    (initialized : Initialized primitives path files)
    (clocksSet : ∀ event ∈ events, event.ClockSet)
    (finished : (AgentSystem.initial path files idleTimeoutSeconds).run
      primitives library events = some (state, replies)) :
    (∀ id session, state.system.sessions id = some session →
        session.service.vault.Valid ∧
          (session.service.vault.entries.map VaultEntry.service).Nodup ∧
          ((∀ key message, library.hmacSha1 key message ≠ none) →
            ∀ service clock error,
              session.service.getTotpCode library service clock =
                .error error →
              ∀ entry, session.service.getEntry service = some entry →
                entry.totpSecret = [])) ∧
      Reads primitives (state.system.files path) fun disk =>
        disk.Valid ∧ (disk.entries.map VaultEntry.service).Nodup := by
  have valid : AllValid primitives state.system :=
    AllValid.run ideal (initialized.allValid ideal) clocksSet finished
  constructor
  · intro id session present
    have cached := valid.sessions id session present
    refine ⟨cached, session.service.vault.distinct, ?_⟩
    intro total service clock error threw
    exact getTotpCode_error cached total threw
  · intro blob password clock disk rest content opened
    exact ⟨valid.disk blob password clock disk rest content opened,
      disk.distinct⟩

namespace Validity

open Symbolic (masterPassword calm serveEnv)

/-- What `init` leaves behind in an empty directory. -/
def saved : Except DuckpassError Unit × Storage :=
  saveVault Symbolic.primitives calm.encrypt .none Symbolic.path Vault.empty
    masterPassword true (.start fun _ => none)

theorem initialized :
    Initialized Symbolic.primitives Symbolic.path saved.2.files := by
  have returned : saved.1 = .ok () := by rfl
  exact ⟨_, _, masterPassword, _, saved.2, rfl, nofun,
    Prod.ext returned rfl, rfl⟩

/-- A client unlocks the agent and adds an account through it. -/
def events : List AgentEvent :=
  [.request (serializePacket CommandOpcode.unlock.toByte
      (IpcClient.appendSecureString [] masterPassword)) (serveEnv 1 5) 0,
    .resume calm (.constant 5) 2,
    .request (serializePacket CommandOpcode.addEntry.toByte
      (IpcClient.addPayload ⟨[0x73], [1], [2], Symbolic.testSecret⟩))
      (serveEnv 3 6) 1,
    .resume calm (.constant 6) 4]

/-- The state that the events lead to. -/
def state : AgentSystem Symbolic.path :=
  Run.reached (AgentSystem.step Symbolic.primitives Symbolic.library)
    (.initial Symbolic.path saved.2.files 900) events

end Validity

/-- The account that was added through the agent is valid in the session. -/
theorem reachable_vaults_valid_added :
    ∃ session, Validity.state.system.sessions 0 = some session ∧
      session.service.vault.entries =
        [⟨[0x73], [1], [2], Symbolic.testSecret, 6⟩] ∧
      session.service.vault.Valid := by
  have observed : (Validity.state.system.sessions 0).map (fun session =>
      session.service.vault.entries) =
        some [⟨[0x73], [1], [2], Symbolic.testSecret, 6⟩] := by
    decide +kernel
  obtain ⟨session, present, seen⟩ := Option.map_eq_some_iff.mp observed
  have finished : (AgentSystem.initial Symbolic.path Validity.saved.2.files
      900).run Symbolic.primitives Symbolic.library Validity.events =
        some (Validity.state,
          [.waiting, .response AgentServer.acknowledgement, .waiting,
            .response AgentServer.acknowledgement]) :=
    Run.run_reached (by decide +kernel)
  have clocksSet : ∀ event ∈ Validity.events, event.ClockSet := by
    intro event member
    simp only [Validity.events, List.mem_cons, List.not_mem_nil,
      or_false] at member
    rcases member with rfl | rfl | rfl | rfl <;>
      exact Clock.nonZero_constant (by decide)
  have valid := reachable_vaults_valid Symbolic.ideal Validity.initialized
    clocksSet finished
  exact ⟨session, present, seen, (valid.1 0 session present).1⟩

end DuckPass
