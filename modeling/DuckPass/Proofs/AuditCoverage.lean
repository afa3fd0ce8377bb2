/-
Module: DuckPass.Proofs.AuditCoverage
Purpose: For which vaults an offline audit returns a report over all entries,
  if the worker is there and answers in time, and which calls of the service
  lead to no others.
Trusted boundary: as for `DuckPass.System.EntropyPipes` and
  `DuckPass.Core.AuditEngine`, and the named properties of the primitives.
Main exports: Supported, Covers, audit_covers_iff, Event.Answerable,
  Preserves.answerable, reached_vaults_audited, long_password_not_audited
-/
import DuckPass.Proofs.AuditReport
import DuckPass.Proofs.EntropyEvaluator
import DuckPass.Proofs.Validity
import DuckPass.System.EntryInvariant
import DuckPass.System.SymbolicAudit

namespace DuckPass

variable {path : Path} {primitives : Primitives}

/-! ## One audit -/

/-- The worker and its dictionary are there, the worker answers in time, and
OpenSSL computes the hashes. -/
structure Supported (zxcvbn : Zxcvbn) (env : AuditEnv) (vault : Vault) :
    Prop where
  init : zxcvbn.init = true
  answered : ∀ index entry, vault.entries[index]? = some entry →
    Answered zxcvbn (env.calls index).exchange entry.password
  hashed : ∀ index, (env.calls index).sha256Fault = none

/-- The report has one result for each entry, in the order of the vault. -/
structure Covers (vault : Vault) (report : AuditReport) : Prop where
  entries : report.entries.map (fun result =>
      (result.service, result.username, result.lastUpdated)) =
    vault.entries.map fun entry =>
      (cString entry.service, cString entry.username, entry.lastUpdated)
  total : report.totalEntries = vault.entries.length

/-- The evaluator answers every password of the vault. -/
def Vault.Answerable (vault : Vault) : Prop :=
  ∀ entry ∈ vault.entries, DuckPass.Answerable entry.password

theorem covers_describedReport (env : AuditEnv) (config : AuditConfig)
    (vault : Vault) :
    Covers vault (describedReport env config vault.entries) where
  entries := by
    simp only [describedReport, finishedResults, List.map_map]
    change vault.entries.zipIdx.map
      ((fun entry => (cString entry.service, cString entry.username,
        entry.lastUpdated)) ∘ Prod.fst) = _
    rw [← List.map_map, List.zipIdx_map_fst]
  total := rfl

/-- An offline audit reports on the whole vault if and only if the evaluator
answers every password. -/
theorem audit_covers_iff {zxcvbn : Zxcvbn} {env : AuditEnv}
    {config : AuditConfig} {vault : Vault}
    (offline : config.checkOnline = false)
    (supported : Supported zxcvbn env vault) :
    (∃ report, runAudit env vault config = .ok report ∧
      Covers vault report) ↔ vault.Answerable := by
  have evaluated : ∀ index entry, vault.entries[index]? = some entry →
      ((∃ score, EntropyEvaluator.evaluate (env.calls index).exchange
        entry.password = .ok score) ↔ Answerable entry.password) :=
    fun index entry present => EntropyEvaluator.evaluate_eq_ok supported.init
      (supported.answered index entry present)
  constructor
  · rintro ⟨report, returned, _⟩ entry member
    obtain ⟨proceeds, _⟩ := runAudit_eq_ok.mp returned
    obtain ⟨index, present⟩ := List.mem_iff_getElem?.mp member
    have round := proceeds (entry, index)
      (List.mem_zipIdx_iff_getElem?.mpr present)
    exact (evaluated index entry present).mp round.evaluated
  · intro answerable
    refine ⟨_, runAudit_eq_ok.mpr ⟨?_, rfl⟩, covers_describedReport _ _ _⟩
    rintro ⟨entry, index⟩ member
    have present := List.mem_zipIdx_iff_getElem?.mp member
    constructor
    · exact (evaluated index entry present).mpr
        (answerable entry (List.mem_of_getElem? present))
    · exact supported.hashed index
    · simp [offline]

/-! ## Runs -/

theorem steady_answerable :
    Steady fun entry => DuckPass.Answerable entry.password := by
  intro before after restamps answerable
  cases restamps with
  | kept => exact answerable
  | filled => exact answerable

/-- A password that the call stores is answerable. -/
def Request.Answerable : Request → Prop
  | addEntry _ _ password _ => DuckPass.Answerable password
  | updateEntry _ _ newPassword _ =>
      ∀ password, newPassword = some password → DuckPass.Answerable password
  | _ => True

def Event.Answerable : Event → Prop
  | .call _ request _ => request.Answerable
  | _ => True

theorem Staging.answerable {clock : Clock} {self after : VaultService}
    {request : Request} (staging : Staging clock self request after)
    (answerable : self.vault.Answerable) (stored : request.Answerable) :
    after.vault.Answerable := by
  cases staging with
  | added => exact Vault.All.store answerable stored
  | @updated _ _ newPassword _ existing _ _ _ present =>
      apply Vault.All.store answerable
      cases newPassword with
      | none => exact answerable existing (Vault.mem_of_getEntry present)
      | some password => exact stored password rfl
  | deleted => exact Vault.All.removeEntry answerable
  | save => exact answerable
  | rekey => exact answerable

/-- Every step that stores no other password keeps all passwords answerable, in
every instance and in the file. -/
theorem Preserves.answerable {system : System path} {event : Event}
    (stored : event.Answerable) :
    Preserves Vault.Answerable
      (fun session => session.service.vault.Answerable) system event := by
  apply Preserves.all steady_answerable
  intro id request clock self after same answerable staging
  subst same
  exact staging.answerable answerable stored

theorem Initialized.answerable (ideal : primitives.Ideal) {files : Files}
    (initialized : Initialized primitives path files) :
    SharedInvariant primitives Vault.Answerable
      (fun session => session.service.vault.Answerable)
      (System.initial path files) := by
  obtain ⟨password, blob, content, encrypted⟩ := initialized.encrypted
  refine .of_encrypted ideal content encrypted
    (Vault.All.restamp steady_answerable ?_) ?_
  · intro entry impossible
    cases impossible
  · intro id session impossible
    cases impossible

/-! ## Main result -/

/-- The vault of an instance, after any run from the vault that `init` wrote, is
audited offline with one result for each entry if and only if the length of
every password is, in 32 bits, zero only for the empty password and no more than
the worker takes; and it is so if every password that was stored has such a
length. -/
theorem reached_vaults_audited (ideal : primitives.Ideal) {files : Files}
    (initialized : Initialized primitives path files) {events : List Event}
    {system : System path} {replies : List Reply}
    (finished : (System.initial path files).run primitives events =
      some (system, replies))
    {id : Nat} {session : Session path}
    (present : system.sessions id = some session) {zxcvbn : Zxcvbn}
    {env : AuditEnv} {config : AuditConfig}
    (offline : config.checkOnline = false)
    (supported : Supported zxcvbn env session.service.vault) :
    ((∃ report, runAudit env session.service.vault config = .ok report ∧
        Covers session.service.vault report) ↔
      session.service.vault.Answerable) ∧
    ((∀ event ∈ events, event.Answerable) →
      ∃ report, runAudit env session.service.vault config = .ok report ∧
        Covers session.service.vault report) := by
  have covers := audit_covers_iff offline supported
  refine ⟨covers, ?_⟩
  intro stored
  have reached := SharedInvariant.run ideal (initialized.answerable ideal)
    ((Run.along_of_forall stored _).mono fun _ _ now =>
      Preserves.answerable now) finished
  exact covers.mpr (reached.sessions id session present)

namespace AuditCoverage

open Symbolic (masterPassword calm)

/-- An instance is constructed and adds an account. -/
def events (password : SecureString) : List Event :=
  [.construct 0 masterPassword .none (.constant 5),
    .call 0 (.addEntry [0x73] [1] password []) (.constant 5),
    .commit 0 calm (.constant 5)]

def state (password : SecureString) : System Symbolic.path :=
  Run.reached (System.step Symbolic.primitives)
    (.initial Symbolic.path Validity.saved.2.files) (events password)

/-- One byte more than the worker takes. -/
def longPassword : SecureString :=
  List.replicate (EntropyWorker.maxLength + 1) 0x61

theorem supported (vault : Vault) :
    Supported Symbolic.zxcvbn (Symbolic.audit 5 false vault) vault where
  init := rfl
  answered _ _ present := Symbolic.answered_audit 5 false present
  hashed _ := rfl

end AuditCoverage

/-- An account that `add_entry` has stored makes every audit throw. -/
theorem long_password_not_audited :
    ¬ ∀ (events : List Event) (system : System Symbolic.path)
        (replies : List Reply) (id : Nat) (session : Session Symbolic.path)
        (zxcvbn : Zxcvbn) (env : AuditEnv) (config : AuditConfig),
      (System.initial Symbolic.path Validity.saved.2.files).run
        Symbolic.primitives events = some (system, replies) →
      system.sessions id = some session → config.checkOnline = false →
      Supported zxcvbn env session.service.vault →
      ∃ report, runAudit env session.service.vault config = .ok report ∧
        Covers session.service.vault report := by
  intro accepted
  have finished : (System.initial Symbolic.path Validity.saved.2.files).run
      Symbolic.primitives (AuditCoverage.events AuditCoverage.longPassword) =
        some (AuditCoverage.state AuditCoverage.longPassword,
          [.constructed, .waiting, .returned]) :=
    Run.run_reached (by decide +kernel)
  have observed : ((AuditCoverage.state
      AuditCoverage.longPassword).sessions 0).map (fun session =>
        session.service.vault.entries.map (·.password.length)) =
          some [EntropyWorker.maxLength + 1] := by
    decide +kernel
  obtain ⟨session, present, lengths⟩ := Option.map_eq_some_iff.mp observed
  have supported := AuditCoverage.supported session.service.vault
  have answerable := (audit_covers_iff rfl supported).mp
    (accepted _ _ _ _ _ _ _ {} finished present rfl supported)
  obtain ⟨entry, member, length⟩ := List.mem_map.mp
    (show EntropyWorker.maxLength + 1 ∈
        session.service.vault.entries.map (·.password.length) by
      rw [lengths]
      exact List.mem_cons_self)
  rcases answerable entry member with empty | ⟨_, taken⟩
  · rw [empty] at length
    cases length
  · rw [length] at taken
    revert taken
    decide

/-- An account with a password of eight bytes is audited. -/
theorem reached_vaults_audited_short :
    ∃ session,
      (AuditCoverage.state (textBytes "hunter22")).sessions 0 = some session ∧
      ∃ report,
        runAudit (Symbolic.audit 5 false session.service.vault)
          session.service.vault {} = .ok report ∧
        Covers session.service.vault report := by
  have finished : (System.initial Symbolic.path Validity.saved.2.files).run
      Symbolic.primitives (AuditCoverage.events (textBytes "hunter22")) =
        some (AuditCoverage.state (textBytes "hunter22"),
          [.constructed, .waiting, .returned]) :=
    Run.run_reached (by decide +kernel)
  have there : ((AuditCoverage.state (textBytes "hunter22")).sessions
      0).isSome := by
    decide +kernel
  obtain ⟨session, present⟩ := Option.isSome_iff_exists.mp there
  refine ⟨session, present, (reached_vaults_audited Symbolic.ideal
    Validity.initialized finished present rfl
    (AuditCoverage.supported session.service.vault)).2 ?_⟩
  intro event member
  simp only [AuditCoverage.events, List.mem_cons, List.not_mem_nil,
    or_false] at member
  rcases member with rfl | rfl | rfl
  · trivial
  · exact .inr (by decide)
  · trivial

end DuckPass
