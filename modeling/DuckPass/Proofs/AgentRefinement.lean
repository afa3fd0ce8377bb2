/-
Module: DuckPass.Proofs.AgentRefinement
Purpose: A call carried through the wire format, the handler and back does
  what the session does when it is called directly, for the C++ and the Rust
  client.
Trusted boundary: a connection on which both sides deliver; the primitives and
  library calls are arbitrary.
Main exports: AgentPeer.AgreesForCpp, AgentPeer.AgreesForDesktop,
  agent_path_agrees_with_direct_path
-/
import DuckPass.Proofs.AgentPeer
import DuckPass.Proofs.EntryCodec
import DuckPass.System.SymbolicAgent

namespace DuckPass

/-! ## The client of `ipc.cpp` -/

namespace AgentPeer

variable {peer : AgentPeer} {self : VaultService} {command : CommandOpcode}
  {payload : SecureBytes} {call : EntryCall}

/-- A request for one service parses to it. -/
theorem parseString_of_fits {str : SecureString}
    (fits : peer.Fits command (appendPrefixed [] str)) (text : String)
    (request : SecureString → AgentRequest) :
    parseString (appendPrefixed [] str) text request = request str :=
  parseString_appendPrefixed (short_of_appendPrefixed fits.request) text request

theorem answered_getEntry {service : SecureString}
    (unlocked : peer.agent.vaultService = some self)
    (fits : peer.Fits .getEntry (appendPrefixed [] service)) :
    peer.Answered .getEntry (appendPrefixed [] service)
      ⟨AgentServer.getEntryResponse self service, self, peer.storage⟩ :=
  answered unlocked fits (parseString_of_fits fits _ (.entry ∘ .getEntry))

theorem answered_getTotp {service : SecureString}
    (unlocked : peer.agent.vaultService = some self)
    (fits : peer.Fits .getTotp (appendPrefixed [] service)) :
    peer.Answered .getTotp (appendPrefixed [] service)
      ⟨AgentServer.getTotpResponse peer.library peer.env.clock self service,
        self, peer.storage⟩ :=
  answered unlocked fits (parseString_of_fits fits _ (.entry ∘ .getTotp))

/-- The direct call of `delete_entry`. -/
def directDelete (peer : AgentPeer) (self : VaultService)
    (service : SecureString) : Outcome :=
  self.deleteEntry peer.primitives peer.env.commit peer.env.clock service
    peer.storage

/-- The direct call of `add_entry`. -/
def directAdd (peer : AgentPeer) (self : VaultService) (entry : EntryData) :
    Outcome :=
  self.addEntry peer.primitives peer.env.commit peer.env.clock entry.service
    entry.username entry.password entry.totpSecret peer.storage

theorem answered_deleteEntry {service : SecureString}
    (unlocked : peer.agent.vaultService = some self)
    (fits : peer.Fits .deleteEntry (appendPrefixed [] service)) :
    peer.Answered .deleteEntry (appendPrefixed [] service)
      (AgentServer.outcomeServed (peer.directDelete self service)) :=
  answered unlocked fits (parseString_of_fits fits _ (.entry ∘ .deleteEntry))

theorem answered_addEntry {entry : EntryData}
    (unlocked : peer.agent.vaultService = some self)
    (fits : peer.Fits .addEntry (IpcClient.addPayload entry)) :
    peer.Answered .addEntry (IpcClient.addPayload entry)
      (AgentServer.outcomeServed (peer.directAdd self entry)) := by
  have request := fits.request
  rw [IpcClient.addPayload_eq] at request
  have parsed : parseCommand (some .addEntry) (IpcClient.addPayload entry) =
      .entry (.addEntry entry.service entry.username entry.password
        entry.totpSecret) := by
    simp only [parseCommand, IpcClient.addPayload_eq,
      AgentServer.extractAddPayload_fourStrings request]
  exact answered unlocked fits parsed

end AgentPeer

/-- The fields of an entry that travel. -/
def EntryData.ofEntry (entry : VaultEntry) : EntryData :=
  ⟨entry.service, entry.username, entry.password, entry.totpSecret⟩

/-- A refusal is not taken for success. -/
theorem AgentServer.refusal_status_ne_ok {status : ResponseStatus}
    (refused : status ≠ .ok) (text : SecureBytes) :
    (refusal status text).status ≠ ResponseStatus.ok.toByte := by
  cases status with
  | ok => exact absurd rfl refused
  | locked => exact fun same => by cases same
  | error => exact fun same => by cases same
  | notFound => exact fun same => by cases same

/-- The text of a refusal reaches the caller. -/
theorem IpcClient.errorText_refusal {status : ResponseStatus}
    {text : SecureBytes}
    (fits : (AgentServer.refusal status text).payload.length ≤ maxPayload)
    (outError : SecureBytes) :
    errorText outError (AgentServer.refusal status text).payload = text :=
  errorText_appendStr fits outError

namespace AgentPeer

variable {peer : AgentPeer} {self : VaultService}

/-- `get_entry` carried through the agent. -/
theorem getEntry_through_agent {service : SecureString}
    (unlocked : peer.agent.vaultService = some self)
    (fits : peer.Fits .getEntry (IpcClient.appendSecureString [] service))
    (outError : SecureBytes) :
    IpcClient.getEntry peer.connection service outError =
      (self.getEntry service).elim
        (Except.error (textBytes "Entry not found."))
        (fun entry => Except.ok (EntryData.ofEntry entry)) := by
  have answered := answered_getEntry unlocked fits
  have small := answered.fits
  have exchanged := answered.exchange "Failed to send get request."
  unfold IpcClient.getEntry IpcClient.appendSecureString
  rw [exchanged]
  simp only [bind, Except.bind]
  unfold AgentServer.getEntryResponse at small ⊢
  cases found : self.getEntry service with
  | none =>
      simp only [found] at small ⊢
      rw [if_neg (AgentServer.refusal_status_ne_ok (by simp) _)]
      exact congrArg Except.error (IpcClient.errorText_refusal small outError)
  | some entry =>
      simp only [found, AgentServer.entryPayload_eq] at small ⊢
      rw [if_true, IpcClient.extractEntry_fourStrings small]
      rfl

/-- The answer to a writing call is read as its result. -/
theorem acknowledged_outcome {outcome : Outcome}
    (small : (AgentServer.outcomeServed outcome).response.payload.length ≤
      maxPayload) (outError : SecureBytes) :
    IpcClient.acknowledged outError
      ((AgentServer.outcomeServed outcome).response.status,
        (AgentServer.outcomeServed outcome).response.payload) =
      outcome.result.mapError DuckpassError.what := by
  unfold AgentServer.outcomeServed at small ⊢
  cases ended : outcome.result with
  | ok done => rfl
  | error error =>
      simp only [ended] at small ⊢
      rw [IpcClient.acknowledged,
        if_neg (AgentServer.refusal_status_ne_ok (by simp) _)]
      exact congrArg Except.error (IpcClient.errorText_refusal small outError)

/-- `add_entry` carried through the agent. -/
theorem addEntry_through_agent {entry : EntryData}
    (unlocked : peer.agent.vaultService = some self)
    (fits : peer.Fits .addEntry (IpcClient.addPayload entry))
    (outError : SecureBytes) :
    IpcClient.addEntry peer.connection entry outError =
      (peer.directAdd self entry).result.mapError DuckpassError.what := by
  have answered := answered_addEntry unlocked fits
  unfold IpcClient.addEntry
  rw [answered.exchange]
  exact acknowledged_outcome answered.fits outError

/-- `delete_entry` carried through the agent. -/
theorem deleteEntry_through_agent {service : SecureString}
    (unlocked : peer.agent.vaultService = some self)
    (fits : peer.Fits .deleteEntry (IpcClient.appendSecureString [] service))
    (outError : SecureBytes) :
    IpcClient.deleteEntry peer.connection service outError =
      (peer.directDelete self service).result.mapError DuckpassError.what := by
  have answered := answered_deleteEntry unlocked fits
  unfold IpcClient.deleteEntry IpcClient.appendSecureString
  rw [answered.exchange]
  exact acknowledged_outcome answered.fits outError

/-- `get_totp` carried through the agent. -/
theorem getTotp_through_agent {service : SecureString}
    (unlocked : peer.agent.vaultService = some self)
    (fits : peer.Fits .getTotp (IpcClient.appendSecureString [] service))
    (outError : SecureBytes) :
    IpcClient.getTotp peer.connection service outError =
      ((self.getTotpCode peer.library service peer.env.clock).map fun answer =>
        TotpResult.mk answer.1 answer.2).mapError DuckpassError.what := by
  have answered := answered_getTotp unlocked fits
  have small := answered.fits
  have exchanged := answered.exchange "Failed to send TOTP request."
  unfold IpcClient.getTotp IpcClient.appendSecureString
  rw [exchanged]
  simp only [bind, Except.bind]
  unfold AgentServer.getTotpResponse at small ⊢
  cases computed :
      self.getTotpCode peer.library service peer.env.clock with
  | error error =>
      simp only [computed] at small ⊢
      rw [if_neg (AgentServer.refusal_status_ne_ok (by simp) _)]
      exact congrArg Except.error (IpcClient.errorText_refusal small outError)
  | ok answer =>
      simp only [computed] at small ⊢
      rw [if_true]
      exact congrArg Except.ok (IpcClient.extractTotp_payload small)

end AgentPeer

/-! ## The Rust client -/

theorem DesktopClient.Status.ofByte_ok :
    ofByte ResponseStatus.ok.toByte = .ok .ok := rfl

/-- The four strings as bytes. -/
def DesktopClient.EntryDetail.data (entry : DesktopClient.EntryDetail) :
    EntryData :=
  ⟨entry.service.val, entry.username.val, entry.password.val,
    entry.totpSecret.val⟩

/-- A code and the seconds left, as bytes. -/
def DesktopClient.Totp.result (totp : DesktopClient.Totp) : TotpResult :=
  ⟨totp.code.val, totp.remainingSeconds⟩

/-- Every field of the entry is valid UTF-8. -/
structure EntryData.Utf8 (entry : EntryData) : Prop where
  service : validUtf8 entry.service = true
  username : validUtf8 entry.username = true
  password : validUtf8 entry.password = true
  totpSecret : validUtf8 entry.totpSecret = true

/-- The Rust client sends the same payload as the one of `ipc.cpp`. -/
theorem DesktopClient.addEntry_payload (entry : DesktopClient.EntryDetail) :
    appendString (appendString (appendString (appendString [] entry.service)
      entry.username) entry.password) entry.totpSecret =
      IpcClient.addPayload entry.data := rfl

namespace AgentPeer

variable {peer : AgentPeer} {self : VaultService}

/-- `get_entry` of the Rust client. -/
theorem desktopGetEntry_through_agent {service : Utf8String}
    (unlocked : peer.agent.vaultService = some self)
    (fits : peer.Fits .getEntry (DesktopClient.appendString [] service))
    (valid : ∀ entry, self.getEntry service.val = some entry →
      (EntryData.ofEntry entry).Utf8) (failure : IoError) :
    (DesktopClient.getEntry peer.connection failure service).toOption.map
        DesktopClient.EntryDetail.data =
      (self.getEntry service.val).map EntryData.ofEntry := by
  have answered := answered_getEntry unlocked fits
  have small := answered.fits
  unfold DesktopClient.getEntry DesktopClient.appendString
  cases found : self.getEntry service.val with
  | none =>
      simp only [AgentServer.getEntryResponse, found] at answered
      have known : DesktopClient.Status.ofByte
        ResponseStatus.notFound.toByte = .ok .notFound := rfl
      rw [answered.exchangePacket known]
      rfl
  | some entry =>
      simp only [AgentServer.getEntryResponse, found,
        AgentServer.entryPayload_eq] at answered small
      obtain ⟨validS, validU, validP, validT⟩ := valid entry found
      obtain ⟨first, second, third, fourth, readS, readU, readP, readT⟩ :=
        DesktopClient.extractString_fourStrings (s := ⟨_, validS⟩)
          (u := ⟨_, validU⟩) (p := ⟨_, validP⟩) (t := ⟨_, validT⟩) small
      rw [answered.exchangePacket DesktopClient.Status.ofByte_ok]
      simp only [EntryData.ofEntry] at readS readU readP readT
      simp only [bind, Except.bind, readS, readU, readP, readT]
      rfl

/-- What the Rust client makes of an answer to a writing call: the same success
or failure. -/
theorem Answered.exchangePacket_outcome {command : CommandOpcode}
    {payload : SecureBytes} {outcome : Outcome}
    (answered : peer.Answered command payload
      (AgentServer.outcomeServed outcome)) (failure : IoError) :
    (outcome.result = .ok () ∧
      DesktopClient.exchangePacket peer.connection failure command payload =
        .ok (.ok, [])) ∨
    ∃ error, outcome.result = .error error ∧
      DesktopClient.exchangePacket peer.connection failure command payload =
        .ok (.error, AgentServer.appendStr [] error.what) := by
  unfold AgentServer.outcomeServed at answered
  cases ended : outcome.result with
  | ok done =>
      simp only [ended] at answered
      exact .inl ⟨rfl, answered.exchangePacket rfl failure⟩
  | error error =>
      simp only [ended] at answered
      exact .inr ⟨error, rfl, answered.exchangePacket rfl failure⟩

/-- `add_entry` of the Rust client. -/
theorem desktopAddEntry_through_agent {entry : DesktopClient.EntryDetail}
    (unlocked : peer.agent.vaultService = some self)
    (fits : peer.Fits .addEntry (IpcClient.addPayload entry.data))
    (failure : IoError) :
    (DesktopClient.addEntry peer.connection failure entry).toOption =
      (peer.directAdd self entry.data).result.toOption := by
  have answered := answered_addEntry unlocked fits
  unfold DesktopClient.addEntry
  simp only [DesktopClient.addEntry_payload]
  rcases answered.exchangePacket_outcome failure with
    ⟨succeeded, exchanged⟩ | ⟨error, failed, exchanged⟩
  · rw [exchanged, succeeded]
    rfl
  · rw [exchanged, failed]
    rfl

/-- `delete_entry` of the Rust client. -/
theorem desktopDeleteEntry_through_agent {service : Utf8String}
    (unlocked : peer.agent.vaultService = some self)
    (fits : peer.Fits .deleteEntry (DesktopClient.appendString [] service))
    (failure : IoError) :
    (DesktopClient.deleteEntry peer.connection failure service).toOption =
      (peer.directDelete self service.val).result.toOption := by
  have answered := answered_deleteEntry unlocked fits
  unfold DesktopClient.deleteEntry DesktopClient.appendString
  rcases answered.exchangePacket_outcome failure with
    ⟨succeeded, exchanged⟩ | ⟨error, failed, exchanged⟩
  · rw [exchanged, succeeded]
    rfl
  · rw [exchanged, failed]
    rfl

/-- `get_totp` of the Rust client. -/
theorem desktopGetTotp_through_agent {service : Utf8String}
    (unlocked : peer.agent.vaultService = some self)
    (fits : peer.Fits .getTotp (DesktopClient.appendString [] service))
    (valid : ∀ code remaining,
      self.getTotpCode peer.library service.val peer.env.clock =
        .ok (code, remaining) → validUtf8 code = true) (failure : IoError) :
    (DesktopClient.getTotp peer.connection failure service).toOption.map
        DesktopClient.Totp.result =
      ((self.getTotpCode peer.library service.val peer.env.clock).map
        fun answer => TotpResult.mk answer.1 answer.2).toOption := by
  have answered := answered_getTotp unlocked fits
  have small := answered.fits
  unfold DesktopClient.getTotp DesktopClient.appendString
  cases computed :
      self.getTotpCode peer.library service.val peer.env.clock with
  | error error =>
      simp only [AgentServer.getTotpResponse, computed] at answered
      have known : DesktopClient.Status.ofByte
        ResponseStatus.error.toByte = .ok .error := rfl
      rw [answered.exchangePacket known]
      rfl
  | ok answer =>
      obtain ⟨code, remaining⟩ := answer
      simp only [AgentServer.getTotpResponse, computed] at answered small
      have read := @DesktopClient.extractString_totpPayload
        ⟨code, valid code remaining computed⟩ remaining small
      have word := ntohlAt_totpPayload code remaining
      unfold totpPayload at read word
      rw [answered.exchangePacket DesktopClient.Status.ofByte_ok]
      simp only [bind, Except.bind, AgentServer.appendStr, read,
        DesktopClient.extractU32, word]
      rfl

/-! ## The agent path and the direct path -/

theorem outcomeServed_leaves {command : CommandOpcode} {payload : SecureBytes}
    {outcome : Outcome}
    (answered : peer.Answered command payload
      (AgentServer.outcomeServed outcome)) :
    peer.Leaves command payload outcome.self outcome.storage := by
  have leaves := answered.leaves
  rwa [AgentServer.outcomeServed_service,
    AgentServer.outcomeServed_storage] at leaves

/-- The client of `ipc.cpp` gets the results of the direct calls, texts of
exceptions included, and the session and the directory end up the same. -/
structure AgreesForCpp (peer : AgentPeer) (session : VaultService) : Prop where
  getEntry : ∀ service outError,
    peer.Fits .getEntry (IpcClient.appendSecureString [] service) →
    IpcClient.getEntry peer.connection service outError =
        (session.getEntry service).elim
          (Except.error (textBytes "Entry not found."))
          (fun entry => Except.ok (EntryData.ofEntry entry)) ∧
      peer.Leaves .getEntry (IpcClient.appendSecureString [] service) session
        peer.storage
  addEntry : ∀ entry outError,
    peer.Fits .addEntry (IpcClient.addPayload entry) →
    IpcClient.addEntry peer.connection entry outError =
        (peer.directAdd session entry).result.mapError DuckpassError.what ∧
      peer.Leaves .addEntry (IpcClient.addPayload entry)
        (peer.directAdd session entry).self
        (peer.directAdd session entry).storage
  deleteEntry : ∀ service outError,
    peer.Fits .deleteEntry (IpcClient.appendSecureString [] service) →
    IpcClient.deleteEntry peer.connection service outError =
        (peer.directDelete session service).result.mapError DuckpassError.what ∧
      peer.Leaves .deleteEntry (IpcClient.appendSecureString [] service)
        (peer.directDelete session service).self
        (peer.directDelete session service).storage
  getTotp : ∀ service outError,
    peer.Fits .getTotp (IpcClient.appendSecureString [] service) →
    IpcClient.getTotp peer.connection service outError =
        ((session.getTotpCode peer.library service peer.env.clock).map
          fun answer => TotpResult.mk answer.1 answer.2).mapError
            DuckpassError.what ∧
      peer.Leaves .getTotp (IpcClient.appendSecureString [] service) session
        peer.storage

/-- The Rust client gets the values of the direct calls and fails when they
do. -/
structure AgreesForDesktop (peer : AgentPeer) (session : VaultService) :
    Prop where
  getEntry : ∀ (service : Utf8String) failure,
    peer.Fits .getEntry (DesktopClient.appendString [] service) →
    (∀ entry, session.getEntry service.val = some entry →
      (EntryData.ofEntry entry).Utf8) →
    (DesktopClient.getEntry peer.connection failure service).toOption.map
        DesktopClient.EntryDetail.data =
      (session.getEntry service.val).map EntryData.ofEntry
  addEntry : ∀ (entry : DesktopClient.EntryDetail) failure,
    peer.Fits .addEntry (IpcClient.addPayload entry.data) →
    (DesktopClient.addEntry peer.connection failure entry).toOption =
      (peer.directAdd session entry.data).result.toOption
  deleteEntry : ∀ (service : Utf8String) failure,
    peer.Fits .deleteEntry (DesktopClient.appendString [] service) →
    (DesktopClient.deleteEntry peer.connection failure service).toOption =
      (peer.directDelete session service.val).result.toOption
  getTotp : ∀ (service : Utf8String) failure,
    peer.Fits .getTotp (DesktopClient.appendString [] service) →
    (∀ code remaining,
      session.getTotpCode peer.library service.val peer.env.clock =
        .ok (code, remaining) → validUtf8 code = true) →
    (DesktopClient.getTotp peer.connection failure service).toOption.map
        DesktopClient.Totp.result =
      ((session.getTotpCode peer.library service.val peer.env.clock).map
        fun answer => TotpResult.mk answer.1 answer.2).toOption

end AgentPeer

/-- Reading, adding, deleting and TOTP codes through an unlocked agent agree
with the direct calls on its session, for both clients. -/
theorem agent_path_agrees_with_direct_path {peer : AgentPeer}
    {self : VaultService} (unlocked : peer.agent.vaultService = some self) :
    peer.AgreesForCpp self ∧ peer.AgreesForDesktop self := by
  constructor
  · constructor
    · intro service outError fits
      exact ⟨AgentPeer.getEntry_through_agent unlocked fits outError,
        (AgentPeer.answered_getEntry unlocked fits).leaves⟩
    · intro entry outError fits
      exact ⟨AgentPeer.addEntry_through_agent unlocked fits outError,
        AgentPeer.outcomeServed_leaves
          (AgentPeer.answered_addEntry unlocked fits)⟩
    · intro service outError fits
      exact ⟨AgentPeer.deleteEntry_through_agent unlocked fits outError,
        AgentPeer.outcomeServed_leaves
          (AgentPeer.answered_deleteEntry unlocked fits)⟩
    · intro service outError fits
      exact ⟨AgentPeer.getTotp_through_agent unlocked fits outError,
        (AgentPeer.answered_getTotp unlocked fits).leaves⟩
  · constructor
    · intro service failure fits valid
      exact AgentPeer.desktopGetEntry_through_agent unlocked fits valid failure
    · intro entry failure fits
      exact AgentPeer.desktopAddEntry_through_agent unlocked fits failure
    · intro service failure fits
      exact AgentPeer.desktopDeleteEntry_through_agent unlocked fits failure
    · intro service failure fits valid
      exact AgentPeer.desktopGetTotp_through_agent unlocked fits valid failure

namespace Symbolic

/-- An agent with one account in its session, over the vault file of that
account. -/
def peer : AgentPeer where
  primitives := primitives
  library := library
  env := serveEnv 5 9
  agent := unlockedAgent 900 oneEntry 0
  storage := ⟨files oneEntry masterPassword, []⟩

end Symbolic

/-- The account is shown as it is in the session, and an entry without a user
name is refused with the text of the exception. -/
theorem agent_path_agrees_with_direct_path_oneEntry :
    IpcClient.getEntry Symbolic.peer.connection Symbolic.service [] =
        .ok ⟨Symbolic.service, [1], [0x41], []⟩ ∧
      IpcClient.addEntry Symbolic.peer.connection ⟨[0x74], [], [2], []⟩ [] =
        .error (textBytes "Username cannot be empty.") := by
  have agrees := (@agent_path_agrees_with_direct_path Symbolic.peer
    (Symbolic.session Symbolic.oneEntry) rfl).1
  constructor
  · refine (agrees.getEntry Symbolic.service [] ⟨by decide, ?_⟩).1.trans rfl
    intro response answered
    cases answered
    decide
  · refine (agrees.addEntry ⟨[0x74], [], [2], []⟩ [] ⟨by decide, ?_⟩).1.trans
      (by decide)
    intro response answered
    cases answered
    decide

end DuckPass
