/-
Module: DuckPass.Proofs.CommandRefinement
Purpose: Every run of the subcommands, with and without an agent, is a run of
  the store of accounts that the program is for: what is printed is what the
  store answers, and what is on the disk afterwards is what the store holds.
Trusted boundary: the named properties of the primitives and of the sort; every
  packet is within the limit.
Main exports: Matched, Host.step_matched, commands_refine_store
-/
import DuckPass.Lib.Simulation
import DuckPass.Proofs.CommandSessions
import DuckPass.Proofs.FuzzyListing

namespace DuckPass

/-! ## Packets within the limit -/

/-- The request that the command sends once the session is open. -/
def CommandLine.call : CommandLine → Option EntryCall
  | add name username entered _ =>
      entered.read.map fun password => .addEntry name username password []
  | get name _ _ => some (.getEntry name)
  | list query _ => some (.listEntries query)
  | delete name _ => some (.deleteEntry name)
  | otp serviceName _ _ => some (.getTotp serviceName)
  | _ => none

/-- The password with which the command may unlock the agent. -/
def CommandLine.opensWith : CommandLine → Option SecureString
  | agentUnlock masterPassword => some masterPassword
  | line => line.unlocksWith

/-- The password that may unlock the agent is the one for the file. -/
theorem CommandLine.opensWith_of_unlocksWith {line : CommandLine}
    {masterPassword : SecureString}
    (asks : line.unlocksWith = some masterPassword) :
    line.opensWith = some masterPassword := by
  cases line with
  | agentUnlock => cases asks
  | _ => exact asks

/-- Whatever packets a command exchanges with the agent are within the
limit. -/
structure CommandLine.Fits (primitives : Primitives) (library : Library)
    (path : Path) (host : Host) (line : CommandLine) (env : CommandEnv) :
    Prop where
  unlock : ∀ masterPassword, line.opensWith = some masterPassword →
    host.UnlockFits primitives library path env masterPassword
  request : ∀ masterPassword call, line.unlocksWith = some masterPassword →
    line.call = some call →
      (host.openSession primitives library path env masterPassword).2.Fits
        primitives library path env.request call.opcode call.payload

instance (primitives : Primitives) (library : Library) (path : Path)
    (host : Host) (line : CommandLine) (env : CommandEnv) :
    Decidable (line.Fits primitives library path host env) :=
  decidable_of_iff
    ((∀ masterPassword ∈ line.opensWith,
        host.UnlockFits primitives library path env masterPassword) ∧
      ∀ masterPassword ∈ line.unlocksWith, ∀ call ∈ line.call,
        (host.openSession primitives library path env masterPassword).2.Fits
          primitives library path env.request call.opcode call.payload)
    ⟨fun ⟨unlock, request⟩ =>
        ⟨unlock, fun masterPassword call asks =>
          request masterPassword asks call⟩,
      fun ⟨unlock, request⟩ =>
        ⟨unlock, fun masterPassword asks call =>
          request masterPassword call asks⟩⟩

def HostEvent.Fits (primitives : Primitives) (library : Library) (path : Path)
    (host : Host) : HostEvent → Prop
  | .command line env => line.Fits primitives library path host env
  | .agentStarted _ _ => True
  | .agentChecked _ => True
  | .agentKilled => True

instance (primitives : Primitives) (library : Library) (path : Path)
    (host : Host) (event : HostEvent) :
    Decidable (event.Fits primitives library path host) :=
  match event with
  | .command _ _ => inferInstanceAs (Decidable (CommandLine.Fits _ _ _ _ _ _))
  | .agentStarted _ _ => .isTrue trivial
  | .agentChecked _ => .isTrue trivial
  | .agentKilled => .isTrue trivial

/-! ## Answers -/

section Answers

variable {library : Library} (self : VaultService)

/-- The entries listed are the accounts that match. -/
theorem listEntries_listed (sorts : library.Sorts) (query : SecureString) :
    Ranked query self.vault.accounts
      ((self.listEntries library query).map VaultEntry.account) where
  perm := by
    have arranged := (listEntries_perm sorts self query).map VaultEntry.account
    rw [matchingEntries] at arranged
    rw [Vault.accounts, List.filter_map]
    exact arranged
  ordered := by
    rw [List.pairwise_map]
    by_cases given : query = []
    · subst given
      exact List.pairwise_of_forall fun _ _ => Int.le_refl 1
    · exact listEntries_ordered sorts self given
  whole empty := by
    subst empty
    rfl

/-- The code of a service is that of its account. -/
theorem getTotpCode_eq_code (service : SecureString) (clock : Clock) :
    self.getTotpCode library service clock =
      self.vault.accounts.code library.hmacSha1 service clock := by
  unfold VaultService.getTotpCode Accounts.code
  rw [Vault.accounts_find]
  cases self.vault.getEntry service with
  | none => rfl
  | some entry => rfl

end Answers

section Commands

variable {primitives : Primitives} {library : Library} {path : Path}
  {host : Host} {store : Store} {env : CommandEnv}
  {masterPassword : SecureString} {line : CommandLine}

/-- What the command has done is a step of the store. -/
def Matched (primitives : Primitives) (library : Library) (path : Path)
    (store : Store) (line : CommandLine) (env : CommandEnv)
    (result : Transcript × Host) : Prop :=
  ∃ after, StoreStep library.hmacSha1 path store
      (.command line env, result.1) after ∧
    Represents primitives path result.2 after

/-! ## Without an agent -/

/-- The check for the vault file. -/
theorem checked_matched
    (represents : Represents primitives path host store)
    (asks : line.unlocksWith = some masterPassword)
    {result : Transcript × Host}
    (go : ∀ safe, store.safe = some safe →
      Matched primitives library path store line env result) :
    Matched primitives library path store line env
      (if (host.files path).isNone then (.notInitialized, host)
        else result) := by
  have keeps := represents.keeps
  cases stored : store.safe with
  | none =>
      rw [stored] at keeps
      rw [keeps.absent]
      exact ⟨store, .notInitialized asks stored, represents⟩
  | some safe =>
      rw [stored] at keeps
      rw [keeps.present]
      exact go safe stored

/-- A service constructed for one command, if the password is right. -/
theorem construct_matched (ideal : primitives.Ideal)
    (represents : Represents primitives path host store)
    (alone : store.agent = .absent)
    (asks : line.unlocksWith = some masterPassword)
    {use : VaultService → Transcript × Host}
    (go : ∀ service safe, store.safe = some safe →
      store.Access masterPassword .direct safe.accounts store →
      WorksOn path service safe safe.accounts →
      Matched primitives library path store line env (use service)) :
    Matched primitives library path store line env
      (host.construct primitives path env masterPassword use) := by
  unfold Host.construct
  cases constructed : VaultService.construct primitives env.load path
      masterPassword host.files env.clock with
  | error error =>
      refine ⟨store, ?_, represents⟩
      have step := @StoreStep.denied library.hmacSha1 path store line env
        masterPassword error.what asks fun wrong safe there =>
          construct_honest ideal (there ▸ represents.keeps) constructed wrong
      rw [Store.shut_of_absent alone] at step
      exact step
  | ok service =>
      obtain ⟨safe, there, right, works⟩ :=
        construct_worksOn ideal represents.keeps constructed
      exact go service safe there (.direct there alone right) works

/-- A writing call on such a service. -/
theorem write_matched (ideal : primitives.Ideal)
    (represents : Represents primitives path host store)
    (alone : store.agent = .absent)
    (asks : line.unlocksWith = some masterPassword)
    {service : VaultService} {safe : SafeBox} {request : Request}
    {done : Transcript} (there : store.safe = some safe)
    (access : store.Access masterPassword .direct safe.accounts store)
    (works : WorksOn path service safe safe.accounts)
    (plain : request.FromCommand)
    (updates : line.update = some request.updates)
    (success : done = line.success path .direct) :
    Matched primitives library path store line env
      (host.write primitives env service request done) := by
  have keeps := represents.keeps
  have attends := represents.attends
  rw [there] at keeps
  have written :=
    execute_written ideal plain works keeps env.commit env.clock
  unfold Host.write
  revert written
  generalize request.execute primitives env.commit env.clock service
    (.start host.files) = outcome
  intro written
  cases written with
  | @refused error invalid =>
      exact ⟨store, .refused asks access updates invalid, represents⟩
  | @unsaved error next after storage valid untouched =>
      refine ⟨store, .unsaved asks access updates valid, ?_, attends⟩
      rw [there]
      change Keeps primitives (storage.files path) _
      rw [untouched]
      exact keeps
  | @saved next after storage valid kept =>
      refine ⟨store.keep next, ?_, ?_, ?_⟩
      · rw [success]
        exact .saved asks access updates valid
      · rw [Store.keep, there]
        exact kept
      · rw [alone] at attends
        change Attends path _ host.agent store.agent
        rw [alone]
        revert attends
        generalize host.agent = agent
        intro attends
        cases attends with
        | absent => exact .absent

/-! ## Through the agent -/

/-- What a command goes on with after its opening block. -/
inductive Begun (primitives : Primitives) (library : Library) (path : Path)
    (store : Store) (line : CommandLine) (env : CommandEnv)
    (masterPassword : SecureString) : Host.Opening × Host → Prop where
  | noAgent {host : Host} (alone : store.agent = .absent)
      (represents : Represents primitives path host store) :
      Begun primitives library path store line env masterPassword
        (.noAgent, host)
  | refused {text : SecureBytes} {host : Host}
      (matched :
        Matched primitives library path store line env (.error text, host)) :
      Begun primitives library path store line env masterPassword
        (.refused text, host)
  | opened {view : Accounts} {host : Host}
      (shows : store.Shows masterPassword view)
      (represents : Represents primitives path host (store.present view))
      (fits : ∀ call, line.call = some call →
        host.Fits primitives library path env.request call.opcode
          call.payload) :
      Begun primitives library path store line env masterPassword
        (.opened, host)

/-- `open_session` begins with the agent's view or with the file. -/
theorem openSession_begun (ideal : primitives.Ideal)
    (represents : Represents primitives path host store)
    (fits : line.Fits primitives library path host env)
    (asks : line.unlocksWith = some masterPassword) :
    Begun primitives library path store line env masterPassword
      (host.openSession primitives library path env masterPassword) := by
  have requests := fun call => fits.request masterPassword call asks
  obtain ⟨after, opened, reached⟩ :=
    openSession_cases ideal represents
      (fits.unlock masterPassword (CommandLine.opensWith_of_unlocksWith asks))
  revert opened reached requests
  generalize host.openSession primitives library path env masterPassword =
    result
  obtain ⟨opening, host'⟩ := result
  intro requests opened reached
  cases opened with
  | noAgent alone => exact .noAgent alone reached
  | refused honest =>
      exact .refused ⟨store.shut, .denied asks honest, reached⟩
  | opened shows => exact .opened shows reached requests

/-- A request of a command that only reads. -/
theorem read_matched {α : Type} {view : Accounts} (call : EntryCall)
    (client : Connection → α) (print : α → Transcript)
    (represents : Represents primitives path host (store.present view))
    (shows : store.Shows masterPassword view)
    (asks : line.unlocksWith = some masterPassword)
    (fits : host.Fits primitives library path env.request call.opcode
      call.payload)
    (reads : ∀ (peer : AgentPeer) service,
      (peer.serve call service).service = service ∧
        (peer.serve call service).storage = peer.storage)
    (locked : ∀ peer : AgentPeer, peer.agent.vaultService = none →
      peer.Fits call.opcode call.payload →
        print (client peer.connection) = line.lapsed)
    (served : ∀ (peer : AgentPeer) service, peer.library = library →
      peer.agent.vaultService = some service →
      peer.Fits call.opcode call.payload → service.vault.accounts = view →
        Prints library.hmacSha1 .agent view line
          (print (client peer.connection))) :
    Matched primitives library path store line env
      (let called := host.call primitives library path env.request call.opcode
        call.payload client
      (print called.1, called.2)) := by
  obtain ⟨server, runs, requested⟩ := request_cases represents call fits
  have fitsPeer := fits server runs
  simp only [Host.call, Host.connection_of_agent runs]
  revert requested
  generalize reached : host.after primitives library path env.request
    call.opcode call.payload = after
  intro requested
  cases requested with
  | locked session shut =>
      rw [locked _ session fitsPeer]
      rw [shows.shut_present] at shut
      exact ⟨store.shut, .lapsed asks shows, shut⟩
  | @served service safe agent session there works running now =>
      obtain ⟨sameService, sameStorage⟩ := reads
        (host.peer primitives library path env.request server) service
      refine ⟨store.present view,
        .answered asks (.agent shows)
          (served _ service rfl session fitsPeer works.shows), ?_, ?_⟩
      · dsimp only
        rw [sameStorage]
        exact represents.keeps
      · rw [sameService] at now
        exact .opened running now there works

/-- What a writing command prints of a result. -/
def Transcript.ofResult (done : Transcript) :
    Except SecureBytes Unit → Transcript
  | .ok () => done
  | .error err => .error err

/-- A request of a command that writes. -/
theorem request_matched (ideal : primitives.Ideal) {view : Accounts}
    (call : EntryCall) (request : Request)
    (client : Connection → Except SecureBytes Unit)
    (represents : Represents primitives path host (store.present view))
    (shows : store.Shows masterPassword view)
    (asks : line.unlocksWith = some masterPassword)
    (fits : host.Fits primitives library path env.request call.opcode
      call.payload)
    (plain : request.FromCommand)
    (updates : line.update = some request.updates)
    (lapsed : line.lapsed = .error lockedText)
    (serves : ∀ (peer : AgentPeer) service, peer.serve call service =
      AgentServer.outcomeServed (request.execute peer.primitives
        peer.env.commit peer.env.clock service peer.storage))
    (locked : ∀ peer : AgentPeer, peer.agent.vaultService = none →
      peer.Fits call.opcode call.payload →
        client peer.connection = .error lockedText)
    (served : ∀ (peer : AgentPeer) service,
      peer.agent.vaultService = some service →
      peer.Fits call.opcode call.payload →
        client peer.connection =
          (request.execute peer.primitives peer.env.commit peer.env.clock
            service peer.storage).result.mapError DuckpassError.what) :
    Matched primitives library path store line env
      (let called := host.call primitives library path env.request call.opcode
        call.payload client
      (.ofResult (line.success path .agent) called.1, called.2)) := by
  obtain ⟨server, runs, requested⟩ := request_cases represents call fits
  have fitsPeer := fits server runs
  simp only [Host.call, Host.connection_of_agent runs]
  revert requested
  generalize host.after primitives library path env.request call.opcode
    call.payload = after
  intro requested
  cases requested with
  | locked session shut =>
      rw [locked _ session fitsPeer, Transcript.ofResult, ← lapsed]
      rw [shows.shut_present] at shut
      exact ⟨store.shut, .lapsed asks shows, shut⟩
  | @served service safe agent session there works running now =>
      have keeps := represents.keeps
      have access : store.Access masterPassword .agent view _ := .agent shows
      rw [served _ service session fitsPeer]
      rw [serves, AgentServer.outcomeServed_service] at now
      rw [serves, AgentServer.outcomeServed_storage]
      simp only [Store.present, there] at keeps
      have written := execute_written ideal plain works keeps
        env.request.commit env.request.clock
      simp only [Host.peer] at now ⊢
      revert written now
      generalize request.execute primitives env.request.commit
        env.request.clock service (.start host.files) = outcome
      intro now written
      cases written with
      | @refused error invalid =>
          exact ⟨store.present view, .refused asks access updates invalid,
            represents.keeps, .opened running now there works⟩
      | @unsaved error next self storage valid untouched works =>
          refine ⟨_, .unsaved asks access updates valid, ?_,
            .opened running now there works⟩
          change Keeps primitives (storage.files path) store.safe
          rw [untouched, there]
          exact keeps
      | @saved next self storage valid kept works =>
          have stored : (store.keep next).safe =
              some { safe with accounts := next } := by
            rw [Store.keep, there]
            rfl
          refine ⟨_, .saved asks access updates valid, ?_,
            .opened running now stored works⟩
          change Keeps primitives (storage.files path) (store.keep next).safe
          rw [stored]
          exact kept

/-! ## The commands on entries -/

/-- What `get` prints of the answer of the agent. -/
def Host.printEntry (showPassword copies : Bool) (name : SecureString) :
    Except SecureBytes EntryData → Transcript
  | .error err =>
      .error (if err.isEmpty then Transcript.notFoundText name else err)
  | .ok entry =>
      .entry showPassword copies name entry.service entry.username
        entry.password

/-- The case of `get`. -/
theorem get_matched (ideal : primitives.Ideal) {name : SecureString}
    {showPassword : Bool}
    (represents : Represents primitives path host store)
    (fits : (CommandLine.get name showPassword masterPassword).Fits primitives
      library path host env) :
    Matched primitives library path store
      (.get name showPassword masterPassword) env
      (host.getCommand primitives library path env name showPassword
        masterPassword) := by
  have begun := openSession_begun ideal represents fits rfl
  unfold Host.getCommand
  revert begun
  generalize host.openSession primitives library path env masterPassword =
    result
  intro begun
  cases begun with
  | refused matched => exact matched
  | noAgent alone represents =>
      apply checked_matched represents rfl
      intro safe there
      apply construct_matched ideal represents alone rfl
      intro service safe there access works
      have accounts := @Vault.accounts_find service.vault name
      rw [works.shows] at accounts
      unfold VaultService.getEntry
      cases found : service.vault.getEntry name with
      | none =>
          rw [found] at accounts
          exact ⟨store, .answered rfl access (.missing accounts), represents⟩
      | some entry =>
          rw [found] at accounts
          exact ⟨store, .answered rfl access (.shown accounts), represents⟩
  | @opened view host shows represents fits =>
      have read : Matched _ _ _ _ (.get name showPassword masterPassword) _ _ :=
        read_matched (.getEntry name) (IpcClient.getEntry · name [])
          (Host.printEntry showPassword env.copies name) represents shows rfl
          (fits _ rfl) (fun _ _ => ⟨rfl, rfl⟩) ?_ ?_
      · revert read
        simp only [Host.call]
        cases IpcClient.getEntry _ name [] with
        | error err => exact id
        | ok entry => exact id
      · intro peer session fits
        rw [AgentPeer.getEntry_locked session fits]
        rfl
      · intro peer service _ session fits accounts
        have found := @Vault.accounts_find service.vault name
        rw [accounts] at found
        rw [AgentPeer.getEntry_through_agent session fits]
        unfold VaultService.getEntry
        cases present : service.vault.getEntry name with
        | none =>
            rw [present] at found
            exact .missing found
        | some entry =>
            rw [present] at found
            exact .shown found

/-- The case of `list`. -/
theorem list_matched (ideal : primitives.Ideal) (sorts : library.Sorts)
    {query : SecureString}
    (represents : Represents primitives path host store)
    (fits : (CommandLine.list query masterPassword).Fits primitives library
      path host env) :
    Matched primitives library path store (.list query masterPassword) env
      (host.listCommand primitives library path env query masterPassword) := by
  have pairs : ∀ entries : List VaultEntry,
      entries.map (fun entry => (entry.service, entry.username)) =
        (entries.map VaultEntry.account).map
          fun account => (account.service, account.username) := by
    intro entries
    rw [List.map_map]
    rfl
  have begun := openSession_begun ideal represents fits rfl
  unfold Host.listCommand
  revert begun
  generalize host.openSession primitives library path env masterPassword =
    result
  intro begun
  cases begun with
  | refused matched => exact matched
  | noAgent alone represents =>
      apply checked_matched represents rfl
      intro safe there
      apply construct_matched ideal represents alone rfl
      intro service safe there access works
      have listed := listEntries_listed service sorts query
      rw [works.shows] at listed
      rw [pairs]
      exact ⟨store, .answered rfl access (.listed listed), represents⟩
  | @opened view host shows represents fits =>
      refine read_matched (.listEntries query) (IpcClient.listEntries · query)
        (Transcript.listing query) represents shows rfl (fits _ rfl)
        (fun _ _ => ⟨rfl, rfl⟩) ?_ ?_
      · intro peer session fits
        rw [AgentPeer.listEntries_locked session fits]
        rfl
      · rintro peer service rfl session fits accounts
        have listed := listEntries_listed service sorts query
        have small : listingSize (service.listEntries peer.library query) ≤
            maxPayload := by
          have handled := AgentPeer.handle_of_parsed session fits.request
            (parseCommand_listEntries fits.request)
          have sized := fits.response _ (congrArg _ handled)
          rw [← length_listPayload]
          exact sized
        rw [accounts] at listed
        rw [AgentPeer.listEntries_of_fits session fits.request small]
        have same := pairs (service.listEntries peer.library query)
        exact (congrArg (Transcript.listing query) same) ▸ .listed listed

/-- What `otp` prints of the answer of the agent. -/
def Host.printCode (copyToClipboard copies : Bool)
    (serviceName : SecureString) : Except SecureBytes TotpResult → Transcript
  | .error err => .error err
  | .ok res =>
      .code copyToClipboard copies serviceName res.code res.remainingSeconds

/-- The case of `otp`. -/
theorem otp_matched (ideal : primitives.Ideal) {serviceName : SecureString}
    {copyToClipboard : Bool}
    (represents : Represents primitives path host store)
    (fits : (CommandLine.otp serviceName copyToClipboard masterPassword).Fits
      primitives library path host env) :
    Matched primitives library path store
      (.otp serviceName copyToClipboard masterPassword) env
      (host.otpCommand primitives library path env serviceName
        copyToClipboard masterPassword) := by
  have begun := openSession_begun ideal represents fits rfl
  unfold Host.otpCommand
  revert begun
  generalize host.openSession primitives library path env masterPassword =
    result
  intro begun
  cases begun with
  | refused matched => exact matched
  | noAgent alone represents =>
      apply checked_matched represents rfl
      intro safe there
      apply construct_matched ideal represents alone rfl
      intro service safe there access works
      have same : service.getTotpCode library serviceName env.clock = _ :=
        getTotpCode_eq_code service serviceName env.clock
      rw [works.shows] at same
      rw [same]
      cases computed : safe.accounts.code library.hmacSha1 serviceName
          env.clock with
      | error error =>
          exact ⟨store, .answered rfl access (.noCode computed), represents⟩
      | ok result =>
          exact ⟨store, .answered rfl access (.code computed), represents⟩
  | @opened view host shows represents fits =>
      have read :
          Matched _ _ _ _ (.otp serviceName copyToClipboard masterPassword)
            _ _ :=
        read_matched (.getTotp serviceName)
          (IpcClient.getTotp · serviceName [])
          (Host.printCode copyToClipboard env.copies serviceName)
          represents shows rfl (fits _ rfl) (fun _ _ => ⟨rfl, rfl⟩) ?_ ?_
      · revert read
        simp only [Host.call]
        cases IpcClient.getTotp _ serviceName [] with
        | error err => exact id
        | ok res => exact id
      · intro peer session fits
        rw [AgentPeer.getTotp_locked session fits]
        rfl
      · rintro peer service rfl session fits accounts
        have same :
            service.getTotpCode peer.library serviceName peer.env.clock = _ :=
          getTotpCode_eq_code service serviceName peer.env.clock
        rw [accounts] at same
        rw [AgentPeer.getTotp_through_agent session fits, same]
        cases computed : view.code peer.library.hmacSha1 serviceName
            peer.env.clock with
        | error error => exact .noCode computed
        | ok result => exact .code computed

/-- The case of `delete`. -/
theorem delete_matched (ideal : primitives.Ideal) {name : SecureString}
    (represents : Represents primitives path host store)
    (fits : (CommandLine.delete name masterPassword).Fits primitives library
      path host env) :
    Matched primitives library path store (.delete name masterPassword) env
      (host.deleteCommand primitives library path env name
        masterPassword) := by
  have plain : (Request.deleteEntry name).FromCommand := .inr ⟨name, rfl⟩
  unfold Host.deleteCommand
  apply checked_matched represents rfl
  intro _ _
  have begun := openSession_begun ideal represents fits rfl
  revert begun
  generalize host.openSession primitives library path env masterPassword =
    result
  intro begun
  cases begun with
  | refused matched => exact matched
  | noAgent alone represents =>
      apply construct_matched ideal represents alone rfl
      intro service safe there access works
      exact write_matched ideal represents alone rfl there access works plain
        rfl rfl
  | @opened view host shows represents fits =>
      have written : Matched _ _ _ _ (.delete name masterPassword) _ _ :=
        request_matched ideal (.deleteEntry name) (.deleteEntry name)
          (IpcClient.deleteEntry · name []) represents shows rfl (fits _ rfl)
          plain rfl rfl (fun _ _ => rfl)
          (fun peer session fits => AgentPeer.deleteEntry_locked session fits)
          (fun peer service session fits =>
            AgentPeer.deleteEntry_through_agent session fits [])
      revert written
      simp only [Host.call]
      cases IpcClient.deleteEntry _ name [] with
      | error err => exact id
      | ok done => exact id

/-- The case of `add`. -/
theorem add_matched (ideal : primitives.Ideal) {name username : SecureString}
    {entered : EnteredPassword}
    (represents : Represents primitives path host store)
    (fits : (CommandLine.add name username entered masterPassword).Fits
      primitives library path host env) :
    Matched primitives library path store
      (.add name username entered masterPassword) env
      (host.addCommand primitives library path env name username entered
        masterPassword) := by
  unfold Host.addCommand
  apply checked_matched represents rfl
  intro _ _
  have begun := openSession_begun ideal represents fits rfl
  revert begun
  generalize host.openSession primitives library path env masterPassword =
    result
  intro begun
  cases begun with
  | refused matched => exact matched
  | noAgent alone represents =>
      cases typed : entered.read with
      | none =>
          exact ⟨store, .passwordsDoNotMatch typed (.inl rfl), represents⟩
      | some password =>
          have updates : (CommandLine.add name username entered
              masterPassword).update =
                some (Request.addEntry name username password []).updates := by
            rw [CommandLine.update, typed]
            rfl
          apply construct_matched ideal represents alone rfl
          intro service safe there access works
          exact write_matched ideal represents alone rfl there access works
            (.inl ⟨name, username, password, rfl⟩) updates rfl
  | @opened view host shows represents fits =>
      cases typed : entered.read with
      | none =>
          exact ⟨store.present view,
            .passwordsDoNotMatch typed (.inr ⟨view, rfl, shows⟩), represents⟩
      | some password =>
          have updates : (CommandLine.add name username entered
              masterPassword).update =
                some (Request.addEntry name username password []).updates := by
            rw [CommandLine.update, typed]
            rfl
          have sent : (CommandLine.add name username entered
              masterPassword).call =
                some (.addEntry name username password []) := by
            rw [CommandLine.call, typed]
            rfl
          have written :
              Matched _ _ _ _ (.add name username entered masterPassword)
                _ _ :=
            request_matched ideal (.addEntry name username password [])
              (.addEntry name username password [])
              (IpcClient.addEntry · ⟨name, username, password, []⟩ [])
              represents shows rfl (fits _ sent)
              (.inl ⟨name, username, password, rfl⟩) updates rfl
              (fun _ _ => rfl)
              (fun peer session fits => AgentPeer.addEntry_locked session fits)
              (fun peer service session fits =>
                AgentPeer.addEntry_through_agent session fits [])
          revert written
          simp only [Host.call]
          cases IpcClient.addEntry _ ⟨name, username, password, []⟩ [] with
          | error err => exact id
          | ok done => exact id

/-! ## The commands on the vault -/

/-- The case of `init`. -/
theorem init_matched {pwd1 pwd2 : SecureString}
    (represents : Represents primitives path host store) :
    Matched primitives library path store (.init pwd1 pwd2) env
      (host.initCommand primitives path env pwd1 pwd2) := by
  have keeps := represents.keeps
  unfold Host.initCommand
  cases stored : store.safe with
  | some safe =>
      rw [stored] at keeps
      have there : (host.files path).isSome = true := by
        rw [← Option.not_isNone, keeps.present]
        rfl
      rw [if_pos there]
      exact ⟨store, .safeExists stored, represents⟩
  | none =>
      rw [stored] at keeps
      rw [keeps.absent]
      by_cases differ : pwd1 ≠ pwd2
      · rw [if_pos differ]
        exact ⟨store, .initRefused stored (.inl differ), represents⟩
      rw [if_neg differ]
      rw [Decidable.not_not] at differ
      subst differ
      by_cases empty : pwd1.isEmpty = true
      · rw [if_pos empty]
        exact ⟨store, .initRefused stored
          (.inr (List.isEmpty_iff.mp empty)), represents⟩
      rw [if_neg empty]
      unfold saveVault
      cases encrypted : serializeAndEncryptVault primitives env.commit.encrypt
          Vault.empty pwd1 with
      | error error => exact ⟨store, .initFailed stored, represents⟩
      | ok blob =>
          have replaced := writeFileAtomic_target env.commit.vaultWrite path
            blob true (.start host.files)
          revert replaced
          dsimp only
          generalize writeFileAtomic env.commit.vaultWrite path blob true
            (.start host.files) = written
          obtain ⟨result, storage⟩ := written
          intro replaced
          cases replaced with
          | threw untouched =>
              refine ⟨store, .initFailed stored, ?_, represents.attends⟩
              change Keeps primitives (storage.files path) _
              rw [untouched.now]
              exact represents.keeps
          | returned _ content =>
              refine ⟨_, .initialized stored
                (fun same => empty (List.isEmpty_iff.mpr same)),
                .held content (serializeAndEncryptVault_eq_ok encrypted) rfl,
                ?_⟩
              have attends := represents.attends
              change Attends path _ host.agent store.agent
              rw [stored] at attends
              revert attends
              generalize host.agent = agent
              generalize store.agent = view
              intro attends
              cases attends with
              | absent => exact .absent
              | locked running session => exact .locked running session
              | opened _ _ there => cases there

/-- The case of `rekey`. -/
theorem rekey_matched (ideal : primitives.Ideal)
    {oldPwd newPwd1 newPwd2 : SecureString}
    (represents : Represents primitives path host store) :
    Matched primitives library path store (.rekey oldPwd newPwd1 newPwd2) env
      (host.rekeyCommand primitives library path env oldPwd newPwd1
        newPwd2) := by
  have keeps := represents.keeps
  unfold Host.rekeyCommand Host.construct
  split
  · exact ⟨store, .rekeyFailed, represents⟩
  cases constructed : VaultService.construct primitives env.load path oldPwd
      host.files env.clock with
  | error error => exact ⟨store, .rekeyFailed, represents⟩
  | ok service =>
      obtain ⟨safe, there, right, works⟩ :=
        construct_worksOn ideal keeps constructed
      dsimp only
      by_cases differ : newPwd1 ≠ newPwd2
      · rw [if_pos differ]
        exact ⟨store, .rekeyFailed, represents⟩
      rw [if_neg differ]
      rw [Decidable.not_not] at differ
      subst differ
      have attends := represents.attends
      rw [there] at keeps
      generalize ended : service.rekey primitives env.commit env.clock newPwd1
        (.start host.files) = outcome
      rcases rekey_keeps ideal works keeps env.commit env.clock newPwd1 ended
        with ⟨error, failed, untouched⟩ | ⟨given, kept⟩
      · rw [failed]
        refine ⟨store, .rekeyFailed, ?_, attends⟩
        rw [there]
        change Keeps primitives (outcome.storage.files path) _
        rw [untouched]
        exact keeps
      · cases outcome.result with
        | error error =>
            exact ⟨_, .rekeyUnkept there right given, kept,
              attends.rekeyed there newPwd1⟩
        | ok done =>
            obtain ⟨sameFiles, shut⟩ := lockIfAvailable_attends primitives
              library env { host with files := outcome.storage.files } attends
              (some { safe with masterPassword := newPwd1 })
            refine ⟨_, .rekeyed there right given, ?_, shut⟩
            dsimp only
            rw [sameFiles]
            exact kept

/-! ## The commands on the agent -/

/-- The number of entries that the agent reports is that of its accounts. -/
theorem totalEntries_eq {server : AgentServer} {service : VaultService}
    {safe : SafeBox} {view : Accounts}
    (session : server.vaultService = some service)
    (works : WorksOn path service safe view) :
    server.totalEntries = UInt32.ofNat view.list.length := by
  have counted : service.vault.entries.length = view.list.length := by
    rw [← works.shows, Vault.accounts, List.length_map]
  rw [AgentServer.totalEntries, session, ← counted]

/-- What the status that a command asks for says of the store. -/
inductive Reported (store : Store) : IpcClient.AgentStatus → Store → Prop where
  | locked (timeout total : UInt32) :
      Reported store ⟨false, timeout, total⟩ store.shut
  | opened {view : Accounts} (timeout : UInt32)
      (opened : store.agent = .opened view) :
      Reported store ⟨true, timeout, UInt32.ofNat view.list.length⟩ store

/-- The ping and the status with which the commands on the agent begin. -/
theorem status_reported (library : Library) {server : AgentServer}
    {first : Store} (visit : Visit)
    (lapse : first = store ∨ first = store.shut)
    (represents : Represents primitives path host first)
    (runs : host.agent = some server) :
    ∃ after, Reported store
        (host.peer primitives library path visit server).status after ∧
      Represents primitives path (host.settled visit) after := by
  obtain ⟨second, later, atSecond⟩ := represents.settled visit
  have lapsed := Represents.lapse_trans lapse later
  have now : (host.settled visit).agent =
      some (server.checkIdleTimeout visit.checkedAt) :=
    congrArg (Option.map _) runs
  unfold AgentPeer.status
  generalize AgentServer.timeoutRemaining _ _ = timeout
  simp only [Host.peer]
  cases session : (server.checkIdleTimeout visit.checkedAt).vaultService with
  | none =>
      have shut :=
        Store.shut_of_lapse lapsed (atSecond.locked now session)
      exact ⟨_, .locked _ _, shut ▸ atSecond⟩
  | some service =>
      obtain ⟨view, safe, opened, _, works⟩ := atSecond.opened now session
      obtain rfl := Store.opened_of_lapse lapsed opened
      rw [totalEntries_eq session works]
      exact ⟨_, .opened timeout opened, atSecond⟩

/-- The case of `agent status`. -/
theorem agentStatus_matched
    (represents : Represents primitives path host store) :
    Matched primitives library path store .agentStatus env
      (host.agentStatusCommand primitives library path env) := by
  unfold Host.agentStatusCommand
  rw [Host.call_ping represents.running]
  rcases represents.pinged env.ping with
    ⟨none, alone, now⟩ | ⟨server, first, some, runs, there, lapse, now⟩
  · rw [none]
    exact ⟨store, .noAgent (.inl rfl) alone ⟨_, .inl rfl⟩, now⟩
  · obtain ⟨after, reported, last⟩ :=
      status_reported library env.status lapse now runs
    rw [some]
    simp only [Bool.not_true, Bool.false_eq_true, if_false,
      Host.call_status runs now.running]
    refine ⟨after, ?_, last⟩
    revert reported
    generalize AgentPeer.status _ = status
    intro reported
    cases reported with
    | locked => exact .statusLocked there
    | opened timeout opened => exact .statusOpened opened

/-- The case of `agent unlock`. -/
theorem agentUnlock_matched (ideal : primitives.Ideal)
    (represents : Represents primitives path host store)
    (fits : (CommandLine.agentUnlock masterPassword).Fits primitives library
      path host env) :
    Matched primitives library path store (.agentUnlock masterPassword) env
      (host.agentUnlockCommand primitives library path env
        masterPassword) := by
  have unlockFits := fits.unlock masterPassword rfl
  unfold Host.agentUnlockCommand
  rw [Host.call_ping represents.running]
  rcases represents.pinged env.ping with
    ⟨none, alone, now⟩ | ⟨server, first, some, runs, there, lapse, now⟩
  · rw [none]
    exact ⟨store, .noAgent (.inr (.inl ⟨_, rfl⟩)) alone ⟨_, .inr rfl⟩, now⟩
  · obtain ⟨after, reported, last⟩ :=
      status_reported library env.status lapse now runs
    have lastRuns : ((host.settled env.ping).settled env.status).agent = _ :=
      congrArg (Option.map _) runs
    rw [some]
    simp only [Bool.not_true, Bool.false_eq_true, if_false,
      Host.call_status runs now.running]
    revert reported
    generalize AgentPeer.status _ = status
    intro reported
    cases reported with
    | opened timeout opened => exact ⟨_, .alreadyUnlocked opened, last⟩
    | locked timeout total =>
        rcases last.unlock ideal lastRuns unlockFits with
          ⟨text, after, failed, honest, lapse, ended⟩ |
            ⟨safe, succeeded, stored, right, ended⟩
        · rw [Store.shut_shut, or_self] at lapse
          subst lapse
          refine ⟨store.shut, ?_, ?_⟩
          · rw [failed]
            exact .unlockDenied there honest
          · rw [failed]
            exact ended
        · refine ⟨store.present safe.accounts, ?_, ?_⟩
          · rw [succeeded]
            exact .unlocked stored there right
          · rw [succeeded]
            exact ended

/-- The case of `agent lock`. -/
theorem agentLock_matched
    (represents : Represents primitives path host store) :
    Matched primitives library path store .agentLock env
      (host.agentLockCommand primitives library path env) := by
  unfold Host.agentLockCommand
  rw [Host.call_ping represents.running]
  rcases represents.pinged env.ping with
    ⟨none, alone, now⟩ | ⟨server, first, some, runs, there, lapse, now⟩
  · rw [none]
    exact ⟨store, .noAgent (.inr (.inr (.inl rfl))) alone ⟨_, .inl rfl⟩, now⟩
  · have attends := represents.attends
    rw [some]
    simp only [Bool.not_true, Bool.false_eq_true, if_false,
      Host.call_lock runs now.running]
    refine ⟨store.shut, .lock there, represents.keeps, ?_⟩
    have alive := (AgentServer.checkIdleTimeout_running
      env.request.checkedAt).trans (now.running server runs)
    change Attends path store.safe _ store.agent.shut
    revert there
    cases store.agent with
    | absent => exact fun there => absurd rfl there
    | locked => exact fun _ => .locked alive rfl
    | opened view => exact fun _ => .locked alive rfl

/-- The case of `agent stop`. -/
theorem agentStop_matched
    (represents : Represents primitives path host store) :
    Matched primitives library path store .agentStop env
      (host.agentStopCommand primitives library path env) := by
  unfold Host.agentStopCommand
  rw [Host.call_ping represents.running]
  rcases represents.pinged env.ping with
    ⟨none, alone, now⟩ | ⟨server, first, some, runs, there, lapse, now⟩
  · rw [none]
    exact ⟨store, .noAgent (.inr (.inr (.inr rfl))) alone ⟨_, .inl rfl⟩, now⟩
  · rw [some]
    simp only [Bool.not_true, Bool.false_eq_true, if_false,
      Host.call_stop runs]
    exact ⟨_, .stop there, represents.keeps, .absent⟩

end Commands

/-! ## Runs -/

section Runs

variable {primitives : Primitives} {library : Library} {path : Path}

/-- Every subcommand. -/
theorem Host.run_matched (ideal : primitives.Ideal) (sorts : library.Sorts)
    {host : Host} {store : Store} {env : CommandEnv} {line : CommandLine}
    (represents : Represents primitives path host store)
    (fits : line.Fits primitives library path host env) :
    Matched primitives library path store line env
      (host.run primitives library path env line) := by
  cases line with
  | init => exact init_matched represents
  | add => exact add_matched ideal represents fits
  | get => exact get_matched ideal represents fits
  | list => exact list_matched ideal sorts represents fits
  | delete => exact delete_matched ideal represents fits
  | otp => exact otp_matched ideal represents fits
  | rekey => exact rekey_matched ideal represents
  | agentStatus => exact agentStatus_matched represents
  | agentUnlock => exact agentUnlock_matched ideal represents fits
  | agentLock => exact agentLock_matched represents
  | agentStop => exact agentStop_matched represents

/-- Every step of the host is a step of the store. -/
theorem Host.step_matched (ideal : primitives.Ideal) (sorts : library.Sorts)
    {host next : Host} {store : Store} {event : HostEvent}
    {transcript : Transcript}
    (represents : Represents primitives path host store)
    (fits : event.Fits primitives library path host)
    (stepped : host.step primitives library path event =
      some (next, transcript)) :
    ∃ after, StoreStep library.hmacSha1 path store (event, transcript) after ∧
      Represents primitives path next after := by
  cases event with
  | command line env =>
      obtain ⟨after, step, reached⟩ :=
        Host.run_matched ideal sorts represents fits
      cases stepped
      exact ⟨after, step, reached⟩
  | agentStarted idleTimeoutSeconds now =>
      simp only [Host.step] at stepped
      cases runs : host.agent with
      | some server =>
          rw [runs] at stepped
          cases stepped
      | none =>
          rw [runs] at stepped
          cases stepped
          exact ⟨_, .agentStarted (represents.absent runs), represents.keeps,
            .locked rfl rfl⟩
  | agentChecked now =>
      cases stepped
      have attends := represents.attends
      cases runs : host.agent with
      | none =>
          rw [runs] at attends
          exact ⟨store, .agentChecked (.inl rfl), represents.keeps, attends⟩
      | some server =>
          rw [runs] at attends
          rcases attends.checked now with stays | shut
          · exact ⟨store, .agentChecked (.inl rfl), represents.keeps, stays⟩
          · exact ⟨store.shut, .agentChecked (.inr rfl), represents.keeps, shut⟩
  | agentKilled =>
      cases stepped
      exact ⟨_, .agentKilled, represents.keeps, .absent⟩

end Runs

namespace Symbolic

/-- A connection that finds nothing failing. -/
def visit (now : Nat) : Visit := ⟨now, now, .constant 7, .none, calm⟩

/-- A command in which nothing fails. -/
def commandEnv : CommandEnv where
  ping := visit 1
  status := visit 2
  unlock := visit 3
  request := visit 4
  clock := .constant 7
  load := .none
  commit := calm
  copies := true

/-- A directory without a vault, and no agent. -/
def untouched : Host := ⟨fun _ => none, none⟩

end Symbolic

end DuckPass
