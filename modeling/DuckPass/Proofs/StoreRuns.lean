/-
Module: DuckPass.Proofs.StoreRuns
Purpose: What holds over whole runs of the store, and with it over whole runs
  of the subcommands: the last successful `add` or `delete` of a service is
  what a later `get` answers from, and whoever does not know the master
  password neither sees nor changes an account.
Trusted boundary: the named properties of the primitives and of the sort; every
  packet is within the limit.
Main exports: Store.Agrees, Store.Agrees.step, last_write_shown,
  Store.Guarded, Store.Guarded.step, unauthorised_run, rekey_revokes
-/
import DuckPass.Proofs.CommandRefinement

namespace DuckPass

/-! ## What the store answers for a service -/

/-- The safe and whatever the agent shows have the same answer for the
service. -/
structure Store.Agrees (service : SecureString) (answer : Option Account)
    (store : Store) : Prop where
  inSafe : ∃ safe, store.safe = some safe ∧ safe.accounts.find service = answer
  inView : ∀ view, store.agent = .opened view → view.find service = answer

/-- The command, if it succeeds, changes the answer for the service. -/
def CommandLine.Undoes (service : SecureString) :
    Option Account → CommandLine → Prop
  | some _, delete name _ => name = service
  | none, add name _ _ _ => name = service
  | _, _ => False

def HostEvent.Undoes (service : SecureString) (answer : Option Account) :
    HostEvent → Prop
  | .command line _ => line.Undoes service answer
  | _ => False

section Answers

variable {accounts next : Accounts} {account : Account}
  {service : SecureString} {answer : Option Account} {line : CommandLine}
  {update : Accounts → Except DuckpassError Accounts}

theorem Accounts.add_eq_ok (added : accounts.add account = .ok next) :
    accounts.find account.service = none ∧ next = accounts.put account := by
  unfold add at added
  split at added
  · cases added
  · split at added
    · cases added
    · next present =>
        split at added
        · cases added
        · split at added
          · cases added
          · cases added
            exact ⟨by simpa using present, rfl⟩

theorem Accounts.delete_eq_ok (deleted : accounts.delete service = .ok next) :
    next = accounts.without service := by
  unfold delete at deleted
  split at deleted
  · cases deleted
    rfl
  · cases deleted

/-- A change of another service, or one that says the same again. -/
theorem CommandLine.update_find (updates : line.update = some update)
    (keeps : ¬ line.Undoes service answer)
    (found : accounts.find service = answer)
    (valid : update accounts = .ok next) : next.find service = answer := by
  cases line with
  | add name username entered masterPassword =>
      simp only [CommandLine.update, Option.map_eq_some_iff] at updates
      obtain ⟨password, _, rfl⟩ := updates
      obtain ⟨absent, rfl⟩ := Accounts.add_eq_ok valid
      have other : name ≠ service := by
        rintro rfl
        rw [absent] at found
        subst found
        exact keeps rfl
      rw [Accounts.find_put, if_neg other, found]
  | delete name masterPassword =>
      simp only [CommandLine.update, Option.some.injEq] at updates
      subst updates
      have rest := Accounts.delete_eq_ok valid
      subst rest
      rw [Accounts.find_without]
      split
      · next same =>
          subst same
          cases answer with
          | none => rfl
          | some account => exact absurd rfl keeps
      · exact found
  | init => cases updates
  | get => cases updates
  | list => cases updates
  | otp => cases updates
  | rekey => cases updates
  | agentStatus => cases updates
  | agentUnlock => cases updates
  | agentLock => cases updates
  | agentStop => cases updates

end Answers

namespace Store.Agrees

variable {store after : Store} {service masterPassword : SecureString}
  {answer : Option Account} {view next : Accounts} {means : Means}

theorem shut (agrees : store.Agrees service answer) :
    store.shut.Agrees service answer where
  inSafe := agrees.inSafe
  inView view opened := absurd opened (store.agent.shut_ne view)

theorem absent (agrees : store.Agrees service answer) :
    ({ store with agent := .absent } : Store).Agrees service answer :=
  ⟨agrees.inSafe, fun _ opened => by cases opened⟩

/-- What is shown to anyone has the answer too. -/
theorem shows (agrees : store.Agrees service answer)
    (shows : store.Shows masterPassword view) : view.find service = answer := by
  cases shows with
  | session opened => exact agrees.inView view opened
  | unlocked there =>
      obtain ⟨safe, present, found⟩ := agrees.inSafe
      rw [there] at present
      cases present
      exact found

theorem present (agrees : store.Agrees service answer)
    (found : view.find service = answer) :
    (store.present view).Agrees service answer :=
  ⟨agrees.inSafe, fun _ opened => by cases opened; exact found⟩

theorem keep (agrees : store.Agrees service answer)
    (found : next.find service = answer)
    (view : ∀ view, store.agent = .opened view → view.find service = answer) :
    (store.keep next).Agrees service answer := by
  obtain ⟨safe, present, _⟩ := agrees.inSafe
  exact ⟨⟨_, by rw [Store.keep, present]; rfl, found⟩, view⟩

theorem access (agrees : store.Agrees service answer)
    (access : store.Access masterPassword means view after) :
    view.find service = answer ∧ after.Agrees service answer := by
  cases access with
  | agent shows =>
      have found := agrees.shows shows
      exact ⟨found, agrees.present found⟩
  | direct there =>
      obtain ⟨safe, present, found⟩ := agrees.inSafe
      rw [there] at present
      cases present
      exact ⟨found, agrees⟩

theorem unsaved (agrees : store.Agrees service answer)
    (found : next.find service = answer) :
    (store.unsaved next means).Agrees service answer := by
  cases means with
  | agent => exact agrees.present found
  | direct => exact agrees

theorem saved (agrees : store.Agrees service answer)
    (found : next.find service = answer) :
    (store.saved next means).Agrees service answer := by
  have kept := agrees.keep found agrees.inView
  cases means with
  | agent => exact kept.present found
  | direct => exact kept

/-- No step but a command that changes it changes the answer. -/
theorem step {hmacSha1 : HmacSha1} {path : Path} {event : HostEvent}
    {transcript : Transcript} (agrees : store.Agrees service answer)
    (keeps : ¬ event.Undoes service answer)
    (step : StoreStep hmacSha1 path store (event, transcript) after) :
    after.Agrees service answer := by
  cases step with
  | safeExists => exact agrees
  | initRefused => exact agrees
  | initFailed => exact agrees
  | initialized missing =>
      obtain ⟨safe, present, _⟩ := agrees.inSafe
      rw [missing] at present
      cases present
  | notInitialized => exact agrees
  | denied => exact agrees.shut
  | lapsed => exact agrees.shut
  | answered _ access => exact (agrees.access access).2
  | passwordsDoNotMatch _ access =>
      rcases access with rfl | ⟨view, rfl, shows⟩
      · exact agrees
      · exact agrees.present (agrees.shows shows)
  | refused _ access => exact (agrees.access access).2
  | unsaved _ access updates valid =>
      obtain ⟨found, reached⟩ := agrees.access access
      exact reached.unsaved (CommandLine.update_find updates keeps found valid)
  | saved _ access updates valid =>
      obtain ⟨found, reached⟩ := agrees.access access
      exact reached.saved (CommandLine.update_find updates keeps found valid)
  | rekeyFailed => exact agrees
  | rekeyUnkept there =>
      obtain ⟨safe, present, found⟩ := agrees.inSafe
      rw [there] at present
      cases present
      exact ⟨⟨_, rfl, found⟩, agrees.inView⟩
  | rekeyed there =>
      obtain ⟨safe, present, found⟩ := agrees.inSafe
      rw [there] at present
      cases present
      exact ⟨⟨_, rfl, found⟩, agrees.shut.inView⟩
  | statusLocked => exact agrees.shut
  | statusOpened => exact agrees
  | noAgent => exact agrees
  | alreadyUnlocked => exact agrees
  | unlockDenied => exact agrees.shut
  | unlocked there =>
      obtain ⟨safe, present, found⟩ := agrees.inSafe
      rw [there] at present
      cases present
      exact agrees.present found
  | lock => exact agrees.shut
  | stop => exact agrees.absent
  | agentStarted => exact ⟨agrees.inSafe, fun _ opened => by cases opened⟩
  | agentChecked stays =>
      rcases stays with rfl | rfl
      · exact agrees
      · exact agrees.shut
  | agentKilled => exact agrees.absent

end Store.Agrees

/-! ## The last write is shown -/

/-- The answer for a service after the command has succeeded. -/
inductive CommandLine.Settles :
    CommandLine → SecureString → Option Account → Prop where
  | added {name username password masterPassword : SecureString}
      {entered : EnteredPassword} (read : entered.read = some password) :
      Settles (.add name username entered masterPassword) name
        (some ⟨name, username, password, []⟩)
  | deleted {name masterPassword : SecureString} :
      Settles (.delete name masterPassword) name none

/-- What `get` may print when this is the answer: it shows the account, or it
is an error. -/
inductive Tells (name : SecureString) (showPassword : Bool) :
    Option Account → Transcript → Prop where
  | shown (account : Account) (copies : Bool) :
      Tells name showPassword (some account)
        (.entry showPassword copies name account.service account.username
          account.password)
  | error (answer : Option Account) (text : SecureBytes) :
      Tells name showPassword answer (.error text)

section Steps

variable {hmacSha1 : HmacSha1} {path : Path} {store after : Store}
  {line : CommandLine} {env : CommandEnv} {transcript : Transcript}
  {name : SecureString} {answer : Option Account}

/-- A writing command that does not begin with an error has saved. -/
theorem StoreStep.of_success {text : SecureBytes}
    (settles : line.Settles name answer)
    (printed : transcript.head? = some (.out text))
    (step : StoreStep hmacSha1 path store (.command line env, transcript)
      after) :
    ∃ masterPassword means view next reached update,
      store.Access masterPassword means view reached ∧
      line.update = some update ∧ update view = .ok next ∧
      after = reached.saved next means := by
  cases settles with
  | added read =>
      cases step with
      | saved _ access updates valid =>
          exact ⟨_, _, _, _, _, _, access, updates, valid, rfl⟩
      | answered _ _ answers => cases answers
      | noAgent about => simp at about
      | notInitialized => cases printed
      | denied => cases printed
      | lapsed => cases printed
      | passwordsDoNotMatch => cases printed
      | refused => cases printed
      | unsaved => cases printed
  | deleted =>
      cases step with
      | saved _ access updates valid =>
          exact ⟨_, _, _, _, _, _, access, updates, valid, rfl⟩
      | answered _ _ answers => cases answers
      | noAgent about => simp at about
      | notInitialized => cases printed
      | denied => cases printed
      | lapsed => cases printed
      | refused => cases printed
      | unsaved => cases printed

theorem CommandLine.Settles.find {view next : Accounts}
    {update : Accounts → Except DuckpassError Accounts}
    (settles : line.Settles name answer) (updates : line.update = some update)
    (valid : update view = .ok next) : next.find name = answer := by
  cases settles with
  | added read =>
      simp only [CommandLine.update, read, Option.map_some,
        Option.some.injEq] at updates
      subst updates
      obtain ⟨_, rfl⟩ := Accounts.add_eq_ok valid
      rw [Accounts.find_put, if_pos rfl]
  | deleted =>
      simp only [CommandLine.update, Option.some.injEq] at updates
      subst updates
      rw [Accounts.delete_eq_ok valid, Accounts.find_without, if_pos rfl]

/-- `get` answers from what the store agrees on. -/
theorem Store.Agrees.tells {masterPassword : SecureString}
    {showPassword : Bool} (agrees : store.Agrees name answer)
    (step : StoreStep hmacSha1 path store
      (.command (.get name showPassword masterPassword) env, transcript)
      after) : Tells name showPassword answer transcript := by
  cases step with
  | notInitialized _ missing =>
      obtain ⟨safe, present, _⟩ := agrees.inSafe
      rw [missing] at present
      cases present
  | denied => exact .error _ _
  | lapsed => exact .error _ _
  | answered _ access answers =>
      have found := (agrees.access access).1
      cases answers with
      | shown there =>
          rw [there] at found
          subst found
          exact .shown _ _
      | missing => exact .error _ _
  | refused _ _ updates => cases updates
  | unsaved _ _ updates => cases updates
  | saved _ _ updates => cases updates
  | noAgent about => simp at about

end Steps

section Runs

variable {primitives : Primitives} {library : Library} {path : Path}
  {host last : Host} {store : Store}

/-- A session is on a safe. -/
theorem Represents.stored_of_opened {view : Accounts}
    (represents : Represents primitives path host store)
    (opened : store.agent = .opened view) : ∃ safe, store.safe = some safe := by
  have attends := represents.attends
  rw [opened] at attends
  revert attends
  generalize host.agent = agent
  intro attends
  cases attends with
  | opened _ _ there => exact ⟨_, there⟩

/-- After a success the store agrees on what was written. -/
theorem agrees_of_success {line : CommandLine} {env : CommandEnv}
    {transcript : Transcript} {text : SecureBytes} {name : SecureString}
    {answer : Option Account} {after : Store}
    (settles : line.Settles name answer)
    (printed : transcript.head? = some (.out text))
    (step : StoreStep library.hmacSha1 path store
      (.command line env, transcript) after)
    (represents : Represents primitives path last after) :
    after.Agrees name answer := by
  obtain ⟨masterPassword, means, view, next, reached, update, access, updates,
    valid, rfl⟩ := step.of_success settles printed
  have found := settles.find updates valid
  cases access with
  | agent shows =>
      obtain ⟨safe, stored⟩ := represents.stored_of_opened rfl
      refine ⟨⟨safe, stored, ?_⟩, fun _ opened => by cases opened; exact found⟩
      simp only [Store.saved, Store.present, Store.keep,
        Option.map_eq_some_iff] at stored
      obtain ⟨before, _, rfl⟩ := stored
      exact found
  | direct there alone =>
      refine ⟨⟨_, by rw [Store.saved, Store.keep, there]; rfl, found⟩, ?_⟩
      intro view opened
      change store.agent = _ at opened
      rw [alone] at opened
      cases opened

/-- After an `add` or a `delete` that succeeded, and any run in which no later
command is to undo it, `get` shows exactly the account that was written, and
none after the `delete`. -/
theorem last_write_shown (ideal : primitives.Ideal) (sorts : library.Sorts)
    {written later : Host} {line : CommandLine} {env askEnv : CommandEnv}
    {between : List HostEvent} {transcript shown : Transcript}
    {transcripts : List Transcript} {name masterPassword : SecureString}
    {showPassword : Bool} {text : SecureBytes} {answer : Option Account}
    (start : Represents primitives path host store)
    (settles : line.Settles name answer)
    (wrote : host.step primitives library path (.command line env) =
      some (written, transcript))
    (printed : transcript.head? = some (.out text))
    (ran : Run.run (Host.step primitives library path) written between =
      some (later, transcripts))
    (kept : ∀ event ∈ between, ¬ event.Undoes name answer)
    (asked : later.step primitives library path
      (.command (.get name showPassword masterPassword) askEnv) =
        some (last, shown))
    (fitsWrite : line.Fits primitives library path host env)
    (fits : Run.Along (Host.step primitives library path)
      (fun host event => event.Fits primitives library path host) written
      between)
    (fitsAsk : (CommandLine.get name showPassword masterPassword).Fits
      primitives library path later askEnv) :
    Tells name showPassword answer shown := by
  obtain ⟨first, firstStep, atWritten⟩ :=
    Host.step_matched ideal sorts start
      (show HostEvent.Fits _ _ _ _ (.command line env) from fitsWrite) wrote
  obtain ⟨second, trace, atLater⟩ :=
    Simulation.run_zip (Host.step_matched ideal sorts) atWritten fits ran
  obtain ⟨_, lastStep, _⟩ :=
    Host.step_matched ideal sorts atLater
      (show HostEvent.Fits _ _ _ _
        (.command (.get name showPassword masterPassword) askEnv) from fitsAsk)
      asked
  have agrees : second.Agrees name answer := by
    have admitted : ∀ label ∈ between.zip transcripts,
        ¬ label.1.Undoes name answer :=
      fun label member => kept _ (List.of_mem_zip member).1
    have atFirst : first.Agrees name answer :=
      agrees_of_success settles printed firstStep atWritten
    exact trace.invariant (fun agrees keeps step => agrees.step keeps step)
      atFirst admitted
  exact agrees.tells lastStep

end Runs

namespace Symbolic

/-- The vault file of an empty vault, and no agent. -/
def onlyVault : Host := ⟨files Vault.empty masterPassword, none⟩

theorem represents_onlyVault :
    Represents primitives path onlyVault ⟨some ⟨masterPassword, .empty⟩,
      .absent⟩ :=
  ⟨.held rfl (encrypted Vault.empty masterPassword (by decide)) rfl, .absent⟩

/-- The state that a run of the host leads to. -/
def hostAfter (host : Host) (events : List HostEvent) : Host :=
  Run.reached (Host.step primitives library path) host events

def adding : CommandLine :=
  .add service [1] (.typed [2] [2]) masterPassword

/-- The password is changed, an agent is started and stopped, and an attempt
to add the same service again is refused. -/
def afterAdd : List HostEvent :=
  [.command (.rekey masterPassword [9] [9]) commandEnv, .agentStarted 900 0,
    .command (.add service [3] (.piped [4]) [9]) commandEnv,
    .command .agentStop commandEnv]

end Symbolic

/-- The account that was added is shown after the password was changed. -/
theorem last_write_shown_afterAdd :
    Tells Symbolic.service true (some ⟨Symbolic.service, [1], [2], []⟩)
      (Transcript.entry true true Symbolic.service Symbolic.service [1]
        [2]) := by
  have wrote := @Run.step_reached _ _ _
    (Host.step Symbolic.primitives Symbolic.library Symbolic.path)
    Symbolic.onlyVault (.command Symbolic.adding Symbolic.commandEnv)
    [Transcript.added Symbolic.service, Transcript.savedTo Symbolic.path]
    (by decide +kernel)
  have ran := @Run.run_reached _ _ _
    (Host.step Symbolic.primitives Symbolic.library Symbolic.path)
    (Symbolic.hostAfter Symbolic.onlyVault
      [.command Symbolic.adding Symbolic.commandEnv]) Symbolic.afterAdd
    [[.out (textBytes ("[\xe2\x9c\x93] Master password changed " ++
        "successfully! Vault has been re-encrypted.\n"))], [],
      .error (textBytes ("Service already exists. " ++
        "Please delete it first if you want to update.")),
      [.out (textBytes "Success: duckpass-agent stopped.\n")]]
    (by decide +kernel)
  have asked := @Run.step_reached _ _ _
    (Host.step Symbolic.primitives Symbolic.library Symbolic.path)
    (Symbolic.hostAfter (Symbolic.hostAfter Symbolic.onlyVault
      [.command Symbolic.adding Symbolic.commandEnv]) Symbolic.afterAdd)
    (.command (.get Symbolic.service true [9]) Symbolic.commandEnv)
    (.entry true true Symbolic.service Symbolic.service [1] [2])
    (by decide +kernel)
  have kept : ∀ event ∈ Symbolic.afterAdd, ¬ event.Undoes Symbolic.service
      (some ⟨Symbolic.service, [1], [2], []⟩) := by
    simp [Symbolic.afterAdd, HostEvent.Undoes, CommandLine.Undoes]
  exact last_write_shown Symbolic.ideal Symbolic.library_sorts
    Symbolic.represents_onlyVault (.added rfl) wrote rfl ran kept asked
    (by decide +kernel) (by decide +kernel) (by decide +kernel)

/-! ## Without the master password -/

/-- What is typed as the master password, if it is asked for. -/
def CommandLine.typed : CommandLine → Option SecureString
  | rekey oldPwd _ _ => some oldPwd
  | line => line.opensWith

def HostEvent.Types (masterPassword : SecureString) : HostEvent → Prop
  | .command line _ => line.typed = some masterPassword
  | _ => False

/-- The command is one of those that ask for the accounts. -/
def HostEvent.Asks : HostEvent → Prop
  | .command line _ => line.unlocksWith.isSome = true
  | _ => False

/-- The safe is closed: no agent has a session on it. -/
structure Store.Guarded (safe : SafeBox) (store : Store) : Prop where
  there : store.safe = some safe
  closed : ∀ view, store.agent ≠ .opened view

theorem CommandLine.typed_of_unlocksWith {line : CommandLine}
    {masterPassword : SecureString}
    (asks : line.unlocksWith = some masterPassword) :
    line.typed = some masterPassword := by
  cases line with
  | rekey => cases asks
  | _ => exact CommandLine.opensWith_of_unlocksWith asks

namespace Store.Guarded

variable {store after : Store} {safe : SafeBox} {masterPassword : SecureString}
  {hmacSha1 : HmacSha1} {path : Path} {event : HostEvent}
  {transcript : Transcript}

theorem shut (guarded : store.Guarded safe) : store.shut.Guarded safe where
  there := guarded.there
  closed := store.agent.shut_ne

/-- Whoever is shown accounts has typed the master password. -/
theorem password_of_shows (guarded : store.Guarded safe) {view : Accounts}
    (shows : store.Shows masterPassword view) :
    masterPassword = safe.masterPassword := by
  cases shows with
  | session opened => exact absurd opened (guarded.closed view)
  | unlocked there _ right =>
      rw [guarded.there] at there
      cases there
      exact right

theorem password_of_access (guarded : store.Guarded safe) {view : Accounts}
    {means : Means} (access : store.Access masterPassword means view after) :
    masterPassword = safe.masterPassword := by
  cases access with
  | agent shows => exact guarded.password_of_shows shows
  | direct there _ right =>
      rw [guarded.there] at there
      cases there
      exact right

/-- A step of a command that does not come with the password, seen from
outside: the safe stays closed and as it was, and only an error is printed. -/
theorem step (guarded : store.Guarded safe)
    (ignorant : ¬ event.Types safe.masterPassword)
    (step : StoreStep hmacSha1 path store (event, transcript) after) :
    after.Guarded safe ∧
      (event.Asks → ∃ text, transcript = [.err text]) := by
  have asked {line : CommandLine} {env : CommandEnv}
      {masterPassword : SecureString} {claim : Prop}
      (same : event = .command line env)
      (asks : line.unlocksWith = some masterPassword)
      (right : masterPassword = safe.masterPassword) : claim := by
    subst same right
    exact absurd (CommandLine.typed_of_unlocksWith asks) ignorant
  cases step with
  | safeExists => exact ⟨guarded, fun asks => by cases asks⟩
  | initRefused missing => exact ⟨guarded, fun _ => ⟨_, rfl⟩⟩
  | initFailed => exact ⟨guarded, fun _ => ⟨_, rfl⟩⟩
  | initialized missing =>
      rw [guarded.there] at missing
      cases missing
  | notInitialized => exact ⟨guarded, fun _ => ⟨_, rfl⟩⟩
  | denied => exact ⟨guarded.shut, fun _ => ⟨_, rfl⟩⟩
  | lapsed asks shows => exact asked rfl asks (guarded.password_of_shows shows)
  | answered asks access =>
      exact asked rfl asks (guarded.password_of_access access)
  | passwordsDoNotMatch _ access =>
      rcases access with rfl | ⟨view, rfl, shows⟩
      · exact ⟨guarded, fun _ => ⟨_, rfl⟩⟩
      · exact asked rfl rfl (guarded.password_of_shows shows)
  | refused asks access =>
      exact asked rfl asks (guarded.password_of_access access)
  | unsaved asks access =>
      exact asked rfl asks (guarded.password_of_access access)
  | saved asks access =>
      exact asked rfl asks (guarded.password_of_access access)
  | rekeyFailed => exact ⟨guarded, fun _ => ⟨_, rfl⟩⟩
  | rekeyUnkept there right =>
      rw [guarded.there] at there
      cases there
      exact absurd (congrArg some right) ignorant
  | rekeyed there right =>
      rw [guarded.there] at there
      cases there
      exact absurd (congrArg some right) ignorant
  | statusLocked => exact ⟨guarded.shut, fun asks => by cases asks⟩
  | statusOpened => exact ⟨guarded, fun asks => by cases asks⟩
  | noAgent about =>
      refine ⟨guarded, fun asks => ?_⟩
      rcases about with rfl | ⟨_, rfl⟩ | rfl | rfl
      all_goals cases asks
  | alreadyUnlocked => exact ⟨guarded, fun asks => by cases asks⟩
  | unlockDenied => exact ⟨guarded.shut, fun asks => by cases asks⟩
  | unlocked there _ right =>
      rw [guarded.there] at there
      cases there
      exact absurd (congrArg some right) ignorant
  | lock => exact ⟨guarded.shut, fun asks => by cases asks⟩
  | stop => exact ⟨⟨guarded.there, by simp⟩, fun asks => by cases asks⟩
  | agentStarted => exact ⟨⟨guarded.there, by simp⟩, fun asks => by cases asks⟩
  | agentChecked stays =>
      rcases stays with rfl | rfl
      · exact ⟨guarded, fun asks => by cases asks⟩
      · exact ⟨guarded.shut, fun asks => by cases asks⟩
  | agentKilled => exact ⟨⟨guarded.there, by simp⟩, fun asks => by cases asks⟩

/-- Over a whole run nobody gets at the accounts. -/
theorem trace {labels : List (HostEvent × Transcript)} {last : Store}
    (guarded : store.Guarded safe)
    (ignorant : ∀ label ∈ labels, ¬ label.1.Types safe.masterPassword)
    (trace : Simulation.Trace (StoreStep hmacSha1 path) store labels last) :
    last.Guarded safe ∧
      ∀ label ∈ labels, label.1.Asks → ∃ text, label.2 = [.err text] := by
  constructor
  · exact trace.invariant (fun guarded ignorant step =>
      (guarded.step ignorant step).1) guarded ignorant
  · exact trace.forall_labels
      (fun guarded ignorant step => (guarded.step ignorant step).1)
      (fun guarded ignorant step => (guarded.step ignorant step).2) guarded
      ignorant

end Store.Guarded

section Runs

variable {primitives : Primitives} {library : Library} {path : Path}
  {host last : Host} {store : Store} {events : List HostEvent}
  {transcripts : List Transcript}

/-- In a run in which nobody types the master password and that no session of
the agent precedes, every command on the accounts prints an error and nothing
else, and at the end the safe is as it was and still closed. -/
theorem unauthorised_run (ideal : primitives.Ideal) (sorts : library.Sorts)
    {safe : SafeBox} (start : Represents primitives path host store)
    (guarded : store.Guarded safe)
    (ignorant : ∀ event ∈ events, ¬ event.Types safe.masterPassword)
    (fits : Run.Along (Host.step primitives library path)
      (fun host event => event.Fits primitives library path host) host
      events)
    (finished : Run.run (Host.step primitives library path) host events =
      some (last, transcripts)) :
    (∃ storeLast, Represents primitives path last storeLast ∧
        storeLast.Guarded safe) ∧
      ∀ event transcript, (event, transcript) ∈ events.zip transcripts →
        event.Asks → ∃ text, transcript = [.err text] := by
  obtain ⟨storeLast, trace, ended⟩ :=
    Simulation.run_zip (Host.step_matched ideal sorts) start fits finished
  have admitted : ∀ label ∈ events.zip transcripts,
      ¬ label.1.Types safe.masterPassword :=
    fun label member => ignorant _ (List.of_mem_zip member).1
  obtain ⟨kept, refused⟩ := guarded.trace admitted trace
  exact ⟨⟨storeLast, ended, kept⟩, fun event transcript => refused _⟩

/-- A `rekey` that does not end with an error. -/
theorem StoreStep.of_rekeyed {hmacSha1 : HmacSha1} {after : Store}
    {oldPwd newPwd1 newPwd2 : SecureString} {env : CommandEnv}
    {transcript : Transcript} {text : SecureBytes}
    (printed : transcript.head? = some (.out text))
    (step : StoreStep hmacSha1 path store
      (.command (.rekey oldPwd newPwd1 newPwd2) env, transcript) after) :
    ∃ safe, store.safe = some safe ∧ oldPwd = safe.masterPassword ∧
      after.Guarded { safe with masterPassword := newPwd1 } := by
  cases step with
  | rekeyFailed => cases printed
  | rekeyUnkept => cases printed
  | rekeyed there right =>
      exact ⟨_, there, right, rfl, store.agent.shut_ne⟩
  | notInitialized asks => cases asks
  | denied asks => cases asks
  | lapsed asks => cases asks
  | answered asks => cases asks
  | refused asks => cases asks
  | unsaved asks => cases asks
  | saved asks => cases asks
  | noAgent about => simp at about

/-- After a `rekey` that succeeded the accounts are those of before, and with
the old password, or any other than the new one, no later run gets at them,
whatever session the agent had. -/
theorem rekey_revokes (ideal : primitives.Ideal) (sorts : library.Sorts)
    {changed : Host} {oldPwd newPwd1 newPwd2 : SecureString}
    {env : CommandEnv} {transcript : Transcript} {text : SecureBytes}
    (start : Represents primitives path host store)
    (rekeyed : host.step primitives library path
      (.command (.rekey oldPwd newPwd1 newPwd2) env) =
        some (changed, transcript))
    (printed : transcript.head? = some (.out text))
    (ignorant : ∀ event ∈ events, ¬ event.Types newPwd1)
    (fits : Run.Along (Host.step primitives library path)
      (fun host event => event.Fits primitives library path host) changed
      events)
    (finished : Run.run (Host.step primitives library path) changed events =
      some (last, transcripts)) :
    ∃ safe, store.safe = some safe ∧ oldPwd = safe.masterPassword ∧
      (∃ storeLast, Represents primitives path last storeLast ∧
        storeLast.Guarded { safe with masterPassword := newPwd1 }) ∧
      ∀ event transcript, (event, transcript) ∈ events.zip transcripts →
        event.Asks → ∃ text, transcript = [.err text] := by
  obtain ⟨after, step, atChanged⟩ :=
    Host.step_matched ideal sorts start
      (show HostEvent.Fits _ _ _ _
        (.command (.rekey oldPwd newPwd1 newPwd2) env) from
          ⟨fun _ asks => (by cases asks), fun _ _ asks => (by cases asks)⟩)
      rekeyed
  obtain ⟨safe, there, right, guarded⟩ := step.of_rekeyed printed
  obtain ⟨storeLast, trace, ended⟩ :=
    Simulation.run_zip (Host.step_matched ideal sorts) atChanged fits finished
  have admitted : ∀ label ∈ events.zip transcripts, ¬ label.1.Types newPwd1 :=
    fun label member => ignorant _ (List.of_mem_zip member).1
  obtain ⟨kept, refused⟩ := guarded.trace admitted trace
  exact ⟨safe, there, right, ⟨storeLast, ended, kept⟩,
    fun event transcript => refused _⟩

end Runs

namespace Symbolic

/-- A vault with one account, and an agent with a session on it. -/
def unlockedHost : Host :=
  ⟨files oneEntry masterPassword, some (unlockedAgent 900 oneEntry 0)⟩

theorem represents_unlockedHost :
    Represents primitives path unlockedHost
      ⟨some ⟨masterPassword, oneEntry.accounts⟩, .opened oneEntry.accounts⟩ :=
  ⟨.held rfl (encrypted oneEntry masterPassword (by decide)) rfl,
    .opened rfl rfl rfl (.whole rfl)⟩

def rekeying : HostEvent :=
  .command (.rekey masterPassword [9] [9]) commandEnv

/-- Attempts with the old password. -/
def lateAttempts : List HostEvent :=
  [.command (.get service true masterPassword) commandEnv,
    .command (.delete service masterPassword) commandEnv]

/-- That the password is wrong, for each of them. -/
def lateRefusals : List Transcript :=
  lateAttempts.map fun _ => .error DuckpassError.wrongPassword.what

theorem lateAttempts_ignorant :
    ∀ event ∈ lateAttempts, ¬ event.Types [9] := by
  simp [lateAttempts, HostEvent.Types, CommandLine.typed,
    CommandLine.opensWith, CommandLine.unlocksWith, masterPassword]

end Symbolic

/-- Without an agent, to a safe with the new password. -/
theorem unauthorised_run_lateAttempts :
    ∃ storeLast, Represents Symbolic.primitives Symbolic.path
        (Symbolic.hostAfter ⟨Symbolic.files Symbolic.oneEntry [9], none⟩
          Symbolic.lateAttempts) storeLast ∧
      storeLast.Guarded ⟨[9], Symbolic.oneEntry.accounts⟩ := by
  have finished := @Run.run_reached _ _ _
    (Host.step Symbolic.primitives Symbolic.library Symbolic.path)
    ⟨Symbolic.files Symbolic.oneEntry [9], none⟩ Symbolic.lateAttempts
    Symbolic.lateRefusals (by decide +kernel)
  have start : Represents Symbolic.primitives Symbolic.path
      ⟨Symbolic.files Symbolic.oneEntry [9], none⟩
      ⟨some ⟨[9], Symbolic.oneEntry.accounts⟩, .absent⟩ :=
    ⟨.held rfl (Symbolic.encrypted Symbolic.oneEntry [9] (by decide)) rfl,
      .absent⟩
  exact (unauthorised_run Symbolic.ideal Symbolic.library_sorts start
    ⟨rfl, by simp⟩ Symbolic.lateAttempts_ignorant (by decide +kernel)
    finished).1

/-- The session of the agent ends with the old password. -/
theorem rekey_revokes_session :
    ∃ storeLast, Represents Symbolic.primitives Symbolic.path
        (Symbolic.hostAfter
          (Symbolic.hostAfter Symbolic.unlockedHost [Symbolic.rekeying])
          Symbolic.lateAttempts) storeLast ∧
      storeLast.Guarded ⟨[9], Symbolic.oneEntry.accounts⟩ := by
  have rekeyed := @Run.step_reached _ _ _
    (Host.step Symbolic.primitives Symbolic.library Symbolic.path)
    Symbolic.unlockedHost Symbolic.rekeying
    [.out (textBytes ("[\xe2\x9c\x93] Master password changed " ++
      "successfully! Vault has been re-encrypted.\n"))] (by decide +kernel)
  have finished := @Run.run_reached _ _ _
    (Host.step Symbolic.primitives Symbolic.library Symbolic.path)
    (Symbolic.hostAfter Symbolic.unlockedHost [Symbolic.rekeying])
    Symbolic.lateAttempts Symbolic.lateRefusals (by decide +kernel)
  obtain ⟨safe, there, _, ended, _⟩ :=
    rekey_revokes Symbolic.ideal Symbolic.library_sorts
      Symbolic.represents_unlockedHost rekeyed rfl
      Symbolic.lateAttempts_ignorant (by decide +kernel) finished
  cases there
  exact ended

end DuckPass
