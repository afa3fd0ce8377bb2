/-
Module: DuckPass.System.StoreCommands
Purpose: What every subcommand may do to the accounts and to the agent's view
  of them, and what it then prints.
Trusted boundary: none
Main exports: Ranked, Accounts.code, CommandLine.update, Prints, StoreStep
-/
import DuckPass.System.AccountStore
import DuckPass.System.Commands

namespace DuckPass

/-! ## Answers -/

/-- The accounts that match the query, best first; for the empty query all of
them in their order. -/
structure Ranked (query : SecureString) (accounts : Accounts)
    (shown : List Account) : Prop where
  perm : shown.Perm
    (accounts.list.filter fun account => 0 < fuzzyMatch query account.service)
  ordered : shown.Pairwise fun first second =>
    fuzzyMatch query second.service ≤ fuzzyMatch query first.service
  whole : query = [] → shown = accounts.list

/-- The code of an account at the time that the clock shows. -/
def Accounts.code (accounts : Accounts) (hmacSha1 : HmacSha1)
    (service : SecureString) (clock : Clock) :
    Except DuckpassError (SecureString × UInt32) :=
  match accounts.find service with
  | none => .error (.invalidArgument "Service not found.")
  | some account =>
      if account.totpSecret.isEmpty then
        .error (.invalidArgument ("Service '" ++ quoteBytes service ++
          "' does not have a 2FA TOTP secret configured."))
      else generateTotp hmacSha1 account.totpSecret 0 30 6 clock

/-- The text for a service that is not there. -/
def missingText (name : SecureString) : Store.Means → SecureBytes
  | .agent => textBytes "Entry not found."
  | .direct => Transcript.notFoundText name

/-- What the commands that only read print of the accounts. -/
inductive Prints (hmacSha1 : HmacSha1) (means : Store.Means)
    (accounts : Accounts) : CommandLine → Transcript → Prop where
  | shown {name masterPassword : SecureString} {showPassword copies : Bool}
      {account : Account} (found : accounts.find name = some account) :
      Prints hmacSha1 means accounts (.get name showPassword masterPassword)
        (.entry showPassword copies name account.service account.username
          account.password)
  | missing {name masterPassword : SecureString} {showPassword : Bool}
      (absent : accounts.find name = none) :
      Prints hmacSha1 means accounts (.get name showPassword masterPassword)
        (.error (missingText name means))
  | listed {query masterPassword : SecureString} {shown : List Account}
      (listed : Ranked query accounts shown) :
      Prints hmacSha1 means accounts (.list query masterPassword)
        (.listing query
          (shown.map fun account => (account.service, account.username)))
  | code {serviceName masterPassword code : SecureString}
      {copyToClipboard copies : Bool} {clock : Clock} {remaining : UInt32}
      (computed : accounts.code hmacSha1 serviceName clock =
        .ok (code, remaining)) :
      Prints hmacSha1 means accounts
        (.otp serviceName copyToClipboard masterPassword)
        (.code copyToClipboard copies serviceName code remaining)
  | noCode {serviceName masterPassword : SecureString} {copyToClipboard : Bool}
      {clock : Clock} {error : DuckpassError}
      (failed : accounts.code hmacSha1 serviceName clock = .error error) :
      Prints hmacSha1 means accounts
        (.otp serviceName copyToClipboard masterPassword) (.error error.what)

/-! ## Command lines -/

namespace CommandLine

/-- The master password that the command asks for if it needs one for the
accounts. -/
def unlocksWith : CommandLine → Option SecureString
  | add _ _ _ masterPassword => some masterPassword
  | get _ _ masterPassword => some masterPassword
  | list _ masterPassword => some masterPassword
  | delete _ masterPassword => some masterPassword
  | otp _ _ masterPassword => some masterPassword
  | _ => none

/-- What the command makes of the accounts, if it writes. -/
def update : CommandLine → Option (Accounts → Except DuckpassError Accounts)
  | add name username entered _ =>
      entered.read.map fun password accounts =>
        accounts.add ⟨name, username, password, []⟩
  | delete name _ => some (·.delete name)
  | _ => none

/-- What a writing command prints when it has succeeded. -/
def success (path : Path) (line : CommandLine) (means : Store.Means) :
    Transcript :=
  (match line with
    | add name _ _ _ => [Transcript.added name]
    | delete name _ => [Transcript.deleted name]
    | _ => []) ++
    match means with
    | .agent => []
    | .direct => [Transcript.savedTo path]

/-- What the command prints when the agent turns out to be locked after all.
A list is then an empty one. -/
def lapsed : CommandLine → Transcript
  | list query _ => .listing query []
  | _ => .error (textBytes "Vault is locked in agent.")

end CommandLine

/-! ## Steps -/

/-- One step of the store under an event, with what is printed.  Wherever a
call of the operating system or of a library can fail, the text is that of the
failure and the store stays as it is, but for the one step that says otherwise.
-/
inductive StoreStep (hmacSha1 : HmacSha1) (path : Path) (store : Store) :
    HostEvent × Transcript → Store → Prop where
  /-- `init` never replaces a safe. -/
  | safeExists {pwd1 pwd2 : SecureString} {env : CommandEnv} {safe : SafeBox}
      (there : store.safe = some safe) :
      StoreStep hmacSha1 path store
        (.command (.init pwd1 pwd2) env, .vaultExists path) store
  | initRefused {pwd1 pwd2 : SecureString} {env : CommandEnv}
      {text : SecureBytes} (missing : store.safe = none)
      (unusable : pwd1 ≠ pwd2 ∨ pwd1 = []) :
      StoreStep hmacSha1 path store
        (.command (.init pwd1 pwd2) env, [.err text]) store
  | initFailed {pwd : SecureString} {env : CommandEnv} {text : SecureBytes}
      (missing : store.safe = none) :
      StoreStep hmacSha1 path store
        (.command (.init pwd pwd) env, [.err text]) store
  | initialized {pwd : SecureString} {env : CommandEnv}
      (missing : store.safe = none) (given : pwd ≠ []) :
      StoreStep hmacSha1 path store
        (.command (.init pwd pwd) env,
          [.out (textBytes "Success! Your vault has been initialized.\n")])
        { store with safe := some ⟨pwd, .empty⟩ }
  | notInitialized {line : CommandLine} {env : CommandEnv}
      {masterPassword : SecureString}
      (asks : line.unlocksWith = some masterPassword)
      (missing : store.safe = none) :
      StoreStep hmacSha1 path store (.command line env, .notInitialized) store
  /-- The right password is never called a wrong one. -/
  | denied {line : CommandLine} {env : CommandEnv}
      {masterPassword text : SecureString}
      (asks : line.unlocksWith = some masterPassword)
      (honest : text = DuckpassError.wrongPassword.what →
        ∀ safe, store.safe = some safe →
          masterPassword ≠ safe.masterPassword) :
      StoreStep hmacSha1 path store (.command line env, .error text) store.shut
  | lapsed {line : CommandLine} {env : CommandEnv}
      {masterPassword : SecureString} {view : Accounts}
      (asks : line.unlocksWith = some masterPassword)
      (shows : store.Shows masterPassword view) :
      StoreStep hmacSha1 path store (.command line env, line.lapsed) store.shut
  | answered {line : CommandLine} {env : CommandEnv} {transcript : Transcript}
      {masterPassword : SecureString} {means : Store.Means} {view : Accounts}
      {after : Store} (asks : line.unlocksWith = some masterPassword)
      (access : store.Access masterPassword means view after)
      (answers : Prints hmacSha1 means view line transcript) :
      StoreStep hmacSha1 path store (.command line env, transcript) after
  | passwordsDoNotMatch {name username masterPassword : SecureString}
      {entered : EnteredPassword} {env : CommandEnv} {after : Store}
      (differ : entered.read = none)
      (access : after = store ∨
        ∃ view, after = store.present view ∧
          store.Shows masterPassword view) :
      StoreStep hmacSha1 path store
        (.command (.add name username entered masterPassword) env,
          .passwordsDoNotMatch) after
  | refused {line : CommandLine} {env : CommandEnv}
      {masterPassword : SecureString} {means : Store.Means} {view : Accounts}
      {after : Store} {error : DuckpassError}
      {update : Accounts → Except DuckpassError Accounts}
      (asks : line.unlocksWith = some masterPassword)
      (access : store.Access masterPassword means view after)
      (updates : line.update = some update)
      (invalid : update view = .error error) :
      StoreStep hmacSha1 path store (.command line env, .error error.what)
        after
  | unsaved {line : CommandLine} {env : CommandEnv}
      {masterPassword : SecureString} {means : Store.Means}
      {view next : Accounts} {after : Store} {text : SecureBytes}
      {update : Accounts → Except DuckpassError Accounts}
      (asks : line.unlocksWith = some masterPassword)
      (access : store.Access masterPassword means view after)
      (updates : line.update = some update)
      (valid : update view = .ok next) :
      StoreStep hmacSha1 path store (.command line env, .error text)
        (after.unsaved next means)
  | saved {line : CommandLine} {env : CommandEnv}
      {masterPassword : SecureString} {means : Store.Means}
      {view next : Accounts} {after : Store}
      {update : Accounts → Except DuckpassError Accounts}
      (asks : line.unlocksWith = some masterPassword)
      (access : store.Access masterPassword means view after)
      (updates : line.update = some update)
      (valid : update view = .ok next) :
      StoreStep hmacSha1 path store
        (.command line env, line.success path means)
        (after.saved next means)
  /-- `rekey` tells nothing of the accounts and leaves the agent locked. -/
  | rekeyFailed {oldPwd newPwd1 newPwd2 : SecureString} {env : CommandEnv}
      {text : SecureBytes} :
      StoreStep hmacSha1 path store
        (.command (.rekey oldPwd newPwd1 newPwd2) env, [.err text]) store
  /-- A `rekey` that has written the safe and cannot keep the new password in
  memory says that it failed, and leaves the agent alone. -/
  | rekeyUnkept {oldPwd newPwd : SecureString} {env : CommandEnv}
      {safe : SafeBox} {text : SecureBytes} (there : store.safe = some safe)
      (right : oldPwd = safe.masterPassword) (given : newPwd ≠ []) :
      StoreStep hmacSha1 path store
        (.command (.rekey oldPwd newPwd newPwd) env, [.err text])
        { store with safe := some { safe with masterPassword := newPwd } }
  | rekeyed {oldPwd newPwd : SecureString} {env : CommandEnv} {safe : SafeBox}
      (there : store.safe = some safe) (right : oldPwd = safe.masterPassword)
      (given : newPwd ≠ []) :
      StoreStep hmacSha1 path store
        (.command (.rekey oldPwd newPwd newPwd) env,
          [.out (textBytes ("[\xe2\x9c\x93] Master password changed " ++
            "successfully! Vault has been re-encrypted.\n"))])
        { safe := some { safe with masterPassword := newPwd }
          agent := store.agent.shut }
  /-- The other commands print lines of their own, and none of an account. -/
  | statusLocked {env : CommandEnv} {timeout total : UInt32}
      (there : store.agent ≠ .absent) :
      StoreStep hmacSha1 path store
        (.command .agentStatus env, .status ⟨false, timeout, total⟩) store.shut
  | statusOpened {env : CommandEnv} {timeout : UInt32} {view : Accounts}
      (opened : store.agent = .opened view) :
      StoreStep hmacSha1 path store
        (.command .agentStatus env,
          .status ⟨true, timeout, UInt32.ofNat view.list.length⟩) store
  | noAgent {line : CommandLine} {env : CommandEnv} {effect : Effect}
      (about : line = .agentStatus ∨ (∃ pwd, line = .agentUnlock pwd) ∨
        line = .agentLock ∨ line = .agentStop)
      (alone : store.agent = .absent)
      (printed : ∃ text, effect = .out text ∨ effect = .err text) :
      StoreStep hmacSha1 path store (.command line env, [effect]) store
  | alreadyUnlocked {masterPassword : SecureString} {env : CommandEnv}
      {view : Accounts} (opened : store.agent = .opened view) :
      StoreStep hmacSha1 path store
        (.command (.agentUnlock masterPassword) env,
          [.out (textBytes ("Info: Agent is already unlocked (" ++
            toString (UInt32.ofNat view.list.length).toNat ++
            " entries loaded).\n"))]) store
  | unlockDenied {masterPassword text : SecureString} {env : CommandEnv}
      (there : store.agent ≠ .absent)
      (honest : text = DuckpassError.wrongPassword.what →
        ∀ safe, store.safe = some safe →
          masterPassword ≠ safe.masterPassword) :
      StoreStep hmacSha1 path store
        (.command (.agentUnlock masterPassword) env,
          [.err (textBytes "Error unlocking agent: " ++ text ++
            textBytes "\n")]) store.shut
  | unlocked {masterPassword : SecureString} {env : CommandEnv} {safe : SafeBox}
      (there : store.safe = some safe) (agent : store.agent ≠ .absent)
      (right : masterPassword = safe.masterPassword) :
      StoreStep hmacSha1 path store
        (.command (.agentUnlock masterPassword) env,
          [.out (textBytes ("Success: Agent unlocked successfully! " ++
            "Subsequent CLI commands will execute without prompting.\n"))])
        (store.present safe.accounts)
  | lock {env : CommandEnv} (there : store.agent ≠ .absent) :
      StoreStep hmacSha1 path store
        (.command .agentLock env,
          [.out (textBytes ("Success: Agent locked. " ++
            "In-memory keys have been securely purged.\n"))]) store.shut
  | stop {env : CommandEnv} (there : store.agent ≠ .absent) :
      StoreStep hmacSha1 path store
        (.command .agentStop env,
          [.out (textBytes "Success: duckpass-agent stopped.\n")])
        { store with agent := .absent }
  | agentStarted {idleTimeoutSeconds : UInt32} {now : Nat}
      (alone : store.agent = .absent) :
      StoreStep hmacSha1 path store
        (.agentStarted idleTimeoutSeconds now, [])
        { store with agent := .locked }
  | agentChecked {now : Nat} {after : Store}
      (stays : after = store ∨ after = store.shut) :
      StoreStep hmacSha1 path store (.agentChecked now, []) after
  | agentKilled :
      StoreStep hmacSha1 path store (.agentKilled, [])
        { store with agent := .absent }

end DuckPass
