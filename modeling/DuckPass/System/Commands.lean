/-
Module: DuckPass.System.Commands
Purpose: The subcommands `init`, `add`, `get`, `list`, `delete`, `otp`, `rekey`
  and `agent` as whole runs of the program: what each reads, which connections
  it makes to the agent, what it does without one, and every text it prints but
  the prompts.
Trusted boundary: one configuration names the vault file; what is typed at a
  prompt is given with the command; a running agent is reached by every
  connection and answers it within the time-outs; commands run one after the
  other.
Main exports: Host, Visit, CommandEnv, Effect, Host.openSession,
  CommandLine, HostEvent, Host.step
-/
import DuckPass.Core.SessionControl
import DuckPass.Lib.Run
import DuckPass.Proofs.AgentPeer

namespace DuckPass

/-- The user's files, and the agent if it runs. -/
structure Host where
  files : Files
  agent : Option AgentServer

/-- What one connection meets in the agent: the last idle check before it, and
what the handler finds around it. -/
structure Visit where
  checkedAt : Nat
  now : Nat
  clock : Clock
  load : LoadFaults
  commit : CommitEnv

/-- What one command meets: its connections in their order, the calls that it
makes itself when there is no agent, and whether the clipboard takes a
text. -/
structure CommandEnv where
  ping : Visit
  status : Visit
  unlock : Visit
  request : Visit
  clock : Clock
  load : LoadFaults
  commit : CommitEnv
  copies : Bool

/-- What a command leaves on the terminal and on the clipboard. -/
inductive Effect where
  | out (text : SecureBytes)
  | err (text : SecureBytes)
  | copied (text : SecureString)
  | clearsAfter (seconds : Nat)
deriving Repr, Inhabited, DecidableEq

abbrev Transcript := List Effect

/-! ## Texts -/

namespace Transcript

/-- A text of the program with a byte string in single quotes in it. -/
def around (before : String) (name : SecureString) (after : String) :
    SecureBytes :=
  textBytes (before ++ "'") ++ name ++ textBytes ("'" ++ after ++ "\n")

def error (text : SecureBytes) : Transcript :=
  [.err (textBytes "Error: " ++ text ++ textBytes "\n")]

def notInitialized : Transcript :=
  [.err (textBytes ("Error: Vault has not been initialized.\n" ++
    "Please run 'duckpass init' to create a new storage.\n"))]

def passwordsDoNotMatch : Transcript :=
  [.err (textBytes "Error: Passwords do not match. Entry not added.\n")]

/-- What follows a success without an agent. -/
def savedTo (path : Path) : Effect :=
  .out (textBytes ("Vault saved successfully to " ++ path.string ++ "\n"))

def added (name : SecureString) : Effect :=
  .out (around "Success: Entry " name " added.")

def deleted (name : SecureString) : Effect :=
  .out (around "Success: Entry " name " has been deleted.")

/-- How `get` shows an entry, or puts its password on the clipboard. -/
def entry (showPassword copies : Bool)
    (name service username password : SecureString) : Transcript :=
  if showPassword then
    [.out (textBytes "Entry: " ++ service ++ textBytes "\n"),
      .out (textBytes "  Username: " ++ username ++ textBytes "\n"),
      .out (textBytes "  Password: " ++ password ++ textBytes "\n")]
  else if copies then
    [.copied password,
      .out (around "Password for " name " copied to clipboard."),
      .out (textBytes
        "It will be cleared automatically in 30 seconds.\n"),
      .clearsAfter 30]
  else
    [.err (textBytes "Error: Could not copy to clipboard.\n"),
      .out (textBytes "Use --show to print to terminal instead.\n")]

/-- `Entry '…' not found.` -/
def notFoundText (name : SecureString) : SecureBytes :=
  textBytes "Entry '" ++ name ++ textBytes "' not found."

/-- How `list` shows the pairs it has got. -/
def listing (query : SecureString)
    (entries : List (SecureString × SecureString)) : Transcript :=
  if entries.isEmpty then
    if query.isEmpty then [.out (textBytes "The vault is currently empty.\n")]
    else [.out (around "No services found matching the query " query ".")]
  else
    (if query.isEmpty then
      [.out (textBytes "--- List of all services ---\n")] else []) ++
      entries.map fun (svc, usr) =>
        .out (textBytes "Service: " ++ svc ++ textBytes " | Username: " ++
          usr ++ textBytes "\n")

/-- How `otp` shows a code.  The copy for the clipboard is made from a C
string. -/
def code (copyToClipboard copies : Bool)
    (serviceName code : SecureString) (remaining : UInt32) : Transcript :=
  .out (textBytes "2FA Code for '" ++ serviceName ++
      textBytes "': \x1b[1;32m" ++ code ++ textBytes ("\x1b[0m (expires in " ++
        toString remaining.toNat ++ "s)\n")) ::
    if !copyToClipboard then []
    else if copies then
      [.copied (code.takeWhile (· ≠ 0)),
        .out (textBytes ("[\xe2\x9c\x93] 2FA code copied to clipboard " ++
          "(will be cleared in 15s).\n")),
        .clearsAfter 15]
    else [.err (textBytes "[!] Could not copy to clipboard.\n")]

/-- A path as `operator<<` prints it: in double quotes, with a backslash before
each of these and each backslash. -/
def quoted (path : Path) : SecureBytes :=
  0x22 :: ((textBytes path.string).flatMap fun byte =>
    if byte = 0x22 ∨ byte = 0x5C then [0x5C, byte] else [byte]) ++ [0x22]

def vaultExists (path : Path) : Transcript :=
  [.err (textBytes "Vault already exists at: " ++ quoted path ++
    textBytes ("\nHint: Use 'duckpass rekey' if you want to change the " ++
      "master password.\n"))]

def status (status : IpcClient.AgentStatus) : Transcript :=
  .out (textBytes "[Agent]: RUNNING\n") ::
    .out (textBytes ("  State: " ++
      (if status.isUnlocked then "UNLOCKED" else "LOCKED") ++ "\n")) ::
    if status.isUnlocked then
      [.out (textBytes ("  Vault Entries: " ++
          toString status.totalEntries.toNat ++ "\n")),
        .out (textBytes ("  Auto-lock in:  " ++
          toString status.timeoutRemainingSeconds.toNat ++ "s\n"))]
    else []

end Transcript

/-- How the password of a new entry is given: typed twice on a terminal, or
piped in. -/
inductive EnteredPassword where
  | typed (p1 p2 : SecureString)
  | piped (password : SecureString)
deriving Repr, Inhabited, DecidableEq

/-- The password, unless the two that were typed differ. -/
def EnteredPassword.read : EnteredPassword → Option SecureString
  | typed p1 p2 => if p1 ≠ p2 then none else some p1
  | piped password => some password

namespace Host

section Commands

variable (primitives : Primitives) (library : Library) (path : Path)

/-! ## Connections -/

/-- The agent as a connection meets it. -/
def peer (host : Host) (visit : Visit) (agent : AgentServer) : AgentPeer where
  primitives := primitives
  library := library
  env := ⟨visit.now, visit.clock, .ok path, visit.load, visit.commit⟩
  agent := agent.checkIdleTimeout visit.checkedAt
  storage := .start host.files

/-- A connection of the client; without an agent there is none. -/
def connection (host : Host) (visit : Visit) : Connection :=
  match host.agent with
  | none => ⟨false, false, fun _ => []⟩
  | some agent => (host.peer primitives library path visit agent).connection

/-- What a connection leaves behind.  An agent that was told to stop is gone
when its loop comes round. -/
def after (host : Host) (visit : Visit) (command : CommandOpcode)
    (payload : SecureBytes) : Host :=
  match host.agent with
  | none => host
  | some agent =>
      let handled := (host.peer primitives library path visit agent).handle
        command payload
      { files := handled.storage.files
        agent := if handled.agent.running then some handled.agent else none }

/-- One call of the client. -/
def call {α : Type} (host : Host) (visit : Visit) (command : CommandOpcode)
    (payload : SecureBytes) (client : Connection → α) : α × Host :=
  (client (host.connection primitives library path visit),
    host.after primitives library path visit command payload)

/-- What a command finds before its own request. -/
inductive Opening where
  | noAgent
  | refused (unlockErr : SecureBytes)
  | opened
deriving Repr, Inhabited, DecidableEq

/-- The block with which `add`, `get`, `list`, `delete` and `otp` turn to the
agent: is it there, is it locked, and if so, unlock it with the password typed
at the prompt. -/
def openSession (env : CommandEnv) (masterPassword : SecureString)
    (host : Host) : Opening × Host :=
  let (available, host) :=
    host.call primitives library path env.ping .ping [] IpcClient.ping
  if !available then (.noAgent, host)
  else
    let (status, host) :=
      host.call primitives library path env.status .status []
        IpcClient.getStatus
    match status with
    | some ⟨false, _, _⟩ =>
        let (unlocked, host) :=
          host.call primitives library path env.unlock .unlock
            (IpcClient.unlockPayload masterPassword)
            (IpcClient.unlock · masterPassword [])
        match unlocked with
        | .error unlockErr => (.refused unlockErr, host)
        | .ok () => (.opened, host)
    | _ => (.opened, host)

/-! ## Commands on entries -/

/-- A writing call on a service constructed for this one command. -/
def write (env : CommandEnv) (host : Host) (vaultService : VaultService)
    (request : Request) (done : Transcript) : Transcript × Host :=
  let outcome := request.execute primitives env.commit env.clock vaultService
    (.start host.files)
  let host := { host with files := outcome.storage.files }
  match outcome.result with
  | .error error => (.error error.what, host)
  | .ok () => (done, host)

/-- A service constructed without an agent, or the text of the exception. -/
def construct (env : CommandEnv) (masterPassword : SecureString)
    (host : Host) (use : VaultService → Transcript × Host) :
    Transcript × Host :=
  match VaultService.construct primitives env.load path masterPassword
      host.files env.clock with
  | .error error => (.error error.what, host)
  | .ok vaultService => use vaultService

/-- The callback of `add_command.cpp`. -/
def addCommand (env : CommandEnv) (name username : SecureString)
    (entered : EnteredPassword) (masterPassword : SecureString)
    (host : Host) : Transcript × Host :=
  if (host.files path).isNone then (.notInitialized, host)
  else
    match host.openSession primitives library path env masterPassword with
    | (.refused unlockErr, host) => (.error unlockErr, host)
    | (.opened, host) =>
        match entered.read with
        | none => (.passwordsDoNotMatch, host)
        | some password =>
            let entry : EntryData := ⟨name, username, password, []⟩
            let (result, host) :=
              host.call primitives library path env.request .addEntry
                (IpcClient.addPayload entry) (IpcClient.addEntry · entry [])
            match result with
            | .ok () => ([Transcript.added name], host)
            | .error err => (.error err, host)
    | (.noAgent, host) =>
        match entered.read with
        | none => (.passwordsDoNotMatch, host)
        | some password =>
            host.construct primitives path env masterPassword
              fun vaultService =>
                host.write primitives env vaultService
                  (.addEntry name username password [])
                  [Transcript.added name, Transcript.savedTo path]

/-- The callback of `delete_command.cpp`. -/
def deleteCommand (env : CommandEnv) (name masterPassword : SecureString)
    (host : Host) : Transcript × Host :=
  if (host.files path).isNone then (.notInitialized, host)
  else
    match host.openSession primitives library path env masterPassword with
    | (.refused unlockErr, host) => (.error unlockErr, host)
    | (.opened, host) =>
        let (result, host) :=
          host.call primitives library path env.request .deleteEntry
            (IpcClient.appendSecureString [] name)
            (IpcClient.deleteEntry · name [])
        match result with
        | .ok () => ([Transcript.deleted name], host)
        | .error err => (.error err, host)
    | (.noAgent, host) =>
        host.construct primitives path env masterPassword fun vaultService =>
          host.write primitives env vaultService (.deleteEntry name)
            [Transcript.deleted name, Transcript.savedTo path]

/-- The callback of `get_command.cpp`. -/
def getCommand (env : CommandEnv) (name : SecureString) (showPassword : Bool)
    (masterPassword : SecureString) (host : Host) : Transcript × Host :=
  match host.openSession primitives library path env masterPassword with
  | (.refused unlockErr, host) => (.error unlockErr, host)
  | (.opened, host) =>
      let (result, host) :=
        host.call primitives library path env.request .getEntry
          (IpcClient.appendSecureString [] name)
          (IpcClient.getEntry · name [])
      match result with
      | .error err =>
          (.error (if err.isEmpty then Transcript.notFoundText name else err),
            host)
      | .ok entry =>
          (.entry showPassword env.copies name entry.service entry.username
            entry.password, host)
  | (.noAgent, host) =>
      if (host.files path).isNone then (.notInitialized, host)
      else
        host.construct primitives path env masterPassword fun vaultService =>
          match vaultService.getEntry name with
          | none => (.error (Transcript.notFoundText name), host)
          | some entry =>
              (.entry showPassword env.copies name entry.service
                entry.username entry.password, host)

/-- The callback of `list_command.cpp`. -/
def listCommand (env : CommandEnv) (query masterPassword : SecureString)
    (host : Host) : Transcript × Host :=
  match host.openSession primitives library path env masterPassword with
  | (.refused unlockErr, host) => (.error unlockErr, host)
  | (.opened, host) =>
      let (entries, host) :=
        host.call primitives library path env.request .listEntries
          (IpcClient.appendString [] query) (IpcClient.listEntries · query)
      (.listing query entries, host)
  | (.noAgent, host) =>
      if (host.files path).isNone then (.notInitialized, host)
      else
        host.construct primitives path env masterPassword fun vaultService =>
          (.listing query ((vaultService.listEntries library query).map
            fun entry => (entry.service, entry.username)), host)

/-- The callback of `otp_command.cpp`. -/
def otpCommand (env : CommandEnv) (serviceName : SecureString)
    (copyToClipboard : Bool) (masterPassword : SecureString) (host : Host) :
    Transcript × Host :=
  match host.openSession primitives library path env masterPassword with
  | (.refused unlockErr, host) => (.error unlockErr, host)
  | (.opened, host) =>
      let (result, host) :=
        host.call primitives library path env.request .getTotp
          (IpcClient.appendSecureString [] serviceName)
          (IpcClient.getTotp · serviceName [])
      match result with
      | .error err => (.error err, host)
      | .ok res =>
          (.code copyToClipboard env.copies serviceName res.code
            res.remainingSeconds, host)
  | (.noAgent, host) =>
      if (host.files path).isNone then (.notInitialized, host)
      else
        host.construct primitives path env masterPassword fun vaultService =>
          match vaultService.getTotpCode library serviceName env.clock with
          | .error error => (.error error.what, host)
          | .ok (code, remaining) =>
              (.code copyToClipboard env.copies serviceName code remaining,
                host)

/-! ## Commands on the vault -/

/-- The callback of `init_command.cpp`. -/
def initCommand (env : CommandEnv) (pwd1 pwd2 : SecureString)
    (host : Host) : Transcript × Host :=
  if (host.files path).isSome then (.vaultExists path, host)
  else if pwd1 ≠ pwd2 then
    ([.err (textBytes
      "Error: Passwords do not match. Initialization aborted.\n")], host)
  else if pwd1.isEmpty then
    ([.err (textBytes "Error: Master password cannot be empty.\n")], host)
  else
    match saveVault primitives env.commit.encrypt env.commit.vaultWrite path
        Vault.empty pwd1 true (.start host.files) with
    | (.error error, storage) =>
        ([.err (textBytes "System error during vault initialization: " ++
          error.what ++ textBytes "\n")], { host with files := storage.files })
    | (.ok (), storage) =>
        ([.out (textBytes "Success! Your vault has been initialized.\n")],
          { host with files := storage.files })

/-- The lock with which `rekey` ends, if the agent is there. -/
def lockIfAvailable (env : CommandEnv) (host : Host) : Host :=
  let (available, host) :=
    host.call primitives library path env.ping .ping [] IpcClient.ping
  if available then
    (host.call primitives library path env.request .lock [] IpcClient.lock).2
  else host

/-- The callback of `rekey_command.cpp`. -/
def rekeyCommand (env : CommandEnv) (oldPwd newPwd1 newPwd2 : SecureString)
    (host : Host) : Transcript × Host :=
  if (host.files path).isNone then
    ([.err (textBytes
      "Error: No Vault found. Please run 'duckpass init' first.\n")], host)
  else
    host.construct primitives path env oldPwd fun vaultService =>
      if newPwd1 ≠ newPwd2 then
        (.error (textBytes
          "New passwords do not match. Operation cancelled."), host)
      else
        let outcome := vaultService.rekey primitives env.commit env.clock
          newPwd1 (.start host.files)
        let host := { host with files := outcome.storage.files }
        match outcome.result with
        | .error error => (.error error.what, host)
        | .ok () =>
            ([.out (textBytes ("[\xe2\x9c\x93] Master password changed " ++
              "successfully! Vault has been re-encrypted.\n"))],
              host.lockIfAvailable primitives library path env)

/-! ## Commands on the agent -/

/-- `agent status`. -/
def agentStatusCommand (env : CommandEnv) (host : Host) :
    Transcript × Host :=
  let (available, host) :=
    host.call primitives library path env.ping .ping [] IpcClient.ping
  if !available then
    ([.out (textBytes ("[Agent]: NOT RUNNING\n" ++
      "Hint: Run 'duckpass agent start' to launch the background agent.\n"))],
      host)
  else
    let (status, host) :=
      host.call primitives library path env.status .status []
        IpcClient.getStatus
    match status with
    | none =>
        (.error (textBytes "Could not retrieve status from agent."), host)
    | some status => (.status status, host)

/-- `agent unlock`. -/
def agentUnlockCommand (env : CommandEnv) (masterPassword : SecureString)
    (host : Host) : Transcript × Host :=
  let (available, host) :=
    host.call primitives library path env.ping .ping [] IpcClient.ping
  if !available then
    (.error (textBytes ("duckpass-agent is not running. " ++
      "Start it with 'duckpass agent start'.")), host)
  else
    let (status, host) :=
      host.call primitives library path env.status .status []
        IpcClient.getStatus
    match status with
    | some ⟨true, _, totalEntries⟩ =>
        ([.out (textBytes ("Info: Agent is already unlocked (" ++
          toString totalEntries.toNat ++ " entries loaded).\n"))], host)
    | _ =>
        let (unlocked, host) :=
          host.call primitives library path env.unlock .unlock
            (IpcClient.unlockPayload masterPassword)
            (IpcClient.unlock · masterPassword [])
        match unlocked with
        | .ok () =>
            ([.out (textBytes ("Success: Agent unlocked successfully! " ++
              "Subsequent CLI commands will execute without prompting.\n"))],
              host)
        | .error err =>
            ([.err (textBytes "Error unlocking agent: " ++ err ++
              textBytes "\n")], host)

/-- `agent lock`. -/
def agentLockCommand (env : CommandEnv) (host : Host) :
    Transcript × Host :=
  let (available, host) :=
    host.call primitives library path env.ping .ping [] IpcClient.ping
  if !available then
    ([.out (textBytes "Info: Agent is not running.\n")], host)
  else
    let (locked, host) :=
      host.call primitives library path env.request .lock [] IpcClient.lock
    if locked then
      ([.out (textBytes ("Success: Agent locked. " ++
        "In-memory keys have been securely purged.\n"))], host)
    else (.error (textBytes "Failed to lock agent."), host)

/-- `agent stop`. -/
def agentStopCommand (env : CommandEnv) (host : Host) :
    Transcript × Host :=
  let (available, host) :=
    host.call primitives library path env.ping .ping [] IpcClient.ping
  if !available then
    ([.out (textBytes "Info: Agent is not running.\n")], host)
  else
    let (stopped, host) :=
      host.call primitives library path env.request .stop []
        IpcClient.stopAgent
    if stopped then
      ([.out (textBytes "Success: duckpass-agent stopped.\n")], host)
    else (.error (textBytes "Failed to stop agent."), host)

end Commands

end Host

/-! ## Runs -/

/-- A subcommand with its arguments and with what is typed at its prompts.  The
master password is the one asked for, if it is asked for. -/
inductive CommandLine where
  | init (pwd1 pwd2 : SecureString)
  | add (name username : SecureString) (entered : EnteredPassword)
      (masterPassword : SecureString)
  | get (name : SecureString) (showPassword : Bool)
      (masterPassword : SecureString)
  | list (query masterPassword : SecureString)
  | delete (name masterPassword : SecureString)
  | otp (serviceName : SecureString) (copyToClipboard : Bool)
      (masterPassword : SecureString)
  | rekey (oldPwd newPwd1 newPwd2 : SecureString)
  | agentStatus
  | agentUnlock (masterPassword : SecureString)
  | agentLock
  | agentStop
deriving Repr, Inhabited, DecidableEq

/-- What can happen next: a command is run, an agent starts, its loop comes
round without a connection, or its process ends. -/
inductive HostEvent where
  | command (line : CommandLine) (env : CommandEnv)
  | agentStarted (idleTimeoutSeconds : UInt32) (now : Nat)
  | agentChecked (now : Nat)
  | agentKilled

namespace Host

variable (primitives : Primitives) (library : Library) (path : Path)

/-- One run of the program. -/
def run (env : CommandEnv) (host : Host) :
    CommandLine → Transcript × Host
  | .init pwd1 pwd2 => host.initCommand primitives path env pwd1 pwd2
  | .add name username entered masterPassword =>
      host.addCommand primitives library path env name username entered
        masterPassword
  | .get name showPassword masterPassword =>
      host.getCommand primitives library path env name showPassword
        masterPassword
  | .list query masterPassword =>
      host.listCommand primitives library path env query masterPassword
  | .delete name masterPassword =>
      host.deleteCommand primitives library path env name masterPassword
  | .otp serviceName copyToClipboard masterPassword =>
      host.otpCommand primitives library path env serviceName copyToClipboard
        masterPassword
  | .rekey oldPwd newPwd1 newPwd2 =>
      host.rekeyCommand primitives library path env oldPwd newPwd1 newPwd2
  | .agentStatus => host.agentStatusCommand primitives library path env
  | .agentUnlock masterPassword =>
      host.agentUnlockCommand primitives library path env masterPassword
  | .agentLock => host.agentLockCommand primitives library path env
  | .agentStop => host.agentStopCommand primitives library path env

/-- One step.  A second agent does not start while one runs. -/
def step (host : Host) : HostEvent → Option (Host × Transcript)
  | .command line env =>
      let (transcript, host) := host.run primitives library path env line
      some (host, transcript)
  | .agentStarted idleTimeoutSeconds now =>
      if host.agent.isSome then none
      else some ({ host with
        agent := some ⟨idleTimeoutSeconds, true, none, now⟩ }, [])
  | .agentChecked now =>
      some ({ host with
        agent := host.agent.map (·.checkIdleTimeout now) }, [])
  | .agentKilled => some ({ host with agent := none }, [])

end Host

end DuckPass
