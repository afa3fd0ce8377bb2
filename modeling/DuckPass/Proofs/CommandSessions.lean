/-
Module: DuckPass.Proofs.CommandSessions
Purpose: The host of the subcommands as the store that it stands for, and what
  the connections of a command find: an agent or none, a session that may have
  lapsed, and a request that is served or refused.
Trusted boundary: the named properties of the primitives; every packet is
  within the limit.
Main exports: Represents, Opened, openSession_cases, EntryCall.payload,
  request_cases, lockIfAvailable_attends
-/
import DuckPass.Proofs.SafeKeeping
import DuckPass.Proofs.SessionControl

namespace DuckPass

/-! ## The agent as a view -/

/-- What the agent offers, given what is in the safe. -/
inductive Attends (path : Path) (stored : Option SafeBox) :
    Option AgentServer → AgentView → Prop where
  | absent : Attends path stored none .absent
  | locked {server : AgentServer} (running : server.running = true)
      (session : server.vaultService = none) :
      Attends path stored (some server) .locked
  | opened {server : AgentServer} {service : VaultService} {safe : SafeBox}
      {view : Accounts} (running : server.running = true)
      (session : server.vaultService = some service)
      (there : stored = some safe) (works : WorksOn path service safe view) :
      Attends path stored (some server) (.opened view)

/-- A session that is open goes on showing its view under a new master
password. -/
theorem Attends.rekeyed {path : Path} {stored : Option SafeBox}
    {agent : Option AgentServer} {view : AgentView} {safe : SafeBox}
    (attends : Attends path stored agent view) (there : stored = some safe)
    (newPwd : SecureString) :
    Attends path (some { safe with masterPassword := newPwd }) agent view := by
  cases attends with
  | absent => exact .absent
  | locked running session => exact .locked running session
  | opened running session found works =>
      rw [there] at found
      cases found
      exact .opened running session rfl
        ⟨works.vaultPath, works.shows, works.spans⟩

/-- The files hold the safe and the agent offers the view. -/
structure Represents (primitives : Primitives) (path : Path) (host : Host)
    (store : Store) : Prop where
  keeps : Keeps primitives (host.files path) store.safe
  attends : Attends path store.safe host.agent store.agent

@[simp] theorem AgentView.shut_shut (view : AgentView) :
    view.shut.shut = view.shut := by
  cases view <;> rfl

/-- A session that is shut shows nothing. -/
theorem AgentView.shut_ne (agent : AgentView) (view : Accounts) :
    agent.shut ≠ .opened view := by
  cases agent <;> simp [AgentView.shut]

@[simp] theorem Store.shut_shut (store : Store) :
    store.shut.shut = store.shut := by
  rw [shut, shut, AgentView.shut_shut]

/-- A view that is open is the one that is shown. -/
theorem Store.present_of_opened {store : Store} {view : Accounts}
    (opened : store.agent = .opened view) : store.present view = store := by
  rw [present, ← opened]

/-- Whoever is shown something can be shut out again. -/
theorem Store.Shows.shut_present {store : Store}
    {masterPassword : SecureString} {view other : Accounts}
    (shows : store.Shows masterPassword view) :
    (store.present other).shut = store.shut := by
  have there : store.agent ≠ .absent := by
    cases shows with
    | session opened =>
        rw [opened]
        simp
    | unlocked _ agent => exact agent
  rw [shut, shut, present]
  cases agent : store.agent with
  | absent => exact absurd agent there
  | locked => rfl
  | opened => rfl

/-- A locked agent is shut already. -/
theorem Store.shut_of_locked {store : Store} (locked : store.agent = .locked) :
    store.shut = store := by
  rw [shut, locked, AgentView.shut, ← locked]

/-- So is one that is not there. -/
theorem Store.shut_of_absent {store : Store} (absent : store.agent = .absent) :
    store.shut = store := by
  rw [shut, absent, AgentView.shut, ← absent]

section Agent

variable {path : Path} {stored : Option SafeBox} {server : AgentServer}
  {view : AgentView}

/-- The check does not end the agent. -/
theorem AgentServer.checkIdleTimeout_running (now : Nat) :
    (server.checkIdleTimeout now).running = server.running := by
  unfold checkIdleTimeout
  split
  · rfl
  · split
    · rfl
    · rfl

/-- An agent that is attended runs. -/
theorem Attends.running (attends : Attends path stored (some server) view) :
    server.running = true := by
  cases attends with
  | locked running => exact running
  | opened running => exact running

/-- So it is not absent. -/
theorem Attends.not_absent (attends : Attends path stored (some server) view) :
    view ≠ .absent := by
  cases attends with
  | locked => simp
  | opened => simp

/-- The idle check keeps the session or ends it. -/
theorem Attends.checked (attends : Attends path stored (some server) view)
    (now : Nat) :
    Attends path stored (some (server.checkIdleTimeout now)) view ∨
      Attends path stored (some (server.checkIdleTimeout now)) view.shut := by
  have running : (server.checkIdleTimeout now).running = server.running :=
    AgentServer.checkIdleTimeout_running now
  cases attends with
  | locked alive session =>
      exact .inl (.locked (running.trans alive)
        (by rw [AgentServer.checkIdleTimeout_of_none session, session]))
  | opened alive session there works =>
      cases checked : (server.checkIdleTimeout now).vaultService with
      | none => exact .inr (.locked (running.trans alive) checked)
      | some service =>
          have kept : server.checkIdleTimeout now = server := by
            unfold AgentServer.checkIdleTimeout at checked ⊢
            split
            · rfl
            · next timed =>
                rw [if_neg timed] at checked
                split
                · next expired =>
                    rw [if_pos expired] at checked
                    cases checked
                · rfl
          rw [kept]
          exact .inl (.opened alive session there works)

end Agent

/-! ## Single calls -/

namespace Host

variable {primitives : Primitives} {library : Library} {path : Path}
  {host : Host} {server : AgentServer} {visit : Visit}

/-- The packet and its answer are within the limit. -/
def Fits (primitives : Primitives) (library : Library) (path : Path)
    (host : Host) (visit : Visit) (command : CommandOpcode)
    (payload : SecureBytes) : Prop :=
  ∀ server, host.agent = some server →
    (host.peer primitives library path visit server).Fits command payload

instance (command : CommandOpcode) (payload : SecureBytes) :
    Decidable (host.Fits primitives library path visit command payload) :=
  inferInstanceAs (Decidable (∀ server ∈ host.agent,
    (host.peer primitives library path visit server).Fits command payload))

/-- A connection to the agent that runs. -/
theorem connection_of_agent (runs : host.agent = some server) :
    host.connection primitives library path visit =
      (host.peer primitives library path visit server).connection := by
  rw [connection, runs]

/-- Without an agent nothing is connected. -/
theorem connection_of_none (none : host.agent = none) :
    host.connection primitives library path visit =
      ⟨false, false, fun _ => []⟩ := by
  rw [connection, none]

/-- And nothing changes. -/
theorem after_of_none (none : host.agent = none) (command : CommandOpcode)
    (payload : SecureBytes) :
    host.after primitives library path visit command payload = host := by
  rw [after, none]

/-- What a packet within the limit leaves behind. -/
theorem after_of_agent (runs : host.agent = some server)
    {command : CommandOpcode} {payload : SecureBytes}
    (small : payload.length ≤ maxPayload) {handled : AgentServer.Handled}
    (performed : (host.peer primitives library path visit server).perform
      (parseCommand (some command) payload) = handled) :
    host.after primitives library path visit command payload =
      { files := handled.storage.files
        agent :=
          if handled.agent.running then some handled.agent else none } := by
  rw [after, runs]
  simp only [AgentPeer.handle_eq_perform small, performed]

/-- An agent that was not told to stop stays. -/
theorem after_of_running (runs : host.agent = some server)
    {command : CommandOpcode} {payload : SecureBytes}
    (small : payload.length ≤ maxPayload) {response : Option Response}
    {agent : AgentServer} {storage : Storage}
    (performed : (host.peer primitives library path visit server).perform
      (parseCommand (some command) payload) = ⟨response, agent, storage⟩)
    (running : agent.running = true) :
    host.after primitives library path visit command payload =
      ⟨storage.files, some agent⟩ := by
  rw [after_of_agent runs small performed]
  exact congrArg (Host.mk storage.files) (if_pos running)

/-- The agent, if there is one, after the idle check before a connection. -/
def settled (host : Host) (visit : Visit) : Host :=
  { host with
    agent := host.agent.map (·.checkIdleTimeout visit.checkedAt) }

/-- The agent that runs is in its loop. -/
def Running (host : Host) : Prop :=
  ∀ server, host.agent = some server → server.running = true

/-- A request that leaves the agent and the files alone. -/
theorem after_of_answered (running : host.Running) {command : CommandOpcode}
    (answered : ∀ server, host.agent = some server → ∃ response,
      (host.peer primitives library path visit server).perform
          (parseCommand (some command) []) =
        ⟨response, server.checkIdleTimeout visit.checkedAt,
          .start host.files⟩) :
    host.after primitives library path visit command [] =
      host.settled visit := by
  cases runs : host.agent with
  | none =>
      rw [after_of_none runs, settled, runs, Option.map_none, ← runs]
  | some server =>
      obtain ⟨response, performed⟩ := answered server runs
      have alive : (server.checkIdleTimeout visit.checkedAt).running = true :=
        (AgentServer.checkIdleTimeout_running _).trans (running server runs)
      rw [after_of_agent runs (Nat.zero_le _) performed, settled, runs,
        Option.map_some]
      exact congrArg (Host.mk host.files) (if_pos alive)

/-- A ping leaves the agent at its check. -/
theorem after_ping (running : host.Running) :
    host.after primitives library path visit .ping [] =
      host.settled visit :=
  after_of_answered running fun _ _ => ⟨_, rfl⟩

/-- So does a question for the status. -/
theorem after_status (running : host.Running) :
    host.after primitives library path visit .status [] =
      host.settled visit :=
  after_of_answered running fun _ _ => ⟨_, rfl⟩

/-- A ping is answered if there is an agent. -/
theorem call_ping (running : host.Running) :
    host.call primitives library path visit .ping [] IpcClient.ping =
      (host.agent.isSome, host.settled visit) := by
  rw [call, after_ping running]
  cases runs : host.agent with
  | none =>
      rw [connection_of_none runs]
      rfl
  | some server =>
      have written := congrArg AgentServer.Handled.response
        (@AgentPeer.handle_eq_perform
          (host.peer primitives library path visit server) .ping []
          (Nat.zero_le _))
      rw [connection_of_agent runs, IpcClient.ping,
        AgentPeer.transact_eq AgentPeer.fits_ping written]
      rfl

/-- The status is that of the agent after its check. -/
theorem call_status (runs : host.agent = some server)
    (running : host.Running) :
    host.call primitives library path visit .status [] IpcClient.getStatus =
      (some (host.peer primitives library path visit server).status,
        host.settled visit) := by
  rw [call, after_status running, connection_of_agent runs,
    AgentPeer.getStatus_through_agent]

/-- A lock is answered and locks. -/
theorem call_lock (runs : host.agent = some server)
    (running : host.Running) :
    host.call primitives library path visit .lock [] IpcClient.lock =
      (true, { host with
        agent := some (server.checkIdleTimeout visit.checkedAt).lock }) := by
  have alive : (server.checkIdleTimeout visit.checkedAt).running = true :=
    (AgentServer.checkIdleTimeout_running _).trans (running server runs)
  have written := congrArg AgentServer.Handled.response
    (@AgentPeer.handle_eq_perform
      (host.peer primitives library path visit server) .lock []
      (Nat.zero_le _))
  rw [call, connection_of_agent runs, after_of_agent runs (Nat.zero_le _) rfl,
    IpcClient.lock, AgentPeer.transact_eq AgentPeer.fits_lock written]
  exact Prod.ext rfl (congrArg (Host.mk host.files) (if_pos alive))

/-- A stop is answered and ends the agent. -/
theorem call_stop (runs : host.agent = some server) :
    host.call primitives library path visit .stop [] IpcClient.stopAgent =
      (true, { host with agent := none }) := by
  rw [call, connection_of_agent runs, after_of_agent runs (Nat.zero_le _) rfl]
  rfl

/-- What UNLOCK leaves behind and what the client learns of it. -/
theorem call_unlock (runs : host.agent = some server)
    (running : host.Running) {masterPassword : SecureString}
    (fits : host.Fits primitives library path visit .unlock
      (IpcClient.unlockPayload masterPassword)) :
    host.call primitives library path visit .unlock
        (IpcClient.unlockPayload masterPassword)
        (IpcClient.unlock · masterPassword []) =
      match (host.peer primitives library path visit server).unlocked
          masterPassword with
      | .ok unlocked => (.ok (), { host with agent := some unlocked })
      | .error err => (.error err, host.settled visit) := by
  have alive : (server.checkIdleTimeout visit.checkedAt).running = true :=
    (AgentServer.checkIdleTimeout_running _).trans (running server runs)
  have fitsPeer := fits server runs
  have performed := @AgentPeer.handle_unlock
    (host.peer primitives library path visit server) masterPassword
    fitsPeer.request
  rw [AgentPeer.handle_eq_perform fitsPeer.request] at performed
  rw [call, connection_of_agent runs,
    after_of_agent runs fitsPeer.request performed,
    AgentPeer.unlock_through_agent fitsPeer]
  cases ended : (host.peer primitives library path visit server).unlocked
      masterPassword with
  | error err =>
      rw [settled, runs, Option.map_some]
      exact Prod.ext rfl (congrArg (Host.mk host.files) (if_pos alive))
  | ok unlocked =>
      obtain ⟨_, service, _, _, same⟩ := AgentServer.unlock_eq_ok ended
      have stays : unlocked.running = true := by
        rw [same]
        exact alive
      exact Prod.ext rfl (congrArg (Host.mk host.files) (if_pos stays))

end Host

/-- How an UNLOCK can end: with a text, which does not call the right password
a wrong one, or with a session on all of the safe. -/
theorem unlocked_cases {primitives : Primitives} (library : Library)
    {path : Path} (ideal : primitives.Ideal) {host : Host}
    {server : AgentServer} {stored : Option SafeBox}
    (running : server.running = true)
    (keeps : Keeps primitives (host.files path) stored) (visit : Visit)
    (masterPassword : SecureString) :
    (∃ text, (host.peer primitives library path visit server).unlocked
          masterPassword = .error text ∧
        (text = DuckpassError.wrongPassword.what → ∀ safe,
          stored = some safe → masterPassword ≠ safe.masterPassword)) ∨
      ∃ unlocked safe, (host.peer primitives library path visit
          server).unlocked masterPassword = .ok unlocked ∧
        stored = some safe ∧ masterPassword = safe.masterPassword ∧
        Attends path stored (some unlocked) (.opened safe.accounts) := by
  cases ended : (host.peer primitives library path visit server).unlocked
      masterPassword with
  | error text =>
      refine .inl ⟨text, rfl, ?_⟩
      rintro wrong safe rfl
      unfold AgentPeer.unlocked AgentServer.unlock at ended
      simp only [Host.peer, Storage.start, keeps.present] at ended
      cases constructed : VaultService.construct primitives visit.load path
          masterPassword host.files visit.clock with
      | error error =>
          rw [constructed] at ended
          cases ended
          exact construct_honest ideal keeps constructed wrong
      | ok service =>
          rw [constructed] at ended
          cases ended
  | ok unlocked =>
      obtain ⟨vaultPath, service, found, constructed, same⟩ :=
        AgentServer.unlock_eq_ok ended
      cases found
      obtain ⟨safe, there, right, works⟩ :=
        construct_worksOn ideal keeps constructed
      refine .inr ⟨unlocked, safe, rfl, there, right, ?_⟩
      rw [same]
      exact .opened
        ((AgentServer.checkIdleTimeout_running _).trans running) rfl there
        works

/-! ## Opening a session -/

namespace Represents

variable {primitives : Primitives} {path : Path} {host : Host}
  {store : Store} {server : AgentServer}

/-- The agent of a represented host runs. -/
theorem running (represents : Represents primitives path host store) :
    host.Running := by
  intro server runs
  have attends := represents.attends
  rw [runs] at attends
  exact attends.running

/-- The idle check before a connection. -/
theorem settled (represents : Represents primitives path host store)
    (visit : Visit) :
    ∃ after, (after = store ∨ after = store.shut) ∧
      Represents primitives path (host.settled visit) after := by
  have attends := represents.attends
  unfold Host.settled
  cases runs : host.agent with
  | none =>
      rw [runs] at attends
      exact ⟨store, .inl rfl, represents.keeps, attends⟩
  | some server =>
      rw [runs] at attends
      rcases attends.checked visit.checkedAt with stays | shut
      · exact ⟨store, .inl rfl, represents.keeps, stays⟩
      · exact ⟨store.shut, .inr rfl, represents.keeps, shut⟩

/-- A host without an agent shows none. -/
theorem absent (represents : Represents primitives path host store)
    (none : host.agent = none) : store.agent = .absent := by
  have attends := represents.attends
  rw [none] at attends
  revert attends
  generalize store.agent = view
  intro attends
  cases attends with
  | absent => rfl

/-- Two idle checks leave the store as it was or shut. -/
theorem lapse_trans {first second third : Store}
    (one : second = first ∨ second = first.shut)
    (two : third = second ∨ third = second.shut) :
    third = first ∨ third = first.shut := by
  rcases one with rfl | rfl
  · exact two
  · rw [Store.shut_shut, or_self] at two
    exact .inr two

/-- An agent without a session stands for a store that is shut. -/
theorem locked (represents : Represents primitives path host store)
    (runs : host.agent = some server) (session : server.vaultService = none) :
    store.agent = .locked := by
  have attends := represents.attends
  rw [runs] at attends
  revert attends
  generalize store.agent = view
  intro attends
  cases attends with
  | locked => rfl
  | opened _ present =>
      rw [session] at present
      cases present

/-- An agent with a session shows a view. -/
theorem opened (represents : Represents primitives path host store)
    {service : VaultService} (runs : host.agent = some server)
    (session : server.vaultService = some service) :
    ∃ view safe, store.agent = .opened view ∧ store.safe = some safe ∧
      WorksOn path service safe view := by
  have attends := represents.attends
  rw [runs] at attends
  revert attends
  generalize store.agent = offered
  intro attends
  cases attends with
  | locked _ absent =>
      rw [session] at absent
      cases absent
  | @opened _ other safe view _ present there works =>
      rw [session] at present
      cases present
      exact ⟨view, safe, rfl, there, works⟩

end Represents

/-- How the opening block of a command can end. -/
inductive Opened (store : Store) (masterPassword : SecureString) :
    Host.Opening → Store → Prop where
  | noAgent (alone : store.agent = .absent) :
      Opened store masterPassword .noAgent store
  | refused {text : SecureBytes}
      (honest : text = DuckpassError.wrongPassword.what → ∀ safe,
        store.safe = some safe → masterPassword ≠ safe.masterPassword) :
      Opened store masterPassword (.refused text) store.shut
  | opened {view : Accounts} (shows : store.Shows masterPassword view) :
      Opened store masterPassword .opened (store.present view)

section Opening

variable {primitives : Primitives} {library : Library} {path : Path}
  {host : Host} {store : Store} {env : CommandEnv}
  {masterPassword : SecureString}

/-- What the first connection of a command finds. -/
theorem Represents.pinged (represents : Represents primitives path host store)
    (visit : Visit) :
    (host.agent = none ∧ store.agent = .absent ∧
        Represents primitives path (host.settled visit) store) ∨
      ∃ server after, host.agent.isSome = true ∧
        (host.settled visit).agent = some server ∧
        store.agent ≠ .absent ∧ (after = store ∨ after = store.shut) ∧
        Represents primitives path (host.settled visit) after := by
  obtain ⟨after, lapse, settled⟩ := represents.settled visit
  cases runs : host.agent with
  | none =>
      have alone := represents.absent runs
      rw [Store.shut_of_absent alone, or_self] at lapse
      exact .inl ⟨rfl, alone, lapse ▸ settled⟩
  | some server =>
      have attends := represents.attends
      rw [runs] at attends
      exact .inr ⟨_, after, rfl, congrArg (Option.map _) runs,
        attends.not_absent, lapse, settled⟩

/-- The UNLOCK of a command, where it comes to one, is within the limit. -/
def Host.UnlockFits (primitives : Primitives) (library : Library)
    (path : Path) (host : Host) (env : CommandEnv)
    (masterPassword : SecureString) : Prop :=
  ((host.settled env.ping).settled env.status).Fits primitives library path
    env.unlock .unlock (IpcClient.unlockPayload masterPassword)

instance : Decidable
    (host.UnlockFits primitives library path env masterPassword) :=
  inferInstanceAs (Decidable (Host.Fits _ _ _ _ _ _ _))

/-- What UNLOCK makes of the store. -/
theorem Represents.unlock (ideal : primitives.Ideal) {visit : Visit}
    {server : AgentServer}
    (represents : Represents primitives path host store)
    (runs : host.agent = some server)
    (fits : host.Fits primitives library path visit .unlock
      (IpcClient.unlockPayload masterPassword)) :
    let called := host.call primitives library path visit .unlock
      (IpcClient.unlockPayload masterPassword)
      (IpcClient.unlock · masterPassword [])
    (∃ text after, called.1 = .error text ∧
        (text = DuckpassError.wrongPassword.what → ∀ safe,
          store.safe = some safe → masterPassword ≠ safe.masterPassword) ∧
        (after = store ∨ after = store.shut) ∧
        Represents primitives path called.2 after) ∨
      ∃ safe, called.1 = .ok () ∧ store.safe = some safe ∧
        masterPassword = safe.masterPassword ∧
        Represents primitives path called.2 (store.present safe.accounts) := by
  have running := represents.running
  intro called
  have shape := Host.call_unlock runs running fits
  rcases unlocked_cases library ideal (running server runs)
      represents.keeps visit masterPassword with
    ⟨text, ended, honest⟩ | ⟨unlocked, safe, ended, there, right, attends⟩
  · rw [ended] at shape
    obtain ⟨after, lapse, settled⟩ := represents.settled visit
    refine .inl ⟨text, after, congrArg Prod.fst shape, honest, lapse, ?_⟩
    rw [show called.2 = _ from congrArg Prod.snd shape]
    exact settled
  · rw [ended] at shape
    refine .inr ⟨safe, congrArg Prod.fst shape, there, right, ?_⟩
    rw [show called.2 = _ from congrArg Prod.snd shape]
    exact ⟨represents.keeps, attends⟩

/-- A session that is found open after idle checks was open before them. -/
theorem Store.opened_of_lapse {after : Store} {view : Accounts}
    (lapse : after = store ∨ after = store.shut)
    (opened : after.agent = .opened view) : after = store := by
  rcases lapse with rfl | rfl
  · rfl
  · exact absurd opened (store.agent.shut_ne view)

/-- A session that is found locked leaves the store shut. -/
theorem Store.shut_of_lapse {after : Store}
    (lapse : after = store ∨ after = store.shut)
    (locked : after.agent = .locked) : after = store.shut := by
  rcases lapse with rfl | rfl
  · exact (Store.shut_of_locked locked).symm
  · rfl

/-- How `open_session` can end. -/
theorem openSession_cases (ideal : primitives.Ideal)
    (represents : Represents primitives path host store)
    (fits : host.UnlockFits primitives library path env masterPassword) :
    ∃ after, Opened store masterPassword
        (host.openSession primitives library path env masterPassword).1
        after ∧
      Represents primitives path
        (host.openSession primitives library path env masterPassword).2
        after := by
  obtain ⟨first, lapse, atFirst⟩ := represents.settled env.ping
  unfold Host.openSession
  rw [Host.call_ping represents.running]
  cases runs : host.agent with
  | none =>
      have alone := represents.absent runs
      have same : first = store := by
        rw [Store.shut_of_absent alone, or_self] at lapse
        exact lapse
      exact ⟨store, .noAgent alone, same ▸ atFirst⟩
  | some server =>
      have firstRuns : (host.settled env.ping).agent =
          some (server.checkIdleTimeout env.ping.checkedAt) :=
        congrArg (Option.map _) runs
      obtain ⟨second, later, atSecond⟩ := atFirst.settled env.status
      have lapsed := Represents.lapse_trans lapse later
      have secondRuns : ((host.settled env.ping).settled env.status).agent =
          some ((server.checkIdleTimeout env.ping.checkedAt).checkIdleTimeout
            env.status.checkedAt) :=
        congrArg (Option.map _) firstRuns
      simp only [Option.isSome_some, Bool.not_true, Bool.false_eq_true,
        if_false, Host.call_status firstRuns atFirst.running]
      unfold AgentPeer.status
      generalize AgentServer.timeoutRemaining _ _ = timeout
      generalize AgentServer.totalEntries _ = total
      simp only [Host.peer]
      cases session : ((server.checkIdleTimeout
          env.ping.checkedAt).checkIdleTimeout
            env.status.checkedAt).vaultService with
      | some service =>
          obtain ⟨view, safe, opened, _, _⟩ :=
            atSecond.opened secondRuns session
          obtain rfl := Store.opened_of_lapse lapsed opened
          refine ⟨_, .opened (.session opened), ?_⟩
          rw [Store.present_of_opened opened]
          exact atSecond
      | none =>
          have locked := atSecond.locked secondRuns session
          have shut := Store.shut_of_lapse lapsed locked
          have ended := atSecond.unlock ideal secondRuns fits
          simp only [Option.isSome_none]
          subst shut
          rcases ended with
            ⟨text, after, failed, honest, lapse, atLast⟩ |
              ⟨safe, succeeded, there, right, atLast⟩
          · rw [Store.shut_shut, or_self] at lapse
            subst lapse
            refine ⟨store.shut, ?_, ?_⟩
            · rw [failed]
              exact .refused honest
            · rw [failed]
              exact atLast
          · refine ⟨store.present safe.accounts, ?_, ?_⟩
            · rw [succeeded]
              refine .opened (.unlocked there ?_ right)
              intro alone
              rw [Store.shut, alone] at locked
              cases locked
            · rw [succeeded]
              exact atLast

end Opening

/-! ## Requests -/

namespace EntryCall

def opcode : EntryCall → CommandOpcode
  | getEntry _ => .getEntry
  | addEntry _ _ _ _ => .addEntry
  | deleteEntry _ => .deleteEntry
  | listEntries _ => .listEntries
  | getTotp _ => .getTotp

/-- The payload that the client makes for the call. -/
def payload : EntryCall → SecureBytes
  | getEntry service => IpcClient.appendSecureString [] service
  | addEntry service username password totpSecret =>
      IpcClient.addPayload ⟨service, username, password, totpSecret⟩
  | deleteEntry service => IpcClient.appendSecureString [] service
  | listEntries query => IpcClient.appendString [] query
  | getTotp service => IpcClient.appendSecureString [] service

/-- A payload within the limit parses to the call it was made for. -/
theorem parseCommand_payload (call : EntryCall)
    (small : call.payload.length ≤ maxPayload) :
    parseCommand (some call.opcode) call.payload = .entry call := by
  cases call with
  | getEntry service =>
      exact parseString_appendPrefixed (short_of_appendPrefixed small) _ _
  | addEntry service username password totpSecret =>
      have sized := small
      rw [payload, IpcClient.addPayload_eq] at sized
      simp only [opcode, payload, parseCommand, IpcClient.addPayload_eq,
        AgentServer.extractAddPayload_fourStrings sized]
  | deleteEntry service =>
      exact parseString_appendPrefixed (short_of_appendPrefixed small) _ _
  | listEntries query => exact parseCommand_listEntries small
  | getTotp service =>
      exact parseString_appendPrefixed (short_of_appendPrefixed small) _ _

end EntryCall

/-- What a session that is gone answers. -/
def lockedText : SecureBytes := textBytes "Vault is locked in agent."

namespace AgentPeer

variable {peer : AgentPeer} {service name : SecureString}

/-- A request that finds no session. -/
theorem perform_locked (call : EntryCall)
    (locked : peer.agent.vaultService = none) :
    peer.perform (.entry call) =
      ⟨some (AgentServer.refusal .locked lockedText), peer.agent,
        peer.storage⟩ :=
  AgentServer.serve_of_none locked

/-- A request that finds one. -/
theorem perform_served (call : EntryCall) {service : VaultService}
    (session : peer.agent.vaultService = some service) :
    peer.perform (.entry call) =
      ⟨some (peer.serve call service).response,
        { peer.agent with
          vaultService := some (peer.serve call service).service
          lastActivity := peer.env.now },
        (peer.serve call service).storage⟩ :=
  AgentServer.serve_of_some session

/-- The refusal of a locked agent is no success. -/
theorem locked_status :
    (AgentServer.refusal .locked lockedText).status ≠
      ResponseStatus.ok.toByte :=
  AgentServer.refusal_status_ne_ok (by simp) lockedText

/-- A locked agent refuses every request for entries. -/
theorem exchange_locked (call : EntryCall)
    (locked : peer.agent.vaultService = none)
    (fits : peer.Fits call.opcode call.payload) (failure : String) :
    IpcClient.exchange peer.connection call.opcode call.payload failure =
      .ok ((AgentServer.refusal .locked lockedText).status,
        (AgentServer.refusal .locked lockedText).payload) := by
  have written : (peer.handle call.opcode call.payload).response =
      some (AgentServer.refusal .locked lockedText) := by
    rw [handle_eq_perform fits.request,
      call.parseCommand_payload fits.request, perform_locked _ locked]
  exact IpcClient.exchange_eq rfl rfl (received_eq written)
    (fits.response _ written)

/-- The text reaches whoever looks at the status. -/
theorem errorText_locked :
    IpcClient.errorText [] (AgentServer.refusal .locked lockedText).payload =
      lockedText :=
  IpcClient.errorText_refusal (by decide) []

/-- So `get_entry` fails with its message. -/
theorem getEntry_locked (locked : peer.agent.vaultService = none)
    (fits : peer.Fits .getEntry (EntryCall.getEntry name).payload) :
    IpcClient.getEntry peer.connection name [] = .error lockedText := by
  have exchanged := exchange_locked (.getEntry name) locked fits
    "Failed to send get request."
  simp only [EntryCall.opcode, EntryCall.payload] at exchanged
  simp only [IpcClient.getEntry, exchanged, bind, Except.bind,
    locked_status, if_false, errorText_locked]
  rfl

/-- So does `add_entry`. -/
theorem addEntry_locked {entry : EntryData}
    (locked : peer.agent.vaultService = none)
    (fits : peer.Fits .addEntry (IpcClient.addPayload entry)) :
    IpcClient.addEntry peer.connection entry [] = .error lockedText := by
  have exchanged := exchange_locked (.addEntry entry.service
    entry.username entry.password entry.totpSecret) locked fits
    "Failed to send add request."
  simp only [EntryCall.opcode, EntryCall.payload] at exchanged
  simp only [IpcClient.addEntry, exchanged, bind, Except.bind,
    IpcClient.acknowledged,
    locked_status, if_false, errorText_locked]

/-- So does `delete_entry`. -/
theorem deleteEntry_locked (locked : peer.agent.vaultService = none)
    (fits : peer.Fits .deleteEntry (EntryCall.deleteEntry name).payload) :
    IpcClient.deleteEntry peer.connection name [] = .error lockedText := by
  have exchanged := exchange_locked (.deleteEntry name) locked fits
    "Failed to send delete request."
  simp only [EntryCall.opcode, EntryCall.payload] at exchanged
  simp only [IpcClient.deleteEntry, exchanged, bind, Except.bind,
    IpcClient.acknowledged,
    locked_status, if_false, errorText_locked]

/-- So does `get_totp`. -/
theorem getTotp_locked (locked : peer.agent.vaultService = none)
    (fits : peer.Fits .getTotp (EntryCall.getTotp name).payload) :
    IpcClient.getTotp peer.connection name [] = .error lockedText := by
  have exchanged := exchange_locked (.getTotp name) locked fits
    "Failed to send TOTP request."
  simp only [EntryCall.opcode, EntryCall.payload] at exchanged
  simp only [IpcClient.getTotp, exchanged, bind, Except.bind,
    locked_status, if_false, errorText_locked]
  rfl

/-- `list_entries` has no text for it. -/
theorem listEntries_locked {query : SecureString}
    (locked : peer.agent.vaultService = none)
    (fits : peer.Fits .listEntries (EntryCall.listEntries query).payload) :
    IpcClient.listEntries peer.connection query = [] := by
  have written : (peer.handle .listEntries
      (EntryCall.listEntries query).payload).response =
        some (AgentServer.refusal .locked lockedText) := by
    rw [handle_eq_perform fits.request, show CommandOpcode.listEntries =
        (EntryCall.listEntries query).opcode from rfl,
      EntryCall.parseCommand_payload _ fits.request, perform_locked _ locked]
  have received := received_eq written
  have small := fits.response _ written
  simp only [EntryCall.payload] at received
  simp only [IpcClient.listEntries, received, Response.bytes,
    readPacket_of_fits small]
  rfl

end AgentPeer

section Requests

variable {primitives : Primitives} {library : Library} {path : Path}
  {host : Host} {store : Store} {view : Accounts} {visit : Visit}

/-- What a request meets after the opening block: the session has lapsed by
then, or it serves the request. -/
inductive Requested (primitives : Primitives) (library : Library)
    (path : Path) (host : Host) (store : Store) (view : Accounts)
    (visit : Visit) (call : EntryCall) (peer : AgentPeer) : Host → Prop where
  | locked {after : Host} (locked : peer.agent.vaultService = none)
      (represents :
        Represents primitives path after (store.present view).shut) :
      Requested primitives library path host store view visit call peer after
  | served {service : VaultService} {safe : SafeBox} {agent : AgentServer}
      (session : peer.agent.vaultService = some service)
      (there : store.safe = some safe) (works : WorksOn path service safe view)
      (running : agent.running = true)
      (now : agent.vaultService = some (peer.serve call service).service) :
      Requested primitives library path host store view visit call peer
        ⟨(peer.serve call service).storage.files, some agent⟩

/-- How a request for entries can end. -/
theorem request_cases (represents :
      Represents primitives path host (store.present view)) (call : EntryCall)
    (fits : host.Fits primitives library path visit call.opcode
      call.payload) :
    ∃ server, host.agent = some server ∧
      Requested primitives library path host store view visit call
        (host.peer primitives library path visit server)
        (host.after primitives library path visit call.opcode
          call.payload) := by
  have present := represents.attends
  cases runs : host.agent with
  | none =>
      rw [runs] at present
      cases present
  | some server =>
      refine ⟨server, rfl, ?_⟩
      have small := (fits server runs).request
      have alive : (server.checkIdleTimeout visit.checkedAt).running = true :=
        (AgentServer.checkIdleTimeout_running _).trans
          (represents.running server runs)
      cases session : (host.peer primitives library path visit
          server).agent.vaultService with
      | none =>
          refine .locked session ?_
          have performed := AgentPeer.perform_locked call session
          rw [← call.parseCommand_payload small] at performed
          rw [Host.after_of_running runs small performed alive]
          exact ⟨represents.keeps, .locked alive session⟩
      | some service =>
          obtain ⟨after, lapse, settled⟩ := represents.settled visit
          obtain ⟨shown, safe, opened, there, works⟩ := settled.opened
            (congrArg (Option.map _) runs) session
          obtain rfl := Store.opened_of_lapse lapse opened
          cases opened
          have performed := AgentPeer.perform_served call session
          have parsed := call.parseCommand_payload small
          have whole := congrArg
            (host.peer primitives library path visit server).perform parsed
          rw [Host.after_of_running runs small (whole.trans performed) alive]
          exact .served session there works alive rfl

end Requests

/-! ## The lock after `rekey` -/

/-- Whatever was in the safe before, the agent ends up without a session. -/
theorem lockIfAvailable_attends (primitives : Primitives) (library : Library)
    {path : Path} (env : CommandEnv) (host : Host) {stored : Option SafeBox}
    {view : AgentView} (attends : Attends path stored host.agent view)
    (other : Option SafeBox) :
    (host.lockIfAvailable primitives library path env).files = host.files ∧
      Attends path other
        (host.lockIfAvailable primitives library path env).agent
        view.shut := by
  have running : host.Running := by
    intro server runs
    rw [runs] at attends
    exact attends.running
  unfold Host.lockIfAvailable
  rw [Host.call_ping running]
  cases runs : host.agent with
  | none =>
      rw [runs] at attends
      cases attends with
      | absent =>
          refine ⟨rfl, ?_⟩
          simp only [Option.isSome_none, Bool.false_eq_true, if_false,
            Host.settled, runs]
          exact .absent
  | some server =>
      have settled : (host.settled env.ping).agent =
          some (server.checkIdleTimeout env.ping.checkedAt) :=
        congrArg (Option.map _) runs
      have alive : (host.settled env.ping).Running := by
        intro other found
        rw [settled] at found
        cases found
        exact (AgentServer.checkIdleTimeout_running _).trans
          (running server runs)
      have stays := (AgentServer.checkIdleTimeout_running
        env.request.checkedAt).trans (alive _ settled)
      simp only [Option.isSome_some, if_true, Host.call_lock settled alive]
      refine ⟨rfl, ?_⟩
      rw [runs] at attends
      cases attends with
      | locked => exact .locked stays rfl
      | opened => exact .locked stays rfl

end DuckPass
