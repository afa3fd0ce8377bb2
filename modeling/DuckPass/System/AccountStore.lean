/-
Module: DuckPass.System.AccountStore
Purpose: What the program is for, stated without files, encryption or packets:
  accounts kept behind a master password, and an agent that shows them to its
  user for as long as its session is open.
Trusted boundary: none
Main exports: Account, Accounts, SafeBox, AgentView, Store, Store.Access,
  Store.saved, Store.unsaved
-/
import DuckPass.Core.Types
import DuckPass.Lib.KeyedList

namespace DuckPass

/-- An account as its owner knows it: an entry without its time. -/
structure Account where
  service : SecureString
  username : SecureString
  password : SecureString
  totpSecret : SecureString
deriving Repr, Inhabited, DecidableEq

/-- Accounts in the order in which they were added, one for a service. -/
structure Accounts where
  list : List Account
  distinct : KeyedList.Distinct Account.service list

namespace Accounts

/-- Accounts are equal when their lists are. -/
@[ext] theorem ext {left right : Accounts} (same : left.list = right.list) :
    left = right := by
  cases left
  cases right
  simpa using same

/-- No account yet. -/
def empty : Accounts := ⟨[], List.nodup_nil⟩

def find (accounts : Accounts) (service : SecureString) : Option Account :=
  KeyedList.lookup Account.service service accounts.list

def put (accounts : Accounts) (account : Account) : Accounts :=
  ⟨KeyedList.upsert Account.service account accounts.list,
    KeyedList.distinct_upsert accounts.distinct⟩

def without (accounts : Accounts) (service : SecureString) : Accounts :=
  ⟨KeyedList.eraseKey Account.service service accounts.list,
    KeyedList.distinct_eraseKey accounts.distinct⟩

/-- A new account, if it is one. -/
def add (accounts : Accounts) (account : Account) :
    Except DuckpassError Accounts :=
  if account.service = [] then
    .error (.invalidArgument "Service name cannot be empty.")
  else if (accounts.find account.service).isSome then
    .error (.invalidArgument ("Service already exists. " ++
      "Please delete it first if you want to update."))
  else if account.username = [] then
    .error (.invalidArgument "Username cannot be empty.")
  else if account.password = [] then
    .error (.invalidArgument "Password cannot be empty.")
  else .ok (accounts.put account)

/-- The accounts without one of them, if it is there. -/
def delete (accounts : Accounts) (service : SecureString) :
    Except DuckpassError Accounts :=
  if (accounts.find service).isSome then .ok (accounts.without service)
  else .error (.invalidArgument "Service not found.")

variable {accounts : Accounts} {account : Account} {service : SecureString}

/-- The account that was put in is found under its service, and the others as
before. -/
theorem find_put :
    (accounts.put account).find service =
      if account.service = service then some account
      else accounts.find service :=
  KeyedList.lookup_upsert

/-- The account that was taken out is not found any more, and the others as
before. -/
theorem find_without {other : SecureString} :
    (accounts.without service).find other =
      if other = service then none else accounts.find other :=
  KeyedList.lookup_eraseKey

end Accounts

/-- A master password and what it protects. -/
structure SafeBox where
  masterPassword : SecureString
  accounts : Accounts

/-- What the agent shows: nothing while it is locked, and otherwise its own
copy of the accounts. -/
inductive AgentView where
  | absent
  | locked
  | opened (view : Accounts)

/-- The agent gives up its session, if there is an agent. -/
def AgentView.shut : AgentView → AgentView
  | absent => absent
  | locked => locked
  | opened _ => locked

/-- A user's accounts.  There is no safe before `init`. -/
structure Store where
  safe : Option SafeBox
  agent : AgentView

namespace Store

/-- The store once the session of its agent is closed. -/
def shut (store : Store) : Store := { store with agent := store.agent.shut }

/-- The store with other accounts in the safe. -/
def keep (store : Store) (accounts : Accounts) : Store :=
  { store with safe := store.safe.map ({ · with accounts := accounts }) }

/-- The store with a session that shows these accounts. -/
def present (store : Store) (view : Accounts) : Store :=
  { store with agent := .opened view }

/-- The agent may show the view to whoever types the password: its session
shows it already, or the password opens the safe and the view is what is in
there. -/
inductive Shows (store : Store) (masterPassword : SecureString) :
    Accounts → Prop where
  | session {view : Accounts} (opened : store.agent = .opened view) :
      Shows store masterPassword view
  | unlocked {safe : SafeBox} (there : store.safe = some safe)
      (agent : store.agent ≠ .absent)
      (right : masterPassword = safe.masterPassword) :
      Shows store masterPassword safe.accounts

/-- Who answers a command. -/
inductive Means where
  | agent
  | direct
deriving Repr, Inhabited, DecidableEq

/-- How a command gets at the accounts: with an agent it is the agent that
shows them, and without one the password opens the safe.  The last argument is
the store that the command then works on. -/
inductive Access (store : Store) (masterPassword : SecureString) :
    Means → Accounts → Store → Prop where
  | agent {view : Accounts} (shows : store.Shows masterPassword view) :
      Access store masterPassword .agent view (store.present view)
  | direct {safe : SafeBox} (there : store.safe = some safe)
      (alone : store.agent = .absent)
      (right : masterPassword = safe.masterPassword) :
      Access store masterPassword .direct safe.accounts store

/-- The changed accounts are in the safe, and in the view of the agent that
wrote them there. -/
def saved (store : Store) (next : Accounts) : Means → Store
  | .agent => (store.keep next).present next
  | .direct => store.keep next

/-- The changed accounts could not be written.  An agent goes on showing
them. -/
def unsaved (store : Store) (next : Accounts) : Means → Store
  | .agent => store.present next
  | .direct => store

end Store

end DuckPass
