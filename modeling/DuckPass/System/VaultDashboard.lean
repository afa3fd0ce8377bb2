/-
Module: DuckPass.System.VaultDashboard
Purpose: The component `VaultDashboard` of `vault-dashboard.tsx` with its
  calls in flight: the view state that its effects and those of
  `entry-detail-view.tsx` read, the handlers up to each `await`, and what they
  do when their promises settle, in any order.
Trusted boundary: JavaScript runs one callback at a time; `isTauri()` holds;
  a promise settles at most once, with any outcome of its call; the timers
  may fire at any time.
Main exports: Dashboard, Dashboard.setStatus, Dashboard.totpService,
  AfterStatus, AfterEntries, ApiCall, Answer, VaultDashboard,
  VaultDashboard.settle, DashboardEvent, VaultDashboard.step,
  VaultDashboard.initial
-/
import DuckPass.Core.DesktopClient

namespace DuckPass

open DesktopClient (AgentStatus EntrySummary EntryDetail)

/-! ## The view state -/

/-- The state of `VaultDashboard` that its effects read.  `searchPending` says
that the timer of the debounced search is running. -/
structure Dashboard where
  status : Option AgentStatus
  agentOffline : Bool
  selectedDetail : Option EntryDetail
  searchQuery : Utf8String
  searchPending : Bool

namespace Dashboard

/-- `status?.is_unlocked`. -/
def isUnlocked (dashboard : Dashboard) : Option Bool :=
  dashboard.status.map AgentStatus.isUnlocked

/-- `fetchStatus` got an answer.  If it changes `status?.is_unlocked`, the
effect of the debounced search runs again: its timer is cleared, and started
anew if the agent is unlocked. -/
def setStatus (dashboard : Dashboard) (status : AgentStatus) : Dashboard :=
  { dashboard with
    status := some status
    agentOffline := false
    searchPending :=
      if dashboard.isUnlocked = some status.isUnlocked then
        dashboard.searchPending
      else status.isUnlocked }

/-- `fetchStatus` failed. -/
def setOffline (dashboard : Dashboard) : Dashboard :=
  { dashboard with agentOffline := true }

/-- The service that `EntryDetailView` polls a code for: it is mounted while
the agent is online and unlocked, and polls if the entry it shows has a
secret. -/
def totpService (dashboard : Dashboard) : Option Utf8String :=
  if dashboard.agentOffline ∨ dashboard.isUnlocked ≠ some true then none
  else
    match dashboard.selectedDetail with
    | none => none
    | some entry =>
        if entry.totpSecret.val.isEmpty then none else some entry.service

end Dashboard

/-! ## Calls in flight -/

/-- What waits for a call of `fetchStatus`: nothing (the poll, the buttons,
`handleLock` and `handleDelete`), the initial load, `onUnlocked`, or
`handleAddSubmit`. -/
inductive AfterStatus where
  | nothing
  | initialLoad
  | entries
  | select (service : Utf8String)
deriving DecidableEq

/-- What waits for a call of `fetchEntries`: nothing, `handleDelete`, or
`handleAddSubmit`. -/
inductive AfterEntries where
  | nothing
  | status
  | statusAndSelect (service : Utf8String)
deriving DecidableEq

/-- A promise of `api` that has not settled, with what waits for it.  The
search text is the one of the render that the handler belongs to. -/
inductive ApiCall where
  | getStatus (next : AfterStatus)
  | listEntries (query : Utf8String) (next : AfterEntries)
  | getEntry (service : Utf8String) (closesModal : Bool)
  | unlock (masterPassword : Utf8String)
  | lock
  | deleteEntry (service searchQuery : Utf8String)
  | addEntry (entry : EntryDetail) (searchQuery : Utf8String)
deriving DecidableEq

/-- How a promise settles. -/
inductive Answer where
  | status (status : AgentStatus)
  | entries (entries : List EntrySummary)
  | detail (detail : EntryDetail)
  | done
  | rejected
deriving DecidableEq

/-- The outcomes of a call.  The agent answers with the entry of the service
it is asked for. -/
def ApiCall.admits : ApiCall → Answer → Bool
  | _, .rejected => true
  | getStatus _, .status _ => true
  | listEntries _ _, .entries _ => true
  | getEntry service _, .detail detail => detail.service == service
  | unlock _, .done | lock, .done => true
  | deleteEntry _ _, .done | addEntry _ _, .done => true
  | _, _ => false

/-- The state of `VaultDashboard`, and the calls in flight in the order they
were issued. -/
structure VaultDashboard extends Dashboard where
  entries : List EntrySummary
  selectedService : Option Utf8String
  loadingEntries : Bool
  loadingDetail : Bool
  isAddModalOpen : Bool
  pending : List ApiCall

namespace VaultDashboard

/-- The call goes out. -/
def issue (dashboard : VaultDashboard) (call : ApiCall) : VaultDashboard :=
  { dashboard with pending := dashboard.pending ++ [call] }

/-- The call at the index is no longer in flight. -/
def remove (dashboard : VaultDashboard) (index : Nat) : VaultDashboard :=
  { dashboard with pending := dashboard.pending.eraseIdx index }

/-! ## Handlers up to their first call -/

def fetchStatus (dashboard : VaultDashboard) (next : AfterStatus) :
    VaultDashboard :=
  dashboard.issue (.getStatus next)

def fetchEntries (dashboard : VaultDashboard) (query : Utf8String)
    (next : AfterEntries) : VaultDashboard :=
  { dashboard.issue (.listEntries query next) with loadingEntries := true }

def handleSelectService (dashboard : VaultDashboard) (service : Utf8String)
    (closesModal : Bool) : VaultDashboard :=
  { dashboard.issue (.getEntry service closesModal) with
    selectedService := some service
    loadingDetail := true }

def handleLock (dashboard : VaultDashboard) : VaultDashboard :=
  dashboard.issue .lock

/-- `handleDelete`, after the question has been confirmed. -/
def handleDelete (dashboard : VaultDashboard) (service : Utf8String) :
    VaultDashboard :=
  dashboard.issue (.deleteEntry service dashboard.searchQuery)

def handleAddSubmit (dashboard : VaultDashboard) (entry : EntryDetail) :
    VaultDashboard :=
  dashboard.issue (.addEntry entry dashboard.searchQuery)

/-! ## Handlers after a call -/

/-- `fetchStatus` returns `status`, or null. -/
def afterStatus (dashboard : VaultDashboard) (status : Option AgentStatus) :
    AfterStatus → VaultDashboard
  | .nothing => dashboard
  | .initialLoad =>
      if status.map AgentStatus.isUnlocked = some true then
        dashboard.fetchEntries emptyText .nothing
      else dashboard
  | .entries => dashboard.fetchEntries emptyText .nothing
  | .select service => dashboard.handleSelectService service true

def afterEntries (dashboard : VaultDashboard) : AfterEntries → VaultDashboard
  | .nothing => dashboard
  | .status => dashboard.fetchStatus .nothing
  | .statusAndSelect service => dashboard.fetchStatus (.select service)

def setEntries (dashboard : VaultDashboard) (entries : List EntrySummary) :
    VaultDashboard :=
  { dashboard with entries := entries, loadingEntries := false }

/-- The `finally` of `handleSelectService`; when it was called for an entry
that was added, the modal closes. -/
def setDetail (dashboard : VaultDashboard) (detail : Option EntryDetail)
    (closesModal : Bool) : VaultDashboard :=
  { dashboard with
    selectedDetail := detail
    loadingDetail := false
    isAddModalOpen := !closesModal && dashboard.isAddModalOpen }

/-- `setSelectedService(null); setSelectedDetail(null);` -/
def deselect (dashboard : VaultDashboard) : VaultDashboard :=
  { dashboard with selectedService := none, selectedDetail := none }

/-- The handler that waits for the call goes on, with the answer. -/
def settle (dashboard : VaultDashboard) : ApiCall → Answer → VaultDashboard
  | .getStatus next, .status status =>
      { dashboard with
        toDashboard := dashboard.toDashboard.setStatus status }.afterStatus
        (some status) next
  | .getStatus next, _ =>
      { dashboard with
        toDashboard := dashboard.toDashboard.setOffline }.afterStatus none next
  | .listEntries _ next, .entries entries =>
      (dashboard.setEntries entries).afterEntries next
  | .listEntries _ next, _ => (dashboard.setEntries []).afterEntries next
  | .getEntry _ closesModal, .detail detail =>
      dashboard.setDetail (some detail) closesModal
  | .getEntry _ closesModal, _ => dashboard.setDetail none closesModal
  | .unlock _, .done => dashboard.fetchStatus .entries
  | .lock, .done =>
      { dashboard.deselect with entries := [] }.fetchStatus .nothing
  | .deleteEntry _ searchQuery, .done =>
      dashboard.deselect.fetchEntries searchQuery .status
  | .addEntry entry searchQuery, .done =>
      dashboard.fetchEntries searchQuery (.statusAndSelect entry.service)
  | _, _ => dashboard

/-! ## What is rendered -/

/-- The dashboard itself is rendered, not the offline screen or the unlock
page. -/
def Shown (dashboard : VaultDashboard) : Prop :=
  dashboard.agentOffline = false ∧ dashboard.isUnlocked = some true

instance (dashboard : VaultDashboard) : Decidable dashboard.Shown :=
  inferInstanceAs (Decidable (_ ∧ _))

/-- The services that the list offers. -/
def offered (dashboard : VaultDashboard) : List Utf8String :=
  if dashboard.Shown ∧ dashboard.loadingEntries = false then
    dashboard.entries.map EntrySummary.service
  else []

/-- The service that the delete button is for. -/
def deleteTarget (dashboard : VaultDashboard) : Option Utf8String :=
  if dashboard.Shown ∧ dashboard.loadingDetail = false then
    dashboard.selectedDetail.map EntryDetail.service
  else none

/-- The effect of the debounced search: a new text starts its timer anew. -/
def setSearchQuery (dashboard : VaultDashboard) (query : Utf8String) :
    VaultDashboard :=
  if query = dashboard.searchQuery then dashboard
  else
    { dashboard with
      searchQuery := query
      searchPending := dashboard.isUnlocked == some true }

/-- What happens to the component.  `poll` also stands for the buttons that
call `fetchStatus`. -/
inductive DashboardEvent where
  | poll
  | searchTimer
  | search (query : Utf8String)
  | select (service : Utf8String)
  | addNew
  | closeModal
  | addSubmit (entry : EntryDetail)
  | delete
  | lock
  | unlock (masterPassword : Utf8String)
  | settled (index : Nat) (answer : Answer)

def step (dashboard : VaultDashboard) (event : DashboardEvent) :
    Option (VaultDashboard × Unit) :=
  match event with
  | .poll => some (dashboard.fetchStatus .nothing, ())
  | .searchTimer =>
      if dashboard.searchPending then
        some ({ dashboard with searchPending := false }.fetchEntries
          dashboard.searchQuery .nothing, ())
      else none
  | .search query =>
      if dashboard.Shown then some (dashboard.setSearchQuery query, ())
      else none
  | .select service =>
      if service ∈ dashboard.offered then
        some (dashboard.handleSelectService service false, ())
      else none
  | .addNew =>
      if dashboard.Shown then
        some ({ dashboard with isAddModalOpen := true }, ())
      else none
  | .closeModal => some ({ dashboard with isAddModalOpen := false }, ())
  | .addSubmit entry =>
      if dashboard.Shown ∧ dashboard.isAddModalOpen then
        some (dashboard.handleAddSubmit entry, ())
      else none
  | .delete =>
      dashboard.deleteTarget.map fun service =>
        (dashboard.handleDelete service, ())
  | .lock =>
      if dashboard.Shown then some (dashboard.handleLock, ()) else none
  | .unlock masterPassword =>
      if dashboard.agentOffline = false ∧ dashboard.isUnlocked ≠ some true then
        some (dashboard.issue (.unlock masterPassword), ())
      else none
  | .settled index answer =>
      match dashboard.pending[index]? with
      | none => none
      | some call =>
          if call.admits answer then
            some ((dashboard.remove index).settle call answer, ())
          else none

/-- The component after its first render: the initial load is under way. -/
def initial : VaultDashboard where
  status := none
  agentOffline := false
  selectedDetail := none
  searchQuery := emptyText
  searchPending := false
  entries := []
  selectedService := none
  loadingEntries := false
  loadingDetail := false
  isAddModalOpen := false
  pending := [.getStatus .initialLoad]

end VaultDashboard

end DuckPass
