/-
Module: DuckPass.System.Desktop
Purpose: The desktop application beside the agent while the user does nothing:
  the requests that its timers send, the calls that are still under way, and
  the runs of both together.
Trusted boundary: as for `DuckPass.System.VaultDashboard`.
Main exports: ApiCall.receive, DesktopRequest, DesktopSystem, DesktopEvent,
  DesktopSystem.step, DesktopSystem.run
-/
import DuckPass.Core.SessionControl
import DuckPass.System.AgentLoop
import DuckPass.System.VaultDashboard

namespace DuckPass

/-! ## Requests -/

namespace ApiCall

/-- The request of a call. -/
def command : ApiCall → CommandOpcode
  | getStatus _ => .status
  | listEntries _ _ => .listEntries
  | getEntry _ _ => .getEntry
  | unlock _ => .unlock
  | lock => .lock
  | deleteEntry _ _ => .deleteEntry
  | addEntry _ _ => .addEntry

def payload : ApiCall → SecureBytes
  | getStatus _ => []
  | listEntries query _ => DesktopClient.appendString [] query
  | getEntry service _ => DesktopClient.appendString [] service
  | unlock masterPassword => DesktopClient.appendString [] masterPassword
  | lock => []
  | deleteEntry service _ => DesktopClient.appendString [] service
  | addEntry entry _ =>
      let payload := DesktopClient.appendString [] entry.service
      let payload := DesktopClient.appendString payload entry.username
      let payload := DesktopClient.appendString payload entry.password
      DesktopClient.appendString payload entry.totpSecret

end ApiCall

/-- How the promise of a call settles. -/
def Answer.ofResult {α : Type} (value : α → Answer) :
    Except IoError α → Answer
  | .ok result => value result
  | .error _ => .rejected

/-- The connection on which those bytes came back. -/
def answeredWith (received : SecureBytes) : Connection :=
  ⟨true, true, fun _ => received⟩

/-- What `api` makes of the bytes that answer the request of a call. -/
def ApiCall.receive (call : ApiCall) (received : SecureBytes) : Answer :=
  let connection := answeredWith received
  let failure := .unexpectedEof "failed to fill whole buffer"
  match call with
  | .getStatus _ =>
      .ofResult .status (DesktopClient.getStatus connection failure)
  | .listEntries query _ =>
      .ofResult .entries (DesktopClient.listEntries connection failure query)
  | .getEntry service _ =>
      .ofResult .detail (DesktopClient.getEntry connection failure service)
  | .unlock masterPassword =>
      .ofResult (fun _ => .done)
        (DesktopClient.unlock connection failure masterPassword)
  | .lock => .ofResult (fun _ => .done) (DesktopClient.lock connection failure)
  | .deleteEntry service _ =>
      .ofResult (fun _ => .done)
        (DesktopClient.deleteEntry connection failure service)
  | .addEntry entry _ =>
      .ofResult (fun _ => .done)
        (DesktopClient.addEntry connection failure entry)

/-- A request on its way to the agent: that of a call of the dashboard, or the
GET_TOTP that `EntryDetailView` sends. -/
inductive DesktopRequest where
  | api (call : ApiCall)
  | getTotp (service : Utf8String)
deriving DecidableEq

namespace DesktopRequest

def command : DesktopRequest → CommandOpcode
  | api call => call.command
  | getTotp _ => .getTotp

def payload : DesktopRequest → SecureBytes
  | api call => call.payload
  | getTotp service => DesktopClient.appendString [] service

/-- The client refuses to send a request that is too large. -/
def Fits (request : DesktopRequest) : Prop :=
  request.payload.length ≤ maxPayload

instance (request : DesktopRequest) : Decidable request.Fits :=
  inferInstanceAs (Decidable (_ ≤ _))

def bytes (request : DesktopRequest) : SecureBytes :=
  serializePacket request.command.toByte request.payload

end DesktopRequest

/-! ## Both together -/

/-- The agent with its directory, and the desktop application.  The calls that
are pending in the dashboard have not reached the agent; those of `answered`
have an answer, with which their promises have yet to settle.  The requests of
`unawaited` are on their way as well, but no promise of the dashboard waits for
them: the polls of a code, and calls that have timed out. -/
structure DesktopSystem where
  loop : AgentLoop
  dashboard : VaultDashboard
  answered : List (ApiCall × Answer)
  unawaited : List DesktopRequest

/-- What happens while the user does nothing: a round of the agent without a
client; the timers of the status poll, of the search and of the poll of a code;
a round in which the agent handles a pending call, or a request that nobody
waits for; a call that fails at its client, before or after its request was
sent; and a promise that settles. -/
inductive DesktopEvent where
  | idleRound (checkedAt : Nat)
  | statusTimer
  | searchTimer
  | totpTimer
  | handle (index checkedAt : Nat) (env : ServeEnv)
      (waits : AgentServer.Waits)
  | handleUnawaited (index checkedAt : Nat) (env : ServeEnv)
      (waits : AgentServer.Waits)
  | fail (index : Nat) (sent : Bool)
  | arrive (index : Nat)

namespace DesktopSystem

variable (primitives : Primitives) (library : Library)

/-- A round in which the agent handles a request: the agent afterwards and the
bytes that go back. -/
def serve (loop : AgentLoop) (request : DesktopRequest) (checkedAt : Nat)
    (env : ServeEnv) (waits : AgentServer.Waits) :
    Option (AgentLoop × SecureBytes) :=
  if request.Fits then
    (loop.step primitives library
      (.round checkedAt (some ⟨request.bytes, env, waits⟩))).map
      fun (next, reply) => (next, (reply.map Response.bytes).getD [])
  else none

/-- The dashboard takes a step of its own. -/
def timer (system : DesktopSystem) (event : VaultDashboard.DashboardEvent) :
    Option (DesktopSystem × Unit) :=
  (system.dashboard.step event).map fun (dashboard, _) =>
    ({ system with dashboard := dashboard }, ())

def step (system : DesktopSystem) (event : DesktopEvent) :
    Option (DesktopSystem × Unit) :=
  match event with
  | .idleRound checkedAt =>
      (system.loop.step primitives library (.round checkedAt none)).map
        fun (loop, _) => ({ system with loop := loop }, ())
  | .statusTimer => system.timer .poll
  | .searchTimer => system.timer .searchTimer
  | .totpTimer =>
      system.dashboard.totpService.map fun service =>
        ({ system with
            unawaited := system.unawaited ++ [.getTotp service] }, ())
  | .handle index checkedAt env waits =>
      match system.dashboard.pending[index]? with
      | none => none
      | some call =>
          (serve primitives library system.loop (.api call) checkedAt env
            waits).map fun (loop, received) =>
              (⟨loop, system.dashboard.remove index,
                system.answered ++ [(call, call.receive received)],
                system.unawaited⟩, ())
  | .handleUnawaited index checkedAt env waits =>
      match system.unawaited[index]? with
      | none => none
      | some request =>
          (serve primitives library system.loop request checkedAt env
            waits).map fun (loop, _) =>
              ({ system with
                  loop := loop
                  unawaited := system.unawaited.eraseIdx index }, ())
  | .fail index sent =>
      match system.dashboard.pending[index]? with
      | none => none
      | some call =>
          some ({ system with
            dashboard := system.dashboard.remove index
            answered := system.answered ++ [(call, .rejected)]
            unawaited := system.unawaited ++ if sent then [.api call] else [] },
            ())
  | .arrive index =>
      match system.answered[index]? with
      | none => none
      | some (call, answer) =>
          some ({ system with
            dashboard := system.dashboard.settle call answer
            answered := system.answered.eraseIdx index }, ())

/-- A sequence of steps without any input of the user. -/
def run (system : DesktopSystem) (events : List DesktopEvent) :
    Option (DesktopSystem × List Unit) :=
  Run.run (step primitives library) system events

end DesktopSystem

/-- The time of the idle check that an event comes with. -/
def DesktopEvent.checkedAt : DesktopEvent → Option Nat
  | .idleRound checkedAt => some checkedAt
  | .handle _ checkedAt _ _ => some checkedAt
  | .handleUnawaited _ checkedAt _ _ => some checkedAt
  | _ => none

end DuckPass
