/-
Module: DuckPass.Proofs.AgentPeer
Purpose: An unlocked agent at the other end of a connection that delivers: what
  comes back for a request that parses, and what stays in the agent.
Trusted boundary: a connection on which both sides deliver.
Main exports: AgentPeer, AgentPeer.connection, AgentPeer.Fits, AgentPeer.Leaves,
  AgentPeer.handle_of_parsed, AgentPeer.answered
-/
import DuckPass.Proofs.AgentServer

namespace DuckPass

/-- An agent in a state, with all that one call of its handler depends on. -/
structure AgentPeer where
  primitives : Primitives
  library : Library
  env : ServeEnv
  agent : AgentServer
  storage : Storage

namespace AgentPeer

/-- The handler called on a packet. -/
def handle (peer : AgentPeer) (command : CommandOpcode)
    (payload : SecureBytes) : AgentServer.Handled :=
  AgentServer.handleClient peer.primitives peer.library peer.env peer.agent
    peer.storage (serializePacket command.toByte payload)

/-- A connection to the agent on which both sides deliver. -/
def connection (peer : AgentPeer) : Connection where
  connected := true
  written := true
  received sent :=
    ((AgentServer.handleClient peer.primitives peer.library peer.env peer.agent
      peer.storage sent).response.map Response.bytes).getD []

/-- The request payload is within the limit, and that of the response. -/
structure Fits (peer : AgentPeer) (command : CommandOpcode)
    (payload : SecureBytes) : Prop where
  request : payload.length ≤ maxPayload
  response : ∀ response,
    (peer.handle command payload).response = some response →
      response.payload.length ≤ maxPayload

/-- What a call leaves behind: the session in the agent, and the directory. -/
def Leaves (peer : AgentPeer) (command : CommandOpcode)
    (payload : SecureBytes) (self : VaultService) (storage : Storage) : Prop :=
  (peer.handle command payload).agent.vaultService = some self ∧
    (peer.handle command payload).storage = storage

variable {peer : AgentPeer} {self : VaultService} {command : CommandOpcode}
  {payload : SecureBytes} {call : EntryCall}

/-- What the session does with a request. -/
def serve (peer : AgentPeer) (call : EntryCall) (self : VaultService) :
    AgentServer.Served :=
  call.serve peer.primitives peer.library peer.env peer.storage self

/-- An unlocked agent answers a packet with what its session does. -/
theorem handle_of_parsed (unlocked : peer.agent.vaultService = some self)
    (small : payload.length ≤ maxPayload)
    (parsed : parseCommand (some command) payload = .entry call) :
    peer.handle command payload =
      ⟨some (peer.serve call self).response,
        { peer.agent with
          vaultService := some (peer.serve call self).service
          lastActivity := peer.env.now },
        (peer.serve call self).storage⟩ := by
  rw [handle, AgentServer.handleClient_eq,
    parseRequest_serializePacket small, parsed]
  exact AgentServer.serve_of_some unlocked

/-- A request that parses, sent to an unlocked agent: what comes back and what
stays is what the session made of it. -/
structure Answered (peer : AgentPeer) (command : CommandOpcode)
    (payload : SecureBytes) (served : AgentServer.Served) : Prop where
  small : payload.length ≤ maxPayload
  fits : served.response.payload.length ≤ maxPayload
  received : peer.connection.received
    (serializePacket command.toByte payload) = served.response.bytes
  leaves : peer.Leaves command payload served.service served.storage

theorem answered (unlocked : peer.agent.vaultService = some self)
    (fits : peer.Fits command payload)
    (parsed : parseCommand (some command) payload = .entry call) :
    peer.Answered command payload (peer.serve call self) := by
  have handled := handle_of_parsed unlocked fits.request parsed
  refine ⟨fits.request, ?_, ?_, ?_, ?_⟩
  · exact fits.response _ (by rw [handled])
  · change (((peer.handle command payload).response).map _).getD _ = _
    rw [handled, Option.map_some, Option.getD_some]
  · rw [handled]
  · rw [handled]

/-- The client of `ipc.cpp` gets the session's answer. -/
theorem Answered.exchange {served : AgentServer.Served}
    (answered : peer.Answered command payload served) (failure : String) :
    IpcClient.exchange peer.connection command payload failure =
      .ok (served.response.status, served.response.payload) :=
  IpcClient.exchange_eq rfl rfl answered.received answered.fits

/-- The Rust client gets it too. -/
theorem Answered.exchangePacket {served : AgentServer.Served}
    {status : DesktopClient.Status}
    (answered : peer.Answered command payload served)
    (known : DesktopClient.Status.ofByte served.response.status = .ok status)
    (failure : IoError) :
    DesktopClient.exchangePacket peer.connection failure command payload =
      .ok (status, served.response.payload) :=
  DesktopClient.exchangePacket_eq answered.small rfl rfl answered.received
    answered.fits known

end AgentPeer

end DuckPass
