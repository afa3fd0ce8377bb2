/-
Module: DuckPass.Proofs.MalformedRequests
Purpose: What the handler does with a request whose payload does not hold the
  strings that its opcode needs.  Every opcode refuses it with a fixed text and
  changes nothing, but for LIST_ENTRIES, which ignores that its query could not
  be read.
Trusted boundary: none
Main exports: requiredStrings, Malformed, Rejected, extractAddPayload_eq,
  malformed_request_rejected_iff, malformed_list_request_is_served
-/
import DuckPass.Proofs.AgentServer
import DuckPass.Proofs.PrefixedStrings
import DuckPass.System.SymbolicAgent

namespace DuckPass

open AgentServer (Handled refusal extractAddPayload)

/-- How many strings the payload of a request begins with. -/
def requiredStrings : CommandOpcode → Nat
  | .ping => 0
  | .status => 0
  | .unlock => 1
  | .lock => 0
  | .getEntry => 1
  | .addEntry => 4
  | .deleteEntry => 1
  | .listEntries => 1
  | .getTotp => 1
  | .stop => 0

/-- The strings a request needs cannot be taken from its payload. -/
def Malformed (command : CommandOpcode) (payload : SecureBytes) : Prop :=
  extractStrings payload (requiredStrings command) 0 = none

instance (command : CommandOpcode) (payload : SecureBytes) :
    Decidable (Malformed command payload) :=
  inferInstanceAs (Decidable (_ = none))

/-- The texts with which the handler refuses a payload.  They say nothing about
any vault. -/
def rejectionTexts : List String :=
  ["Invalid unlock payload.", "Malformed get payload.",
    "Malformed add payload.", "Malformed delete payload.",
    "Malformed TOTP payload."]

/-- One ERROR packet with a fixed text; the agent, with its session and its
idle timer, and the directory are as they were. -/
def Rejected (agent : AgentServer) (storage : Storage)
    (handled : Handled) : Prop :=
  ∃ text ∈ rejectionTexts,
    handled = ⟨some (refusal .error (textBytes text)), agent, storage⟩

/-! ## Extraction -/

theorem extractStrings_one (payload : SecureBytes) :
    extractStrings payload 1 0 = none ↔
      (extractPrefixed payload 0).1 = none := by
  rw [extractStrings]
  rcases extractPrefixed_cases payload 0 with
    ⟨next, missing⟩ | ⟨str, next, found⟩
  · rw [missing]
    exact iff_of_true rfl rfl
  · rw [found]
    exact iff_of_false (Option.some_ne_none _) (Option.some_ne_none _)

/-- The four extractions of ADD_ENTRY succeed together or not at all. -/
theorem extractAddPayload_eq (payload : SecureBytes) :
    extractAddPayload payload = none ↔
      extractStrings payload 4 0 = none := by
  simp only [extractAddPayload, AgentServer.extractSecStr, extractStrings]
  rcases extractPrefixed_cases payload 0 with
    ⟨first, missing⟩ | ⟨s, first, foundS⟩
  · simp [missing]
  simp only [foundS]
  rcases extractPrefixed_cases payload first with
    ⟨second, missing⟩ | ⟨u, second, foundU⟩
  · simp [missing]
  simp only [foundU]
  rcases extractPrefixed_cases payload second with
    ⟨third, missing⟩ | ⟨p, third, foundP⟩
  · simp [missing]
  simp only [foundP]
  rcases extractPrefixed_cases payload third with
    ⟨fourth, missing⟩ | ⟨t, fourth, foundT⟩
  · simp [missing]
  · simp [foundT]

/-! ## Main result -/

section Requests

variable (primitives : Primitives) (library : Library) (env : ServeEnv)
  (agent : AgentServer) (storage : Storage)

/-- A request that asks for nothing is refused with its text. -/
theorem rejected_of_malformed {text : String}
    (fixed : text ∈ rejectionTexts) :
    Rejected agent storage
      (agent.perform primitives library env storage (.malformed text)) :=
  ⟨text, fixed, rfl⟩

theorem parseString_of_malformed {payload : SecureBytes}
    (malformed : extractStrings payload 1 0 = none) (text : String)
    (request : SecureString → AgentRequest) :
    parseString payload text request = .malformed text := by
  have missing := (extractStrings_one payload).mp malformed
  simp only [parseString, AgentServer.extractSecStr, missing]

/-- A listing is no refusal, with a session or without. -/
theorem not_rejected_listEntries (query : SecureString) :
    ¬ Rejected agent storage (agent.perform primitives library env storage
      (.entry (.listEntries query))) := by
  rintro ⟨text, _, same⟩
  rw [AgentServer.perform] at same
  cases session : agent.vaultService with
  | none =>
      rw [AgentServer.serve_of_none session] at same
      have response := Option.some.inj (congrArg Handled.response same)
      cases congrArg Response.status response
  | some service =>
      rw [AgentServer.serve_of_some session] at same
      have response := Option.some.inj (congrArg Handled.response same)
      cases congrArg Response.status response

/-- For every state of the agent and every payload within the limit that does
not hold what its opcode needs, whatever follows it on the stream: the request
is refused and nothing changes, exactly if it is not LIST_ENTRIES. -/
theorem malformed_request_rejected_iff {command : CommandOpcode}
    {payload received : SecureBytes} (fits : payload.length ≤ maxPayload)
    (sent : serializePacket command.toByte payload <+: received)
    (malformed : Malformed command payload) :
    Rejected agent storage
        (agent.handleClient primitives library env storage received) ↔
      command ≠ .listEntries := by
  have request : parseRequest received =
      some (parseCommand (some command) payload) := by
    rw [parseRequest, readPacket_eq_some_iff.mpr ⟨sent, fits⟩,
      Option.map_some, CommandOpcode.ofByte_toByte]
  rw [AgentServer.handleClient_eq, request, AgentServer.performIfAny]
  unfold Malformed at malformed
  have single := @parseString_of_malformed payload
  have reject := @rejected_of_malformed primitives library env agent storage
  cases command with
  | ping => cases malformed
  | status => cases malformed
  | lock => cases malformed
  | stop => cases malformed
  | unlock =>
      rw [parseCommand, single malformed]
      exact iff_of_true (reject (by decide)) (by decide)
  | getEntry =>
      rw [parseCommand, single malformed]
      exact iff_of_true (reject (by decide)) (by decide)
  | addEntry =>
      rw [parseCommand, (extractAddPayload_eq payload).mpr malformed]
      exact iff_of_true (reject (by decide)) (by decide)
  | deleteEntry =>
      rw [parseCommand, single malformed]
      exact iff_of_true (reject (by decide)) (by decide)
  | listEntries =>
      exact iff_of_false (not_rejected_listEntries primitives library env
        agent storage _) (not_not_intro rfl)
  | getTotp =>
      rw [parseCommand, single malformed]
      exact iff_of_true (reject (by decide)) (by decide)

end Requests

namespace MalformedRequests

open Symbolic (serveEnv masterPassword oneEntry)

/-- A length that runs far past the end of its payload. -/
def overlong : SecureBytes := [0xFF, 0xFF, 0xFF, 0xFF, 0xAA, 0xBB]

def agent : AgentServer := Symbolic.unlockedAgent 300 oneEntry 0

def storage : Storage := .start (Symbolic.files oneEntry masterPassword)

/-- What the agent makes of a request at second 1. -/
def handled (command : CommandOpcode) (payload : SecureBytes) : Handled :=
  agent.handleClient Symbolic.primitives Symbolic.library
    (serveEnv nanosecondsPerSecond 1) storage
    (serializePacket command.toByte payload)

end MalformedRequests

open MalformedRequests in
/-- A GET_ENTRY request with an overlong length is refused. -/
theorem malformed_request_rejected_getEntry :
    Rejected agent storage (handled .getEntry overlong) ↔
      CommandOpcode.getEntry ≠ .listEntries :=
  malformed_request_rejected_iff Symbolic.primitives Symbolic.library
    (Symbolic.serveEnv nanosecondsPerSecond 1) agent storage (by decide)
    List.prefix_rfl (by decide)

open MalformedRequests in
/-- The same payload under LIST_ENTRIES is answered OK with every entry, and
the idle timer starts anew. -/
theorem malformed_list_request_is_served :
    Malformed .listEntries overlong ∧ overlong.length ≤ maxPayload ∧
      (handled .listEntries overlong).response =
        some ⟨ResponseStatus.ok.toByte,
          AgentServer.listPayload Symbolic.oneEntry.entries⟩ ∧
      (handled .listEntries overlong).agent.lastActivity ≠
        agent.lastActivity ∧
      ¬ Rejected agent storage (handled .listEntries overlong) := by
  refine ⟨by decide, by decide, rfl, by decide, ?_⟩
  rintro ⟨text, _, same⟩
  have status := congrArg (fun handled : Handled =>
    handled.response.map Response.status) same
  cases status

end DuckPass
