/-
Module: DuckPass.System.ResponseBuilding
Purpose: How the handler builds a response, one call and one insertion at a
  time, and what is sent if an exception is thrown between two of them.
Trusted boundary: an insertion at the end of a `std::vector` that throws has no
  effect.
Main exports: Building, Interruption, Building.respond, Building.thrown,
  AgentServer.building, AgentServer.respond, AgentServer.respond_none
-/
import DuckPass.Proofs.AgentServer

namespace DuckPass

/-- What the handler does before it writes the packet.  A refusal outside of a
`try` block is a new vector with a text in it.  The steps of a `try` block are
its calls and insertions in order, each with what it appends to `resp`, which is
nothing for a call.  Where the call of the service ends with an error, it is the
only step, and the text is that of the error. -/
inductive Building where
  | plain (response : Response)
  | refused (status : ResponseStatus) (text : SecureBytes)
  | guarded (status : ResponseStatus) (steps : List SecureBytes)
  | failing (what : SecureBytes)
deriving Repr, Inhabited, DecidableEq

/-- An exception during a request: a `std::exception` out of one step of the
`try` block, or one that leaves `handle_client`, because it was thrown outside
of the block or is no `std::exception` (which has no `what`). -/
inductive Interruption where
  | inside (step : Nat) (what : SecureBytes)
  | outside (what : Option SecureBytes)
deriving Repr, Inhabited, DecidableEq

namespace Building

/-- The packet, if nothing is thrown. -/
def response : Building → Response
  | plain response => response
  | refused status text => AgentServer.refusal status text
  | guarded status steps => ⟨status.toByte, steps.flatten⟩
  | failing what => AgentServer.refusal .error what

/-- The steps that an exception can interrupt. -/
def steps : Building → List SecureBytes
  | plain _ => []
  | refused _ _ => []
  | guarded _ steps => steps
  | failing _ => [[]]

/-- The steps before the first insertion. -/
def silentSteps (building : Building) : Nat :=
  (building.steps.takeWhile List.isEmpty).length

/-- The packet.  The handler inside appends its text to what is already in
`resp`; those of `run` begin a new response. -/
def respond (building : Building) (interruption : Option Interruption) :
    Response :=
  match interruption with
  | none => building.response
  | some (.inside step what) =>
      if step < building.steps.length then
        ⟨ResponseStatus.error.toByte,
          AgentServer.appendStr (building.steps.take step).flatten what⟩
      else building.response
  | some (.outside (some what)) => AgentServer.refusal .error what
  | some (.outside none) =>
      AgentServer.refusal .error (textBytes "Internal agent server error.")

/-- The message of the exception that came in between, if one did. -/
def thrown (building : Building) : Option Interruption → Option SecureBytes
  | none => none
  | some (.inside step what) =>
      if step < building.steps.length then some what else none
  | some (.outside (some what)) => some what
  | some (.outside none) => some (textBytes "Internal agent server error.")

end Building

namespace AgentServer

/-- `append_sec_str(resp, field.unprotect())`. -/
def fieldSteps (str : SecureString) : List SecureBytes :=
  [[], htonl (UInt32.ofNat str.length), str]

/-- `append_str`. -/
def textSteps (text : SecureBytes) : List SecureBytes :=
  [htonl (UInt32.ofNat text.length), text]

def getEntryBuilding (self : VaultService) (service : SecureString) :
    Building :=
  match self.getEntry service with
  | some entry =>
      .guarded .ok
        ([] :: (fieldSteps entry.service ++ (fieldSteps entry.username ++
          (fieldSteps entry.password ++ fieldSteps entry.totpSecret))))
  | none => .guarded .notFound ([] :: textSteps (textBytes "Entry not found."))

/-- The call of a writing method and nothing else. -/
def outcomeBuilding (outcome : Outcome) : Building :=
  match outcome.result with
  | .ok () => .guarded .ok [[]]
  | .error error => .failing error.what

/-- The body of the loop of LIST_ENTRIES: two calls of `unprotect`, and then
both strings. -/
def summarySteps (entry : VaultEntry) : List SecureBytes :=
  [] :: [] :: (textSteps entry.service ++ textSteps entry.username)

def listBuilding (entries : List VaultEntry) : Building :=
  .guarded .ok
    ([] :: htonl (UInt32.ofNat entries.length) ::
      entries.flatMap summarySteps)

def getTotpBuilding (library : Library) (clock : Clock) (self : VaultService)
    (service : SecureString) : Building :=
  match self.getTotpCode library service clock with
  | .ok (code, remaining) =>
      .guarded .ok ([] :: (textSteps code ++ [htonl remaining]))
  | .error error => .failing error.what

/-- The block of a request that the session answers. -/
def callBuilding (primitives : Primitives) (library : Library)
    (env : ServeEnv) (storage : Storage) (self : VaultService) :
    EntryCall → Building
  | .getEntry service => getEntryBuilding self service
  | .addEntry service username password totpSecret =>
      outcomeBuilding (self.addEntry primitives env.commit env.clock service
        username password totpSecret storage)
  | .deleteEntry service =>
      outcomeBuilding (self.deleteEntry primitives env.commit env.clock
        service storage)
  | .listEntries query => listBuilding (self.listEntries library query)
  | .getTotp service => getTotpBuilding library env.clock self service

section Requests

variable (primitives : Primitives) (library : Library) (env : ServeEnv)
  (agent : AgentServer) (storage : Storage)

/-- How the response to a request is built. -/
def building : AgentRequest → Building
  | .ping => .plain ⟨pongByte, []⟩
  | .status => .plain (agent.statusResponse env.now)
  | .unlock masterPassword =>
      match unlock primitives env masterPassword agent storage.files with
      | .ok _ => .guarded .ok [[]]
      | .error err => .failing err
  | .lock => .plain acknowledgement
  | .stop => .plain acknowledgement
  | .entry call =>
      match agent.vaultService with
      | none => .refused .locked (textBytes "Vault is locked in agent.")
      | some service => callBuilding primitives library env storage service call
  | .malformed text => .refused .error (textBytes text)

/-- The packet that answers the bytes received, with an exception on the way.
Bytes that are no packet get none. -/
def respond (received : SecureBytes) (interruption : Option Interruption) :
    Option Response :=
  (parseRequest received).map fun request =>
    (building primitives library env agent storage request).respond
      interruption

end Requests

/-! ## Without an exception -/

/-- The insertions of a text are its bytes behind their length. -/
theorem flatten_textSteps (text : SecureBytes) :
    (textSteps text).flatten = appendPrefixed [] text := by
  simp [textSteps, appendPrefixed]

/-- All insertions of LIST_ENTRIES together are the payload. -/
theorem listPayload_eq (entries : List VaultEntry) :
    (listBuilding entries).response.payload = listPayload entries := by
  have grows : ∀ before : SecureBytes,
      entries.foldl
        (fun resp entry =>
          appendStr (appendStr resp entry.service) entry.username) before =
        before ++ (entries.flatMap summarySteps).flatten := by
    induction entries with
    | nil => intro before; exact (List.append_nil before).symm
    | cons entry entries inductionHypothesis =>
        intro before
        rw [List.foldl_cons, inductionHypothesis, appendStr,
          appendPrefixed_eq _ entry.username, appendPrefixed_eq before,
          List.flatMap_cons, List.flatten_append, ← flatten_textSteps,
          ← flatten_textSteps]
        simp [summarySteps]
  rw [listPayload, grows]
  rfl

/-- The answer of ADD_ENTRY and DELETE_ENTRY when nothing is thrown. -/
theorem outcomeBuilding_response (outcome : Outcome) :
    (outcomeBuilding outcome).response = (outcomeServed outcome).response := by
  obtain ⟨result, self, storage⟩ := outcome
  cases result with
  | error error => rfl
  | ok done => rfl

/-- The answer of GET_ENTRY when nothing is thrown. -/
theorem getEntryBuilding_response (self : VaultService)
    (service : SecureString) :
    (getEntryBuilding self service).response =
      getEntryResponse self service := by
  unfold getEntryBuilding getEntryResponse
  cases self.getEntry service with
  | none => rfl
  | some entry =>
      simp [Building.response, entryPayload, appendSecStr, fieldSteps,
        appendPrefixed]

/-- The answer of GET_TOTP when nothing is thrown. -/
theorem getTotpBuilding_response (library : Library) (clock : Clock)
    (self : VaultService) (service : SecureString) :
    (getTotpBuilding library clock self service).response =
      getTotpResponse library clock self service := by
  unfold getTotpBuilding getTotpResponse
  cases self.getTotpCode library service clock with
  | error error => rfl
  | ok result =>
      obtain ⟨code, remaining⟩ := result
      simp [Building.response, appendStr, textSteps, appendPrefixed]

/-- The steps of a call build the packet that the session answers with. -/
theorem callBuilding_response (primitives : Primitives) (library : Library)
    (env : ServeEnv) (storage : Storage) (self : VaultService)
    (call : EntryCall) :
    (callBuilding primitives library env storage self call).response =
      (call.serve primitives library env storage self).response := by
  cases call with
  | getEntry service => exact getEntryBuilding_response self service
  | addEntry service username password totpSecret =>
      exact outcomeBuilding_response _
  | deleteEntry service => exact outcomeBuilding_response _
  | listEntries query =>
      exact congrArg (Response.mk ResponseStatus.ok.toByte)
        (listPayload_eq (self.listEntries library query))
  | getTotp service =>
      exact getTotpBuilding_response library env.clock self service

/-- Without an exception the packet is the one the handler sends. -/
theorem respond_none (primitives : Primitives) (library : Library)
    (env : ServeEnv) (agent : AgentServer) (storage : Storage)
    (received : SecureBytes) :
    respond primitives library env agent storage received none =
      (agent.handleClient primitives library env storage received).response := by
  rw [handleClient_eq, respond]
  cases parseRequest received with
  | none => rfl
  | some request =>
      rw [Option.map_some, performIfAny]
      cases request with
      | ping => rfl
      | status => rfl
      | unlock masterPassword =>
          simp only [building, Building.respond, perform]
          cases unlock primitives env masterPassword agent storage.files with
          | error err => rfl
          | ok unlocked => rfl
      | lock => rfl
      | stop => rfl
      | entry call =>
          simp only [building, Building.respond, perform, serve]
          cases agent.vaultService with
          | none => rfl
          | some service =>
              exact congrArg some
                (callBuilding_response primitives library env storage service
                  call)
      | malformed text => rfl

end AgentServer

end DuckPass
