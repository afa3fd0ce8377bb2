/-
Module: DuckPass.Proofs.ErrorResponses
Purpose: When an error response is its message and nothing else.  An exception
  inside a `try` block appends its text to what was already inserted for the
  entry, so the response is well formed exactly if nothing was.
Trusted boundary: none
Main exports: ErrorWellFormed, AgentServer.failure, AgentServer.errorMessage,
  Building.Regular, Building.respond_wellFormed_iff,
  AgentServer.building_regular, error_response_wellFormed_iff,
  interrupted_list_leaks
-/
import DuckPass.System.ResponseBuilding
import DuckPass.System.SymbolicAgent

namespace DuckPass

def failureStatuses : List UInt8 :=
  [ResponseStatus.error.toByte, ResponseStatus.locked.toByte,
    ResponseStatus.notFound.toByte]

/-- A response with one of the three failure statuses is one length-prefixed
string, which is the message: nothing else is in the payload. -/
def ErrorWellFormed (message : Option SecureBytes) (response : Response) :
    Prop :=
  response.status ∈ failureStatuses →
    ∃ text, message = some text ∧
      response.payload = AgentServer.appendStr [] text

/-! ## Messages -/

/-- What `what()` says of a call, if it throws. -/
def thrownText {α : Type} : Except DuckpassError α → Option SecureBytes
  | .ok _ => none
  | .error error => some error.what

namespace AgentServer

section Messages

variable (primitives : Primitives) (library : Library) (env : ServeEnv)
  (agent : AgentServer) (storage : Storage)

/-- Why a session cannot be opened: the vault path is not to be had, there is no
file, or the constructor of the service throws. -/
def unlockFailure (masterPassword : SecureString) : Option SecureBytes :=
  match env.vaultPath with
  | .error error => some error.what
  | .ok vaultPath =>
      if (storage.files vaultPath).isNone then
        some (textBytes "Vault has not been initialized. Run 'duckpass init'.")
      else
        thrownText (VaultService.construct primitives env.load vaultPath
          masterPassword storage.files env.clock)

/-- Why the service does not answer a request: there is no such entry, or its
method throws. -/
def callFailure (self : VaultService) : EntryCall → Option SecureBytes
  | .getEntry service =>
      if (self.getEntry service).isNone then
        some (textBytes "Entry not found.")
      else none
  | .addEntry service username password totpSecret =>
      thrownText (self.addEntry primitives env.commit env.clock service
        username password totpSecret storage).result
  | .deleteEntry service =>
      thrownText (self.deleteEntry primitives env.commit env.clock service
        storage).result
  | .listEntries _ => none
  | .getTotp service => thrownText (self.getTotpCode library service env.clock)

/-- The error that a request meets by itself, if it meets one. -/
def failure : AgentRequest → Option SecureBytes
  | .ping => none
  | .status => none
  | .unlock masterPassword =>
      unlockFailure primitives env storage masterPassword
  | .lock => none
  | .stop => none
  | .entry call =>
      match agent.vaultService with
      | none => some (textBytes "Vault is locked in agent.")
      | some service => callFailure primitives library env storage service call
  | .malformed text => some (textBytes text)

/-- The error message of a request: that of the exception that came in between,
or else of the error that the request meets by itself. -/
def errorMessage (request : AgentRequest)
    (interruption : Option Interruption) : Option SecureBytes :=
  ((building primitives library env agent storage request).thrown
    interruption).or (failure primitives library env agent storage request)

end Messages

theorem unlock_eq_error_iff {primitives : Primitives} {env : ServeEnv}
    {agent : AgentServer} {storage : Storage} {masterPassword : SecureString}
    {text : SecureBytes} :
    unlock primitives env masterPassword agent storage.files = .error text ↔
      unlockFailure primitives env storage masterPassword = some text := by
  unfold unlock unlockFailure
  cases env.vaultPath with
  | error error => simp
  | ok vaultPath =>
      dsimp only
      split
      · simp
      · cases VaultService.construct primitives env.load vaultPath
            masterPassword storage.files env.clock with
        | error error => simp [thrownText]
        | ok service => simp [thrownText]

end AgentServer

namespace Building

/-- The exception, if any, comes at the latest from the first insertion: for
GET_ENTRY from `get_entry`, from `unprotect` of the service or from the
insertion of its length, for LIST_ENTRIES and GET_TOTP from the call of the
service or from the insertion that follows it. -/
def ThrownEarly (building : Building) : Option Interruption → Prop
  | some (.inside step _) =>
      step ≤ building.silentSteps ∨ building.steps.length ≤ step
  | _ => True

/-- What a block builds when nothing comes in between is well formed. -/
def Regular (building : Building) (failure : Option SecureBytes) : Prop :=
  ErrorWellFormed failure building.response

/-- Nothing was inserted by the steps before the first insertion, and something
was by any more of them. -/
theorem flatten_take_eq_nil_iff {steps : List SecureBytes} {count : Nat}
    (inside : count < steps.length) :
    (steps.take count).flatten = [] ↔
      count ≤ (steps.takeWhile List.isEmpty).length := by
  induction steps generalizing count with
  | nil => cases inside
  | cons step steps inductionHypothesis =>
      cases count with
      | zero => exact iff_of_true rfl (Nat.zero_le _)
      | succ count =>
          rw [List.take_succ_cons, List.flatten_cons]
          cases step with
          | nil =>
              rw [List.takeWhile_cons_of_pos (by rfl), List.length_cons,
                Nat.succ_le_succ_iff, List.nil_append]
              exact inductionHypothesis (Nat.lt_of_succ_lt_succ inside)
          | cons byte bytes =>
              rw [List.takeWhile_cons_of_neg (by simp)]
              exact iff_of_false (by simp) (Nat.not_succ_le_zero _)

/-- A refusal with the message as its text. -/
theorem refusal_wellFormed (status : ResponseStatus) (text : SecureBytes) :
    ErrorWellFormed (some text) (AgentServer.refusal status text) :=
  fun _ => ⟨text, rfl, rfl⟩

/-- A block whose outcome is no failure. -/
theorem regular_of_ok {building : Building} {failure : Option SecureBytes}
    (fine : building.response.status = ResponseStatus.ok.toByte) :
    building.Regular failure := by
  intro failed
  rw [fine] at failed
  exact absurd failed (by decide)

/-- The response is well formed exactly if an exception came before anything
was inserted. -/
theorem respond_wellFormed_iff {building : Building}
    {failure : Option SecureBytes} (regular : building.Regular failure)
    (interruption : Option Interruption) :
    ErrorWellFormed ((building.thrown interruption).or failure)
        (building.respond interruption) ↔
      building.ThrownEarly interruption := by
  cases interruption with
  | none => exact iff_of_true regular trivial
  | some interruption =>
      cases interruption with
      | outside what =>
          cases what with
          | none => exact iff_of_true (refusal_wellFormed _ _) trivial
          | some what => exact iff_of_true (refusal_wellFormed _ _) trivial
      | inside step what =>
          unfold respond thrown ThrownEarly
          dsimp only
          by_cases reached : step < building.steps.length
          · rw [if_pos reached, if_pos reached,
              or_iff_left (Nat.not_le.mpr reached), silentSteps,
              ← flatten_take_eq_nil_iff reached]
            constructor
            · intro wellFormed
              obtain ⟨message, same, single⟩ :=
                wellFormed List.mem_cons_self
              cases same
              rw [AgentServer.appendStr, appendPrefixed_eq _ what] at single
              exact List.append_left_eq_self.mp single
            · intro nothing _
              refine ⟨what, rfl, ?_⟩
              rw [nothing]
          · rw [if_neg reached, if_neg reached]
            exact iff_of_true regular (.inr (Nat.le_of_not_lt reached))

end Building

namespace AgentServer

/-- A writing call fails with what its method throws. -/
theorem outcomeBuilding_regular (outcome : Outcome) :
    (outcomeBuilding outcome).Regular (thrownText outcome.result) := by
  obtain ⟨result, self, storage⟩ := outcome
  cases result with
  | error error => exact Building.refusal_wellFormed _ _
  | ok done => exact Building.regular_of_ok rfl

theorem getEntryBuilding_regular (self : VaultService)
    (service : SecureString) :
    (getEntryBuilding self service).Regular
      (if (self.getEntry service).isNone then
        some (textBytes "Entry not found.")
      else none) := by
  unfold getEntryBuilding
  cases self.getEntry service with
  | none => exact fun _ => ⟨textBytes "Entry not found.", rfl, rfl⟩
  | some entry => exact Building.regular_of_ok rfl

theorem getTotpBuilding_regular (library : Library) (clock : Clock)
    (self : VaultService) (service : SecureString) :
    (getTotpBuilding library clock self service).Regular
      (thrownText (self.getTotpCode library service clock)) := by
  unfold getTotpBuilding
  cases self.getTotpCode library service clock with
  | error error => exact Building.refusal_wellFormed _ _
  | ok result => exact Building.regular_of_ok rfl

/-- Every request is answered by a regular block. -/
theorem building_regular (primitives : Primitives) (library : Library)
    (env : ServeEnv) (agent : AgentServer) (storage : Storage)
    (request : AgentRequest) :
    (building primitives library env agent storage request).Regular
      (failure primitives library env agent storage request) := by
  cases request with
  | ping =>
      intro failed
      exact absurd (show pongByte ∈ failureStatuses from failed) (by decide)
  | status => exact Building.regular_of_ok rfl
  | unlock masterPassword =>
      unfold building failure
      dsimp only
      cases ended : unlock primitives env masterPassword agent storage.files with
      | error err =>
          rw [unlock_eq_error_iff.mp ended]
          exact Building.refusal_wellFormed _ _
      | ok unlocked => exact Building.regular_of_ok rfl
  | lock => exact Building.regular_of_ok rfl
  | stop => exact Building.regular_of_ok rfl
  | entry call =>
      unfold building failure
      dsimp only
      cases agent.vaultService with
      | none => exact Building.refusal_wellFormed _ _
      | some self =>
          cases call with
          | getEntry service => exact getEntryBuilding_regular self service
          | addEntry service username password totpSecret =>
              exact outcomeBuilding_regular _
          | deleteEntry service => exact outcomeBuilding_regular _
          | listEntries query => exact Building.regular_of_ok rfl
          | getTotp service => exact getTotpBuilding_regular _ _ self service
  | malformed text => exact Building.refusal_wellFormed _ _

end AgentServer

/-! ## Main result -/

/-- For every request in every state of the agent, and every exception at
whatever point of its handling: the response, if it reports a failure, is the
error message and nothing else, exactly if no exception came inside a `try`
block after the first insertion. -/
theorem error_response_wellFormed_iff (primitives : Primitives)
    (library : Library) (env : ServeEnv) (agent : AgentServer)
    (storage : Storage) {received : SecureBytes} {request : AgentRequest}
    (parsed : parseRequest received = some request)
    (interruption : Option Interruption) :
    (∃ response,
      agent.respond primitives library env storage received interruption =
        some response ∧
      ErrorWellFormed
        (agent.errorMessage primitives library env storage request
          interruption) response) ↔
      (agent.building primitives library env storage request).ThrownEarly
        interruption := by
  rw [← Building.respond_wellFormed_iff (AgentServer.building_regular
    primitives library env agent storage request), AgentServer.respond, parsed,
    Option.map_some]
  constructor
  · rintro ⟨_, ⟨⟩, wellFormed⟩
    exact wellFormed
  · intro wellFormed
    exact ⟨_, rfl, wellFormed⟩

namespace ErrorResponses

open Symbolic (serveEnv masterPassword)

/-- Two accounts. -/
def twoEntries : Vault :=
  Symbolic.oneEntry.store ⟨[0x74], [2], [0x42], [], 8⟩

def agent : AgentServer := Symbolic.unlockedAgent 300 twoEntries 0

def storage : Storage := .start (Symbolic.files twoEntries masterPassword)

def list : SecureBytes :=
  serializePacket CommandOpcode.listEntries.toByte (appendPrefixed [] [])

/-- `unprotect` cannot allocate the second service name. -/
def outOfMemory : Interruption := .inside 8 (textBytes "std::bad_alloc")

def response (interruption : Interruption) : Option Response :=
  agent.respond Symbolic.primitives Symbolic.library
    (serveEnv nanosecondsPerSecond 1) storage list (some interruption)

end ErrorResponses

open ErrorResponses in
/-- The same exception from `list_entries` itself is reported as such. -/
theorem error_response_wellFormed_early :
    (∃ response,
      agent.respond Symbolic.primitives Symbolic.library
        (Symbolic.serveEnv nanosecondsPerSecond 1) storage list
        (some (.inside 0 (textBytes "std::bad_alloc"))) = some response ∧
      ErrorWellFormed
        (agent.errorMessage Symbolic.primitives Symbolic.library
          (Symbolic.serveEnv nanosecondsPerSecond 1) storage
          (.entry (.listEntries []))
          (some (.inside 0 (textBytes "std::bad_alloc")))) response) ↔
      (agent.building Symbolic.primitives Symbolic.library
        (Symbolic.serveEnv nanosecondsPerSecond 1) storage
        (.entry (.listEntries []))).ThrownEarly
        (some (.inside 0 (textBytes "std::bad_alloc"))) :=
  error_response_wellFormed_iff Symbolic.primitives Symbolic.library
    (Symbolic.serveEnv nanosecondsPerSecond 1) agent storage (by decide)
    (some (.inside 0 (textBytes "std::bad_alloc")))

open ErrorResponses in
/-- An exception in the second round of LIST_ENTRIES is answered with the count
and the first account in front of the message. -/
theorem interrupted_list_leaks :
    response outOfMemory =
        some ⟨ResponseStatus.error.toByte,
          htonl 2 ++ (appendPrefixed [] Symbolic.service ++
            (appendPrefixed [] [1] ++
              appendPrefixed [] (textBytes "std::bad_alloc")))⟩ ∧
      ∀ answer, response outOfMemory = some answer →
        ¬ ErrorWellFormed
          (agent.errorMessage Symbolic.primitives Symbolic.library
            (Symbolic.serveEnv nanosecondsPerSecond 1) storage
            (.entry (.listEntries [])) (some outOfMemory)) answer := by
  have sent : response outOfMemory =
      some ⟨ResponseStatus.error.toByte,
        htonl 2 ++ (appendPrefixed [] Symbolic.service ++
          (appendPrefixed [] [1] ++
            appendPrefixed [] (textBytes "std::bad_alloc")))⟩ := by
    decide
  refine ⟨sent, ?_⟩
  intro answer answered wellFormed
  rw [sent] at answered
  cases answered
  obtain ⟨message, same, single⟩ := wellFormed (by decide)
  cases same
  exact absurd single (by decide)

end DuckPass
