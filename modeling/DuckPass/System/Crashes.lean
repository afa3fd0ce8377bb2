/-
Module: DuckPass.System.Crashes
Purpose: The instances over one vault file when their processes can be killed
  at any moment of the work they do under the lock.
Trusted boundary: the lock of a process that is gone is free; what the
  directory held when it was killed stays.
Main exports: CrashEvent, System.kill, System.crashStep, crashStep_files
-/
import DuckPass.Proofs.Rekey

namespace DuckPass

/-- A step of the instances, or the process of one of them is killed while it
works under the lock, when the directory was in this recorded state. -/
inductive CrashEvent where
  | step (event : Event)
  | killed (id : Nat) (env : CommitEnv) (clock : Clock) (moment : Nat)

namespace System

variable {path : Path}

/-- The work under the lock ends at one of its moments, and with it the
instance. -/
def kill (primitives : Primitives) (system : System path) (id : Nat)
    (env : CommitEnv) (clock : Clock) (moment : Nat) :
    Option (System path × Reply) :=
  match system.sessions id with
  | none => none
  | some session =>
      match session.pending with
      | none => none
      | some request =>
          let outcome := request.locked primitives env clock session.service
            (.start system.files)
          match outcome.storage.moments[moment]? with
          | none => none
          | some files => some (system.put files id none, .destroyed)

def crashStep (primitives : Primitives) (system : System path) :
    CrashEvent → Option (System path × Reply)
  | .step event => system.step primitives event
  | .killed id env clock moment => system.kill primitives id env clock moment

/-- The instance works under the lock, on this call. -/
def WorksUnderLock (system : System path) (id : Nat) (session : Session path)
    (request : Request) : CrashEvent → Prop
  | .step (.commit committed _ _) =>
      committed = id ∧ system.sessions id = some session ∧
        session.pending = some request
  | .killed killed _ _ _ =>
      killed = id ∧ system.sessions id = some session ∧
        session.pending = some request
  | _ => False

/-- The call on which an instance works in this step. -/
def underLock (system : System path) : CrashEvent → Option Request
  | .step (.commit id _ _) => (system.sessions id).bind Session.pending
  | .killed id _ _ _ => (system.sessions id).bind Session.pending
  | _ => none

/-- The session that is in the locked section at a crash was working on a
request. -/
theorem underLock_of_works {system : System path} {id : Nat}
    {session : Session path} {request : Request} {event : CrashEvent}
    (works : system.WorksUnderLock id session request event) :
    system.underLock event = some request := by
  cases event with
  | killed =>
      obtain ⟨rfl, present, pending⟩ := works
      rw [underLock, present, Option.bind_some, pending]
  | step event =>
      cases event with
      | commit =>
          obtain ⟨rfl, present, pending⟩ := works
          rw [underLock, present, Option.bind_some, pending]
      | construct => cases works
      | call => cases works
      | destroy => cases works

end System

/-- Whether it returns, throws or is killed, a step leaves the directory as it
was or as it is at some moment of the work of one instance. -/
theorem crashStep_files {path : Path} {primitives : Primitives}
    {system next : System path} {event : CrashEvent} {reply : Reply}
    (stepped : system.crashStep primitives event = some (next, reply)) :
    next.files = system.files ∨
      ∃ id session request env clock,
        system.WorksUnderLock id session request event ∧
        next.files ∈ (request.locked primitives env clock session.service
          (.start system.files)).storage.moments := by
  cases event with
  | killed id env clock moment =>
      simp only [System.crashStep, System.kill] at stepped
      split at stepped
      · cases stepped
      · next session present =>
          split at stepped
          · cases stepped
          · next request pending =>
              split at stepped
              · cases stepped
              · next files recorded =>
                  cases stepped
                  exact .inr ⟨id, session, request, env, clock,
                    ⟨rfl, present, pending⟩, List.mem_of_getElem? recorded⟩
  | step event =>
      rw [System.crashStep] at stepped
      cases event with
      | commit id env clock =>
          simp only [System.step, System.commit] at stepped
          split at stepped
          · cases stepped
          · next session present =>
              split at stepped
              · cases stepped
              · next request pending =>
                  cases stepped
                  exact .inr ⟨id, session, request, env, clock,
                    ⟨rfl, present, pending⟩, List.mem_cons_self⟩
      | construct id masterPassword faults clock =>
          cases step_cases stepped with
          | notConstructed => exact .inl rfl
          | constructed => exact .inl rfl
      | call id request clock =>
          cases step_cases stepped with
          | rejected => exact .inl rfl
          | called => exact .inl rfl
      | destroy id =>
          cases step_cases stepped with
          | destroyed => exact .inl rfl

end DuckPass
