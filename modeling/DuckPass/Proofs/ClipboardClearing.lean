/-
Module: DuckPass.Proofs.ClipboardClearing
Purpose: Whether a secret that `secureCopyToClipboard` has put on the
  clipboard is cleared.  Calls and callbacks that overlap take each other's
  timer and the text it is compared with.
Trusted boundary: as for `DuckPass.System.Clipboard`
Main exports: ClipboardManager.Watched, ClipboardManager.Careful,
  ClipboardManager.Cleared, copied_secret_is_cleared
-/
import DuckPass.Lib.InFlight
import DuckPass.System.Clipboard

namespace DuckPass

open InFlight

/-- The steps left for a task that comes to its end, with the timer it
sets. -/
def ClipboardTask.steps : ClipboardTask → Nat
  | written _ => 5
  | reading => 3
  | read _ => 2
  | _ => 1

namespace ClipboardManager

/-! ## Who is to clear a secret -/

/-- The text on the clipboard is to be replaced, or the call that wrote it is
still to note it. -/
inductive Replaced (manager : ClipboardManager) : Prop where
  | writing (text : Utf8String) (task : .writing text ∈ manager.tasks)
  | clearing (task : .clearing ∈ manager.tasks)
  | written (task : .written manager.clipboard ∈ manager.tasks)

/-- Somebody is to clear the text on the clipboard: it is the text that was
noted, and a timer is set or a callback is to read it; or a callback has read
the text that was noted. -/
inductive Watched (manager : ClipboardManager) : Prop where
  | replaced (replaced : manager.Replaced)
  | timer (noted : manager.lastCopiedSecret = some manager.clipboard)
      (timer : manager.timers ≠ [])
  | reading (noted : manager.lastCopiedSecret = some manager.clipboard)
      (task : .reading ∈ manager.tasks)
  | read (text : Utf8String) (noted : manager.lastCopiedSecret = some text)
      (task : .read text ∈ manager.tasks)

/-- What a step asks for while the clipboard holds a secret: a write fails
only if the secret is watched otherwise; a call notes its text only if that is
the secret, or the secret is to be replaced, or a callback has read the call's
text already; a callback ends only if the secret is to be replaced. -/
def Careful (manager : ClipboardManager) : ClipboardEvent → Prop
  | .refuse index => manager.copied = true → (manager.remove index).Watched
  | .resume index => manager.copied = true →
      match manager.tasks[index]? with
      | some (.written text) =>
          text = manager.clipboard ∨ (manager.remove index).Replaced ∨
            .read text ∈ (manager.remove index).tasks
      | some (.read current) =>
          manager.lastCopiedSecret = some current ∨
            (manager.remove index).Replaced
      | some .cleared => (manager.remove index).Replaced
      | _ => True
  | _ => True

variable {manager next : ClipboardManager} {event : ClipboardEvent}
  {task : ClipboardTask} {index : Nat} {reply : Option Bool}

/-! ## Steps -/

/-- Being replaced depends on the tasks and the clipboard alone. -/
theorem Replaced.mono (replaced : manager.Replaced)
    (tasks : ∀ task ∈ manager.tasks, task ∈ next.tasks)
    (clipboard : next.clipboard = manager.clipboard) : next.Replaced := by
  cases replaced with
  | writing text task => exact .writing text (tasks _ task)
  | clearing task => exact .clearing (tasks _ task)
  | written task =>
      refine .written ?_
      rw [clipboard]
      exact tasks _ task

/-- More tasks and timers watch what fewer have watched. -/
theorem Watched.mono (watched : manager.Watched)
    (tasks : ∀ task ∈ manager.tasks, task ∈ next.tasks)
    (clipboard : next.clipboard = manager.clipboard)
    (noted : next.lastCopiedSecret = manager.lastCopiedSecret)
    (timers : manager.timers ≠ [] → next.timers ≠ []) : next.Watched := by
  cases watched with
  | replaced replaced => exact .replaced (replaced.mono tasks clipboard)
  | timer same set =>
      refine .timer ?_ (timers set)
      rw [noted, same, clipboard]
  | reading same task =>
      refine .reading ?_ (tasks _ task)
      rw [noted, same, clipboard]
  | read text same task => exact .read text (noted.trans same) (tasks _ task)

/-- The other tasks stay when one is removed. -/
theorem mem_remove {other : ClipboardTask}
    (found : manager.tasks[index]? = some task)
    (member : other ∈ manager.tasks) (different : other ≠ task) :
    other ∈ (manager.remove index).tasks :=
  (mem_of_getElem?_eraseIdx found other member).resolve_left different

/-- A task that is started is added to the others. -/
theorem mem_start {other : ClipboardTask} :
    other ∈ (manager.start task).tasks ↔
      other ∈ manager.tasks ∨ other = task := by
  simp [start]

/-- A secret that is to be replaced is so whatever becomes of another task. -/
theorem Replaced.remove (replaced : manager.Replaced)
    (found : manager.tasks[index]? = some task)
    (writing : ∀ text, task ≠ .writing text)
    (clearing : task ≠ .clearing) (written : ∀ text, task ≠ .written text) :
    (manager.remove index).Replaced := by
  cases replaced with
  | writing text task =>
      exact .writing text (mem_remove found task (Ne.symm (writing text)))
  | clearing task => exact .clearing (mem_remove found task clearing.symm)
  | written task =>
      exact .written (mem_remove found task (Ne.symm (written _)))

/-- What is kept: a secret on the clipboard is watched. -/
def Covered (manager : ClipboardManager) : Prop :=
  manager.copied = true → manager.Watched

/-- At the start nothing was copied. -/
theorem covered_initial : Covered initial := nofun

/-- A task that takes effect on the clipboard keeps the secret covered. -/
theorem covered_takeEffect (covered : Covered manager)
    (found : manager.tasks[index]? = some task)
    (effect : (manager.remove index).takeEffect task = some next) :
    Covered next := by
  cases task with
  | writing text =>
      cases effect
      exact fun _ => .replaced (.written (mem_start.mpr (.inr rfl)))
  | clearing =>
      cases effect
      exact nofun
  | reading =>
      cases effect
      intro copied
      cases covered copied with
      | replaced replaced =>
          exact .replaced ((replaced.remove found nofun nofun nofun).mono
            (fun _ member => mem_start.mpr (.inl member)) rfl)
      | timer noted set => exact .timer noted set
      | reading noted task =>
          exact .read _ noted (mem_start.mpr (.inr rfl))
      | read text noted task =>
          exact .read text noted
            (mem_start.mpr (.inl (mem_remove found task nofun)))
  | _ => cases effect

/-- So does one that goes on afterwards, with care. -/
theorem covered_resume (covered : Covered manager)
    (found : manager.tasks[index]? = some task)
    (careful : manager.Careful (.resume index))
    (resumed : (manager.remove index).resume task = some (next, reply)) :
    Covered next := by
  intro copied
  cases task with
  | written text =>
      cases resumed
      have allowed := careful copied
      rw [found] at allowed
      obtain rfl | replaced | member := allowed
      · exact .timer rfl (by simp [setClearTimer])
      · exact .replaced (replaced.mono (fun _ member => member) rfl)
      · exact .read text rfl member
  | refused =>
      cases resumed
      cases covered copied with
      | replaced replaced =>
          exact .replaced (replaced.remove found nofun nofun nofun)
      | timer noted set => exact .timer noted set
      | reading noted task =>
          exact .reading noted (mem_remove found task nofun)
      | read text noted task =>
          exact .read text noted (mem_remove found task nofun)
  | read current =>
      simp only [resume] at resumed
      split at resumed
      · cases resumed
        exact .replaced (.clearing (mem_start.mpr (.inr rfl)))
      · rename_i other
        cases resumed
        have allowed := careful copied
        rw [found] at allowed
        obtain noted | replaced := allowed
        · exact absurd noted other
        · exact .replaced (replaced.mono (fun _ member => member) rfl)
  | cleared =>
      cases resumed
      have allowed := careful copied
      rw [found] at allowed
      exact .replaced (allowed.mono (fun _ member => member) rfl)
  | _ => cases resumed

/-- So does every careful step. -/
theorem covered_step (covered : Covered manager)
    (careful : manager.Careful event)
    (stepped : manager.step event = some (next, reply)) : Covered next := by
  cases event with
  | copy text =>
      cases stepped
      exact fun _ => .replaced (.writing text (mem_start.mpr (.inr rfl)))
  | effect index =>
      simp only [step] at stepped
      split at stepped
      · cases stepped
      · rename_i task found
        obtain ⟨after, effect, moved⟩ := Option.map_eq_some_iff.mp stepped
        cases moved
        exact covered_takeEffect covered found effect
  | refuse index =>
      simp only [step] at stepped
      split at stepped
      · cases stepped
        exact fun copied => (careful copied).mono
          (fun _ member => mem_start.mpr (.inl member)) rfl rfl id
      · cases stepped
  | resume index =>
      simp only [step] at stepped
      split at stepped
      · cases stepped
      · rename_i task found
        exact covered_resume covered found careful stepped
  | timer timer =>
      simp only [step] at stepped
      split at stepped
      · cases stepped
        intro copied
        cases covered copied with
        | replaced replaced =>
            exact .replaced (replaced.mono
              (fun _ member => mem_start.mpr (.inl member)) rfl)
        | timer noted set =>
            exact .reading noted (mem_start.mpr (.inr rfl))
        | reading noted task =>
            exact .reading noted (mem_start.mpr (.inl task))
        | read text noted task =>
            exact .read text noted (mem_start.mpr (.inl task))
      · cases stepped
  | copyElsewhere text =>
      cases stepped
      exact nofun

/-! ## Runs -/

/-- With no timer set and no call or callback under way, the clipboard holds
no text that was last put there by `secureCopyToClipboard`. -/
def Cleared (manager : ClipboardManager) : Prop :=
  manager.timers = [] → manager.tasks = [] → manager.copied = false

/-- A covered secret is cleared once all is done. -/
theorem cleared_of_covered (covered : Covered manager) : Cleared manager := by
  intro noTimer noTask
  refine Bool.eq_false_iff.mpr fun copied => ?_
  cases covered copied with
  | replaced replaced =>
      cases replaced with
      | writing text task =>
          rw [noTask] at task
          cases task
      | clearing task =>
          rw [noTask] at task
          cases task
      | written task =>
          rw [noTask] at task
          cases task
  | timer noted set => exact set noTimer
  | reading noted task =>
      rw [noTask] at task
      cases task
  | read text noted task =>
      rw [noTask] at task
      cases task

/-! ## The other direction -/

/-- The clipboard holds a secret that nobody is to clear. -/
structure Exposed (manager : ClipboardManager) : Prop where
  copied : manager.copied = true
  unwatched : ¬ manager.Watched

/-- What is left of the tasks was there before. -/
theorem mem_of_mem_remove {other : ClipboardTask}
    (member : other ∈ (manager.remove index).tasks) :
    other ∈ manager.tasks :=
  List.mem_of_mem_eraseIdx member

/-- A task that is removed has not written over the secret. -/
theorem Replaced.of_remove (replaced : (manager.remove index).Replaced) :
    manager.Replaced :=
  replaced.mono (fun _ => mem_of_mem_remove) rfl

/-- Nor has one that is started and does not write. -/
theorem Replaced.of_start (replaced : (manager.start task).Replaced)
    (writing : ∀ text, task ≠ .writing text)
    (clearing : task ≠ .clearing) (written : ∀ text, task ≠ .written text) :
    manager.Replaced := by
  cases replaced with
  | writing text member =>
      exact .writing text
        ((mem_start.mp member).resolve_right (Ne.symm (writing text)))
  | clearing member =>
      exact .clearing ((mem_start.mp member).resolve_right clearing.symm)
  | written member =>
      exact .written
        ((mem_start.mp member).resolve_right (Ne.symm (written _)))

/-- Ending a callback notes nothing any more. -/
theorem exposed_finish (copied : manager.copied = true)
    (unreplaced : ¬ manager.Replaced) : manager.finish.Exposed where
  copied := copied
  unwatched := by
    intro watched
    cases watched with
    | replaced replaced =>
        exact unreplaced (replaced.mono (fun _ member => member) rfl)
    | timer noted => cases noted
    | reading noted => cases noted
    | read text noted => cases noted

/-- A timer that is set for another text leaves the secret exposed. -/
theorem exposed_setClearTimer {text : Utf8String}
    (copied : manager.copied = true) (unreplaced : ¬ manager.Replaced)
    (other : text ≠ manager.clipboard)
    (unread : .read text ∉ manager.tasks) :
    (manager.setClearTimer text).Exposed where
  copied := copied
  unwatched := by
    intro watched
    cases watched with
    | replaced replaced =>
        exact unreplaced (replaced.mono (fun _ member => member) rfl)
    | timer noted => exact other (Option.some.inj noted)
    | reading noted => exact other (Option.some.inj noted)
    | read text' noted task =>
        obtain rfl : text = text' := Option.some.inj noted
        exact unread task

/-- So does every careless step. -/
theorem exposed_of_not_careful (careless : ¬ manager.Careful event)
    (stepped : manager.step event = some (next, reply)) : next.Exposed := by
  cases event with
  | refuse index =>
      obtain ⟨copied, unwatched⟩ := Classical.not_imp.mp careless
      simp only [step] at stepped
      split at stepped
      · cases stepped
        refine ⟨copied, fun watched => unwatched ?_⟩
        cases watched with
        | replaced replaced =>
            exact .replaced (replaced.of_start nofun nofun nofun)
        | timer noted set => exact .timer noted set
        | reading noted task =>
            exact .reading noted ((mem_start.mp task).resolve_right nofun)
        | read text noted task =>
            exact .read text noted ((mem_start.mp task).resolve_right nofun)
      · cases stepped
  | resume index =>
      obtain ⟨copied, unmet⟩ := Classical.not_imp.mp careless
      simp only [step] at stepped
      split at stepped
      · cases stepped
      · rename_i task found
        rw [found] at unmet
        cases task with
        | written text =>
            cases stepped
            simp only [not_or] at unmet
            exact exposed_setClearTimer copied unmet.2.1 unmet.1 unmet.2.2
        | read current =>
            simp only [not_or] at unmet
            simp only [resume] at stepped
            rw [if_neg (show ¬ (manager.remove index).lastCopiedSecret =
              some current from unmet.1)] at stepped
            cases stepped
            exact exposed_finish copied unmet.2
        | cleared =>
            cases stepped
            exact exposed_finish copied unmet
        | _ => exact absurd trivial unmet
  | _ => exact absurd trivial careless

/-! A secret that nobody is to clear stays on the clipboard when everything
comes to its end: first the callbacks that have read, then the others, and the
calls one by one, each with its own timer. -/

def steps (manager : ClipboardManager) : Nat :=
  4 * manager.timers.length + (manager.tasks.map ClipboardTask.steps).sum

/-- The steps of a task that is removed are those that are missing. -/
theorem steps_remove (found : manager.tasks[index]? = some task) :
    task.steps + (manager.remove index).steps = manager.steps := by
  have fewer := sum_eraseIdx ClipboardTask.steps found
  simp only [steps, remove]
  omega

/-- And those of one that is started are added. -/
theorem steps_start :
    (manager.start task).steps = manager.steps + task.steps := by
  simp [steps, start, Nat.add_assoc]

/-- A callback that has read another text, or that has cleared the clipboard
before, ends; a failed call returns. -/
theorem exposed_resume (exposed : manager.Exposed)
    (found : manager.tasks[index]? = some task)
    (ending : task = .refused ∨ task = .cleared ∨ ∃ text, task = .read text) :
    ∃ after returned, manager.step (.resume index) = some (after, returned) ∧
      after.Exposed ∧ after.steps < manager.steps := by
  have fewer := steps_remove found
  have unreplaced : ¬ (manager.remove index).Replaced := fun replaced =>
    exposed.unwatched (.replaced replaced.of_remove)
  have less : (manager.remove index).steps < manager.steps := by
    have positive : 0 < task.steps := by
      cases task <;> simp [ClipboardTask.steps]
    omega
  obtain rfl | rfl | ⟨text, rfl⟩ := ending
  · refine ⟨manager.remove index, some false, by simp [step, found, resume],
      ⟨exposed.copied, fun watched => exposed.unwatched ?_⟩, less⟩
    exact watched.mono (fun _ => mem_of_mem_remove) rfl rfl id
  · exact ⟨(manager.remove index).finish, none, by simp [step, found, resume],
      exposed_finish exposed.copied unreplaced, less⟩
  · have other : (manager.remove index).lastCopiedSecret ≠ some text :=
      fun noted => exposed.unwatched
        (.read text noted (List.mem_of_getElem? found))
    refine ⟨(manager.remove index).finish, none, ?_,
      exposed_finish exposed.copied unreplaced, less⟩
    simp only [step, found, resume]
    rw [if_neg other]

/-- A callback reads the secret, which has not been noted. -/
theorem exposed_reading (exposed : manager.Exposed)
    (found : manager.tasks[index]? = some .reading) :
    ∃ after returned, manager.step (.effect index) = some (after, returned) ∧
      after.Exposed ∧ after.steps < manager.steps := by
  refine ⟨(manager.remove index).start (.read manager.clipboard), none,
    by simp [step, found, takeEffect, remove],
    ⟨exposed.copied, fun watched => exposed.unwatched ?_⟩, ?_⟩
  · cases watched with
    | replaced replaced =>
        exact .replaced (replaced.of_start nofun nofun nofun).of_remove
    | timer noted set => exact .timer noted set
    | reading noted member =>
        exact .reading noted (mem_of_mem_remove
          ((mem_start.mp member).resolve_right nofun))
    | read text noted member =>
        obtain before | same := mem_start.mp member
        · exact .read text noted (mem_of_mem_remove before)
        · cases same
          exact .reading noted (List.mem_of_getElem? found)
  · have fewer := steps_remove found
    rw [steps_start]
    simp only [ClipboardTask.steps] at fewer ⊢
    omega

/-- A timer fires, while the secret is not the text that was noted. -/
theorem exposed_timer (exposed : manager.Exposed) {timer : Nat}
    (set : timer ∈ manager.timers) :
    ∃ after returned, manager.step (.timer timer) = some (after, returned) ∧
      after.Exposed ∧ after.steps < manager.steps := by
  have alive : manager.timers ≠ [] := List.ne_nil_of_mem set
  refine ⟨{ manager with timers := manager.timers.erase timer }.start
      .reading, none, by simp [step, set],
    ⟨exposed.copied, fun watched => exposed.unwatched ?_⟩, ?_⟩
  · cases watched with
    | replaced replaced =>
        exact .replaced ((replaced.of_start nofun nofun nofun).mono
          (fun _ member => member) rfl)
    | timer noted still => exact .timer noted alive
    | reading noted member => exact .timer noted alive
    | read text noted member =>
        exact .read text noted ((mem_start.mp member).resolve_right nofun)
  · have one := List.length_erase_of_mem set
    have positive := List.length_pos_of_mem set
    rw [steps_start]
    simp only [steps, ClipboardTask.steps, one]
    omega

/-- A call notes its text, which is not the secret. -/
theorem exposed_written (exposed : manager.Exposed) {text : Utf8String}
    (found : manager.tasks[index]? = some (.written text))
    (unread : ∀ other, .read other ∉ manager.tasks) :
    ∃ after returned, manager.step (.resume index) = some (after, returned) ∧
      after.Exposed ∧ after.steps < manager.steps := by
  have other : text ≠ manager.clipboard := by
    rintro rfl
    exact exposed.unwatched
      (.replaced (.written (List.mem_of_getElem? found)))
  refine ⟨(manager.remove index).setClearTimer text, some true,
    by simp [step, found, resume],
    exposed_setClearTimer exposed.copied
      (fun replaced => exposed.unwatched (.replaced replaced.of_remove))
      other fun member => unread text (mem_of_mem_remove member), ?_⟩
  have fewer := steps_remove found
  simp only [steps, setClearTimer, ClipboardTask.steps,
    List.length_append, List.length_singleton] at fewer ⊢
  omega

/-- Something is left to be done, and can be done with the secret left where
it is. -/
theorem exposed_step (exposed : manager.Exposed)
    (busy : ¬ (manager.timers = [] ∧ manager.tasks = [])) :
    ∃ event after returned,
      manager.step event = some (after, returned) ∧ after.Exposed ∧
        after.steps < manager.steps := by
  by_cases ending : ∃ task ∈ manager.tasks,
      task = .refused ∨ task = .cleared ∨ ∃ text, task = .read text
  · obtain ⟨task, member, ending⟩ := ending
    obtain ⟨index, found⟩ := List.mem_iff_getElem?.mp member
    exact ⟨_, exposed_resume exposed found ending⟩
  by_cases reading : .reading ∈ manager.tasks
  · obtain ⟨index, found⟩ := List.mem_iff_getElem?.mp reading
    exact ⟨_, exposed_reading exposed found⟩
  cases timers : manager.timers with
  | cons timer rest =>
      exact ⟨_, exposed_timer exposed
        (by rw [timers]; exact List.mem_cons_self)⟩
  | nil =>
      cases tasks : manager.tasks with
      | nil => exact absurd ⟨timers, tasks⟩ busy
      | cons task rest =>
          have found : manager.tasks[0]? = some task := by rw [tasks]; rfl
          have member : task ∈ manager.tasks := List.mem_of_getElem? found
          cases task with
          | written text =>
              exact ⟨_, exposed_written exposed found fun other member =>
                ending ⟨_, member, .inr (.inr ⟨other, rfl⟩)⟩⟩
          | writing text =>
              exact absurd (.replaced (.writing text member))
                exposed.unwatched
          | clearing =>
              exact absurd (.replaced (.clearing member)) exposed.unwatched
          | reading => exact absurd member reading
          | refused => exact absurd ⟨_, member, .inl rfl⟩ ending
          | cleared => exact absurd ⟨_, member, .inr (.inl rfl)⟩ ending
          | read text =>
              exact absurd ⟨_, member, .inr (.inr ⟨text, rfl⟩)⟩ ending

/-- After a step that does not meet the condition, everything may come to its
end with the secret still on the clipboard. -/
theorem not_cleared_of_exposed (exposed : manager.Exposed) :
    ∃ events last replies,
      Run.run step manager events = some (last, replies) ∧
        ¬ Cleared last := by
  generalize left : manager.steps = bound
  induction bound using Nat.strongRecOn generalizing manager with
  | ind bound inductionHypothesis =>
      by_cases busy : manager.timers = [] ∧ manager.tasks = []
      · refine ⟨[], manager, [], rfl, fun cleared => ?_⟩
        exact Bool.false_ne_true
          ((cleared busy.1 busy.2).symm.trans exposed.copied)
      · obtain ⟨event, after, returned, stepped, still, fewer⟩ :=
          exposed_step exposed busy
        obtain ⟨events, last, replies, ran, leaked⟩ :=
          inductionHypothesis _ (left ▸ fewer) still rfl
        refine ⟨event :: events, last, returned :: replies, ?_, leaked⟩
        rw [Run.run, stepped]
        dsimp only
        rw [ran]

/-- After a careless step some run leaves the secret on the clipboard. -/
theorem not_cleared_of_not_careful (careless : ¬ manager.Careful event)
    (stepped : manager.step event = some (next, reply)) :
    ∃ events last replies,
      Run.run step next events = some (last, replies) ∧ ¬ Cleared last :=
  not_cleared_of_exposed (exposed_of_not_careful careless stepped)

end ClipboardManager

open ClipboardManager

/-- In every run whose steps meet the condition, a copied secret is cleared
before everything has come to its end. -/
theorem copied_secret_is_cleared {events : List ClipboardEvent}
    {last : ClipboardManager} {replies : List (Option Bool)}
    (careful : Run.Along step Careful initial events)
    (ran : ClipboardManager.run events = some (last, replies)) :
    Cleared last :=
  cleared_of_covered (Run.invariant
    (fun covered careful stepped => covered_step covered careful stepped)
    covered_initial careful ran)

/-! A password is copied, and cleared when its timer fires. -/

def copiedPassword : Utf8String := ⟨[107], rfl⟩

def copying : List ClipboardEvent :=
  [.copy copiedPassword, .effect 0, .resume 0]

theorem copied_secret_is_cleared_once :
    Cleared (Run.reached step initial
      (copying ++ [.timer 0, .effect 0, .resume 0, .effect 0,
        .resume 0])) := by
  refine @copied_secret_is_cleared _ _
    [none, none, some true, none, none, none, none, none] ?_
    (Run.run_reached rfl)
  exact .intro trivial (.intro trivial (.intro (fun _ => .inl rfl)
    (.intro trivial (.intro trivial (.intro (fun _ => .inl rfl)
      (.intro trivial (.intro nofun trivial)))))))

/-- The next secret cannot be copied: the timer of the first one has been
cleared, and its text stays. -/
theorem copied_secret_stays :
    ¬ ∀ events last replies,
      ClipboardManager.run events = some (last, replies) → Cleared last := by
  intro cleared
  have ended := cleared
    (copying ++ [.copy ⟨[108], rfl⟩, .refuse 0, .resume 0]) _
    [none, none, some true, none, none, some false] (Run.run_reached rfl)
    rfl rfl
  cases ended

end DuckPass
