/-
Module: DuckPass.Proofs.LineEditor
Purpose: What `read_line_interactive` does on a terminal: the screen shows the
  prompt and the line whatever keys are pressed, a completion only adds to what
  was typed and settles at once, and without TAB and escape sequences the line
  is the one a pipe gives, with the erased characters left out, as a password
  always is.
Trusted boundary: none
Main exports: LineRequest.complete_extends, LineRequest.complete_stable,
  LineEditor.sound_editLine, terminal_shows_line, completion_settles,
  terminal_reads_like_pipe, password_reads_like_pipe
-/
import DuckPass.Core.LineEditor
import DuckPass.Lib.Screen
import Mathlib.Data.List.Infix
import Mathlib.Data.List.TakeWhile

namespace DuckPass

/-! ## The context of a completion -/

theorem commandWord_append (buffer : SecureBytes) :
    commandWord buffer ++ afterCommand buffer = buffer :=
  List.takeWhile_append_dropWhile

theorem beforeArgument_append (buffer : SecureBytes) :
    beforeArgument buffer ++ argumentPart buffer = buffer := by
  rw [beforeArgument, argumentPart, List.append_assoc,
    List.takeWhile_append_dropWhile, commandWord_append]

/-- What is left begins with a byte that is not skipped. -/
theorem not_of_dropWhile_eq {skipped : UInt8 → Bool} {buffer rest : SecureBytes}
    {c : UInt8} (left : buffer.dropWhile skipped = c :: rest) :
    skipped c = false := by
  have stops := List.head?_dropWhile_not skipped buffer
  rw [left] at stops
  exact stops

/-- What is left after blanks is not the beginning of a text that begins with
one. -/
theorem dropWhile_eq_nil_of_begins {text rest : SecureBytes} {c : UInt8}
    (blank : isBlank c = true)
    (begins : text.dropWhile isBlank <+: c :: rest) :
    text.dropWhile isBlank = [] := by
  cases left : text.dropWhile isBlank with
  | nil => rfl
  | cons first others =>
      rw [left] at begins
      have same := (List.cons_prefix_cons.mp begins).1
      have stops := not_of_dropWhile_eq left
      rw [same, blank] at stops
      cases stops

theorem commandWord_all {buffer : SecureBytes} {c : UInt8}
    (member : c ∈ commandWord buffer) : (! isBlank c) = true :=
  @List.mem_takeWhile_imp _ (! isBlank ·) _ _ member

section AfterArgument

variable {buffer : SecureBytes} (spaced : afterCommand buffer ≠ [])
include spaced

/-- The argument is what follows the first blanks. -/
theorem afterCommand_beforeArgument (argument : SecureBytes) :
    afterCommand (beforeArgument buffer ++ argument) =
        (afterCommand buffer).takeWhile isBlank ++ argument ∧
      commandWord (beforeArgument buffer ++ argument) =
        commandWord buffer := by
  cases tail : afterCommand buffer with
  | nil => exact absurd tail spaced
  | cons c rest =>
      have blank : isBlank c = true := by
        simpa using not_of_dropWhile_eq tail
      have stops : ¬ (! isBlank c) = true := by rw [blank]; decide
      rw [beforeArgument, tail, List.append_assoc,
        List.takeWhile_cons_of_pos blank]
      constructor
      · rw [afterCommand, List.dropWhile_append_of_pos fun _ => commandWord_all]
        exact @List.dropWhile_cons_of_neg _ (! isBlank ·) _ _ stops
      · rw [commandWord, List.takeWhile_append_of_pos fun _ => commandWord_all,
          List.cons_append,
          @List.takeWhile_cons_of_neg _ (! isBlank ·) _ _ stops,
          List.append_nil]

theorem argumentPart_beforeArgument (argument : SecureBytes) :
    argumentPart (beforeArgument buffer ++ argument) =
      argument.dropWhile isBlank := by
  rw [argumentPart, (afterCommand_beforeArgument spaced argument).1,
    List.dropWhile_append_of_pos fun _ => List.mem_takeWhile_imp]

theorem beforeArgument_beforeArgument (argument : SecureBytes) :
    beforeArgument (beforeArgument buffer ++ argument) =
      beforeArgument buffer ++ argument.takeWhile isBlank := by
  obtain ⟨after, word⟩ := afterCommand_beforeArgument spaced argument
  rw [beforeArgument, after, word,
    List.takeWhile_append_of_pos fun _ => List.mem_takeWhile_imp,
    ← List.append_assoc]
  rfl

end AfterArgument

namespace Completion

/-- The candidates that start with what is to be matched. -/
theorem found_eq (completion : Completion) :
    completion.found =
      completion.currentCandidates.filter
        (completion.prefixToMatch.isPrefixOf ·) := by
  refine List.filter_congr fun s _ => ?_
  rw [Bool.eq_iff_iff, List.isPrefixOf_iff_prefix, List.prefix_iff_eq_take,
    Bool.and_eq_true_iff]
  constructor
  · intro kept
    exact (eq_of_beq kept.2).symm
  · intro matched
    have shorter := congrArg List.length matched
    rw [List.length_take] at shorter
    exact ⟨decide_eq_true (by omega), beq_of_eq matched.symm⟩

theorem mem_found {completion : Completion} {s : SecureString} :
    s ∈ completion.found ↔
      s ∈ completion.currentCandidates ∧ completion.prefixToMatch <+: s := by
  rw [found_eq, List.mem_filter, List.isPrefixOf_iff_prefix]

/-- More of the only match is matched by nothing else. -/
theorem found_of_longer {completion longer : Completion} {only : SecureString}
    (unique : completion.found = [only])
    (candidates : longer.currentCandidates = completion.currentCandidates)
    (grown : completion.prefixToMatch <+: longer.prefixToMatch)
    (still : longer.prefixToMatch <+: only) : longer.found = [only] := by
  have narrowed : longer.found =
      completion.found.filter (longer.prefixToMatch.isPrefixOf ·) := by
    rw [found_eq, found_eq, List.filter_filter, candidates]
    refine List.filter_congr fun s _ => ?_
    rw [Bool.eq_iff_iff, Bool.and_eq_true_iff, List.isPrefixOf_iff_prefix,
      List.isPrefixOf_iff_prefix]
    constructor
    · intro long
      exact ⟨long, grown.trans long⟩
    · intro both
      exact both.1
  rw [narrowed, unique]
  exact List.filter_cons_of_pos (List.isPrefixOf_iff_prefix.mpr still)

end Completion

namespace LineRequest

variable {request : LineRequest} {buffer : SecureString}
  {completion : Completion}

theorem completionOf_command (plain : afterCommand buffer = []) :
    request.completionOf buffer = some ⟨[], buffer, request.commands⟩ := by
  rw [completionOf, if_pos (List.isEmpty_iff.mpr plain)]

theorem completionOf_service (spaced : afterCommand buffer ≠ [])
    (serves : commandWord buffer = textBytes "get" ∨
      commandWord buffer = textBytes "delete") :
    request.completionOf buffer =
      some ⟨beforeArgument buffer, argumentPart buffer, request.services⟩ := by
  rw [completionOf, if_neg (mt List.isEmpty_iff.mp spaced), if_pos serves]
  by_cases bare : argumentPart buffer = []
  · have whole := beforeArgument_append buffer
    rw [bare, List.append_nil] at whole
    rw [if_pos (List.isEmpty_iff.mpr bare), bare, whole]
  · rw [if_neg (mt List.isEmpty_iff.mp bare)]

/-- The two contexts of a completion. -/
theorem completionOf_cases
    (completes : request.completionOf buffer = some completion) :
    afterCommand buffer = [] ∧
        completion = ⟨[], buffer, request.commands⟩ ∨
      afterCommand buffer ≠ [] ∧
        (commandWord buffer = textBytes "get" ∨
          commandWord buffer = textBytes "delete") ∧
        completion =
          ⟨beforeArgument buffer, argumentPart buffer, request.services⟩ := by
  by_cases plain : afterCommand buffer = []
  · rw [completionOf_command plain] at completes
    exact .inl ⟨plain, (Option.some.inj completes).symm⟩
  · by_cases serves : commandWord buffer = textBytes "get" ∨
        commandWord buffer = textBytes "delete"
    · rw [completionOf_service plain serves] at completes
      exact .inr ⟨plain, serves, (Option.some.inj completes).symm⟩
    · rw [completionOf, if_neg (mt List.isEmpty_iff.mp plain), if_neg serves]
        at completes
      cases completes

/-- What is matched is the end of the input. -/
theorem completionOf_append
    (completes : request.completionOf buffer = some completion) :
    completion.baseInput ++ completion.prefixToMatch = buffer := by
  obtain ⟨_, rfl⟩ | ⟨_, _, rfl⟩ := completionOf_cases completes
  · rfl
  · exact beforeArgument_append buffer

/-- What TAB does to the buffer. -/
theorem complete_cases (request : LineRequest) (buffer : SecureString) :
    (request.complete buffer).1 = buffer ∨
      ∃ completion only, request.completionOf buffer = some completion ∧
        completion.found = [only] ∧
        (request.complete buffer).1 = completion.baseInput ++ only := by
  unfold complete
  split
  · exact .inl rfl
  · next completion completes =>
      split
      · exact .inl rfl
      · next only unique =>
          exact .inr ⟨completion, only, completes, unique, rfl⟩
      · exact .inl rfl

theorem complete_of_unique {only : SecureString}
    (completes : request.completionOf buffer = some completion)
    (unique : completion.found = [only]) :
    (request.complete buffer).1 = completion.baseInput ++ only := by
  rw [complete, completes]
  dsimp only
  rw [unique]

theorem complete_of_none
    (completes : request.completionOf buffer = some completion)
    (nothing : completion.found = []) :
    (request.complete buffer).1 = buffer := by
  rw [complete, completes]
  dsimp only
  rw [nothing]

/-- TAB takes nothing away. -/
theorem complete_extends (request : LineRequest) (buffer : SecureString) :
    buffer <+: (request.complete buffer).1 := by
  obtain same | ⟨completion, only, completes, unique, completed⟩ :=
    request.complete_cases buffer
  · rw [same]
  · have matched : only ∈ completion.found := by
      rw [unique]
      exact List.mem_singleton_self only
    have grown := (Completion.mem_found.mp matched).2
    rw [completed, ← completionOf_append completes]
    exact (List.prefix_append_right_inj completion.baseInput).mpr grown

/-- No command has a blank in it, and no service is all blanks. -/
structure Completable (request : LineRequest) : Prop where
  commands : ∀ s ∈ request.commands, ∀ c ∈ s, (! isBlank c) = true
  services : ∀ s ∈ request.services, s ≠ [] → s.dropWhile isBlank ≠ []

/-- The only match is found again where it stands. -/
theorem complete_again {longer : Completion} {only : SecureString}
    (unique : completion.found = [only])
    (candidates : longer.currentCandidates = completion.currentCandidates)
    (grown : completion.prefixToMatch <+: only)
    (whole : longer.prefixToMatch = only)
    (completes : request.completionOf (longer.baseInput ++ only) =
      some longer) :
    (request.complete (longer.baseInput ++ only)).1 =
      longer.baseInput ++ only := by
  refine complete_of_unique completes ?_
  refine Completion.found_of_longer unique candidates ?_ ?_
  · rw [whole]
    exact grown
  · rw [whole]

/-- After a command no blank follows, so the context is the same. -/
theorem complete_command (completable : request.Completable)
    {only : SecureString}
    (unique : (⟨[], buffer, request.commands⟩ : Completion).found = [only]) :
    (request.complete only).1 = only := by
  have matched := Completion.mem_found.mp
    (unique.symm ▸ List.mem_singleton_self only)
  have plain : afterCommand only = [] :=
    List.dropWhile_eq_nil_iff.mpr (completable.commands only matched.1)
  exact @complete_again request _ ⟨[], only, request.commands⟩ only unique rfl
    matched.2 rfl (completionOf_command plain)

/-- A service that begins with a blank is not found again, for an argument
does not. -/
theorem complete_service (completable : request.Completable)
    (spaced : afterCommand buffer ≠ [])
    (serves : commandWord buffer = textBytes "get" ∨
      commandWord buffer = textBytes "delete") {only : SecureString}
    (unique : (⟨beforeArgument buffer, argumentPart buffer,
      request.services⟩ : Completion).found = [only]) :
    (request.complete (beforeArgument buffer ++ only)).1 =
      beforeArgument buffer ++ only := by
  obtain ⟨after, word⟩ := afterCommand_beforeArgument spaced only
  have member := Completion.mem_found.mp
    (unique.symm ▸ List.mem_singleton_self only)
  have begun : (afterCommand buffer).takeWhile isBlank ≠ [] := by
    cases tail : afterCommand buffer with
    | nil => exact absurd tail spaced
    | cons c rest =>
        have blank : isBlank c = true := by
          simpa using not_of_dropWhile_eq tail
        rw [List.takeWhile_cons_of_pos blank]
        exact List.cons_ne_nil c _
  have spacedStill : afterCommand (beforeArgument buffer ++ only) ≠ [] := by
    rw [after]
    exact List.append_ne_nil_of_left_ne_nil begun only
  have completes := @completionOf_service request _ spacedStill
    (by rw [word]; exact serves)
  rw [beforeArgument_beforeArgument spaced,
    argumentPart_beforeArgument spaced] at completes
  cases first : only.takeWhile isBlank with
  | nil =>
      have bare : only.dropWhile isBlank = only := by
        have both := @List.takeWhile_append_dropWhile _ isBlank only
        rwa [first, List.nil_append] at both
      rw [first, bare, List.append_nil] at completes
      exact @complete_again request _
        ⟨beforeArgument buffer, only, request.services⟩ only unique rfl
        member.2 rfl completes
  | cons c rest =>
      have whole := @List.takeWhile_append_dropWhile _ isBlank only
      rw [first, List.cons_append] at whole
      have blank : isBlank c = true :=
        List.mem_takeWhile_imp (first ▸ List.mem_cons_self)
      -- Nothing was typed of the service, so it is the only one.
      have bare : argumentPart buffer = [] :=
        dropWhile_eq_nil_of_begins blank (whole.symm ▸ member.2)
      have alone : request.services = [only] := by
        rw [Completion.found_eq, bare] at unique
        simpa using unique
      refine complete_of_none completes ?_
      rw [Completion.found_eq, alone]
      refine List.filter_cons_of_neg fun begins => ?_
      have starts : only.dropWhile isBlank <+:
          c :: (rest ++ only.dropWhile isBlank) := by
        rw [whole]
        exact List.isPrefixOf_iff_prefix.mp begins
      exact completable.services only member.1
        (whole ▸ List.cons_ne_nil c _) (dropWhile_eq_nil_of_begins blank starts)

/-- A second TAB finds nothing more to do. -/
theorem complete_stable (completable : request.Completable)
    (buffer : SecureString) :
    (request.complete (request.complete buffer).1).1 =
      (request.complete buffer).1 := by
  obtain same | ⟨completion, only, completes, unique, completed⟩ :=
    request.complete_cases buffer
  · rw [same, same]
  · rw [completed]
    obtain ⟨_, rfl⟩ | ⟨spaced, serves, rfl⟩ := completionOf_cases completes
    · exact complete_command completable unique
    · exact complete_service completable spaced serves unique

/-! ## The screen -/

/-- Every character of the prompt and of the candidates takes a cell. -/
structure Printable (request : LineRequest) : Prop where
  prompt : ∀ c ∈ request.prompt, Screen.Printable c
  commands : ∀ s ∈ request.commands, ∀ c ∈ s, Screen.Printable c
  services : ∀ s ∈ request.services, ∀ c ∈ s, Screen.Printable c

variable {screen : Screen} {listed : List (List UInt8)}

theorem Printable.found (printable : request.Printable)
    (completes : request.completionOf buffer = some completion) :
    ∀ s ∈ completion.found, ∀ c ∈ s, Screen.Printable c := by
  intro s member
  have candidate := (Completion.mem_found.mp member).1
  obtain ⟨_, rfl⟩ | ⟨_, _, rfl⟩ := completionOf_cases completes
  · exact printable.commands s candidate
  · exact printable.services s candidate

theorem Printable.complete (printable : request.Printable)
    (typed : ∀ c ∈ buffer, Screen.Printable c) :
    ∀ c ∈ (request.complete buffer).1, Screen.Printable c := by
  obtain same | ⟨completion, only, completes, unique, completed⟩ :=
    request.complete_cases buffer
  · rw [same]
    exact typed
  · have base : completion.baseInput <+: buffer :=
      ⟨_, completionOf_append completes⟩
    have candidate := printable.found completes only
      (unique.symm ▸ List.mem_singleton_self only)
    rw [completed]
    exact List.forall_mem_append.mpr
      ⟨fun c member => typed c (base.subset member), candidate⟩

/-- The prompt and the line are written again. -/
theorem Printable.rewritten (printable : request.Printable)
    (typed : ∀ c ∈ buffer, Screen.Printable c)
    (cleared : screen.Shows listed []) :
    (screen.feed (request.prompt ++ buffer)).Shows listed
      (request.prompt ++ buffer) :=
  cleared.written (List.forall_mem_append.mpr ⟨printable.prompt, typed⟩)

/-- The matches are listed below the line, and below them it is written
again. -/
theorem Printable.shows_list (printable : request.Printable)
    (typed : ∀ c ∈ buffer, Screen.Printable c) {names : List SecureString}
    (cells : ∀ s ∈ names, ∀ c ∈ s, Screen.Printable c)
    (shown : screen.Shows listed (request.prompt ++ buffer)) :
    ∃ later, listed <:+ later ∧
      (screen.feed ([0x0D, 0x0A] ++ (names.flatMap (· ++ [0x20, 0x20]) ++
        ([0x0D, 0x0A] ++ (request.prompt ++ buffer))))).Shows later
          (request.prompt ++ buffer) := by
  have list : ∀ c ∈ names.flatMap (· ++ [0x20, 0x20]), Screen.Printable c := by
    intro c member
    obtain ⟨s, matched, member⟩ := List.mem_flatMap.mp member
    obtain member | member := List.mem_append.mp member
    · exact cells s matched c member
    · rw [List.mem_pair, or_self] at member
      exact member ▸ by decide
  obtain ⟨_, atList⟩ := shown.newLine
  obtain ⟨_, atPrompt⟩ := (atList.written list).newLine
  have again := printable.rewritten typed atPrompt
  rw [← Screen.feed_append, ← Screen.feed_append, ← Screen.feed_append] at again
  exact ⟨_, (List.suffix_cons _ listed).trans (List.suffix_cons _ _), again⟩

/-- TAB leaves the line on the screen that it leaves in the buffer. -/
theorem Printable.shows_complete (printable : request.Printable)
    (typed : ∀ c ∈ buffer, Screen.Printable c)
    (shown : screen.Shows listed (request.prompt ++ buffer)) :
    ∃ later, listed <:+ later ∧
      (screen.feed (request.complete buffer).2).Shows later
        (request.prompt ++ (request.complete buffer).1) := by
  have completed := printable.complete typed
  revert completed
  unfold LineRequest.complete
  split
  · exact fun _ => ⟨listed, List.suffix_refl listed, shown⟩
  · next completion completes =>
      split
      · exact fun _ => ⟨listed, List.suffix_refl listed, shown⟩
      · intro completed
        refine ⟨listed, List.suffix_refl listed, ?_⟩
        dsimp only
        rw [Screen.feed_append]
        exact printable.rewritten completed shown.clear
      · exact fun _ =>
          printable.shows_list typed (printable.found completes) shown

end LineRequest

/-! ## The loop -/

namespace LineEditor

variable {request : LineRequest} {above : List (List UInt8)}

/-- The last line of the screen is the prompt with the buffer; once it is
entered, it is the line above the last one, which is empty.  What was on the
screen before is still there, with the lists of matches below it. -/
def Displayed (request : LineRequest) (above : List (List UInt8))
    (editor : LineEditor) (screen : Screen) : Prop :=
  ∃ listed, above <:+ listed ∧
    if editor.reading = .returned then
      ∃ blanks, screen.Shows ((request.prompt ++ editor.buffer ++
        List.replicate blanks 0x20) :: listed) []
    else screen.Shows listed (request.prompt ++ editor.buffer)

/-- What holds whenever the loop waits for a byte. -/
structure Sound (request : LineRequest) (above : List (List UInt8))
    (editor : LineEditor) (screen : Screen) : Prop where
  typed : ∀ c ∈ editor.buffer, Screen.Printable c
  displayed : Displayed request above editor screen

variable {editor next : LineEditor} {screen : Screen} {c : UInt8}
  {written : SecureBytes} {listed : List (List UInt8)}

theorem sound_of_shows {buffer : SecureString} {reading : Reading}
    (typed : ∀ c ∈ buffer, Screen.Printable c) (stays : above <:+ listed)
    (shown : screen.Shows listed (request.prompt ++ buffer))
    (waits : reading ≠ .returned) :
    Sound request above ⟨buffer, reading⟩ screen :=
  ⟨typed, listed, stays, by rw [if_neg waits]; exact shown⟩

theorem printable_of_not_control (ascii : c < 0x80)
    (cell : isControl c = false) : Screen.Printable c := by
  rw [isControl, Bool.or_eq_false_iff, decide_eq_false_iff_not,
    UInt8.not_lt, beq_eq_false_iff_ne] at cell
  obtain ⟨low, high⟩ := cell
  refine ⟨low, ?_⟩
  have different : c.toNat ≠ 0x7F := fun same =>
    high (UInt8.toNat_inj.mp same)
  rw [UInt8.lt_iff_toNat_lt] at ascii
  rw [UInt8.le_iff_toNat_le]
  change c.toNat < 128 at ascii
  change c.toNat ≤ 126
  omega

/-- One round of the loop. -/
theorem sound_key (printable : request.Printable) (ascii : c < 0x80)
    {buffer : SecureString} (typed : ∀ c ∈ buffer, Screen.Printable c)
    (stays : above <:+ listed)
    (shown : screen.Shows listed (request.prompt ++ buffer)) :
    Sound request above (key request buffer c).1
      (screen.feed (key request buffer c).2) := by
  unfold key
  split
  · obtain ⟨blanks, entered⟩ := shown.newLine
    exact ⟨typed, listed, stays, blanks, entered⟩
  split
  · obtain ⟨later, kept, completed⟩ := printable.shows_complete typed shown
    exact sound_of_shows (printable.complete typed) (stays.trans kept) completed
      (by decide)
  split
  · cases empty : buffer.isEmpty with
    | true => exact sound_of_shows typed stays shown (by decide)
    | false =>
        have some := mt List.isEmpty_iff.mpr (ne_true_of_eq_false empty)
        have fewer : ∀ c ∈ buffer.dropLast, Screen.Printable c :=
          fun c member => typed c (List.mem_of_mem_dropLast member)
        rw [← List.dropLast_append_getLast some, ← List.append_assoc] at shown
        exact sound_of_shows fewer stays shown.rubOut (by decide)
  split
  · exact sound_of_shows typed stays shown (by decide)
  cases control : isControl c with
  | true => exact sound_of_shows typed stays shown (by decide)
  | false =>
      have cell := printable_of_not_control ascii control
      have more : ∀ c' ∈ buffer ++ [c], Screen.Printable c' :=
        List.forall_mem_append.mpr ⟨typed, by simpa using cell⟩
      have echoed := shown.put_printable cell
      rw [List.append_assoc] at echoed
      exact sound_of_shows more stays echoed (by decide)

theorem sound_step (printable : request.Printable) (ascii : c < 0x80)
    (sound : Sound request above editor screen)
    (stepped : editor.step request c = some (next, written)) :
    Sound request above next (screen.feed written) := by
  obtain ⟨buffer, reading⟩ := editor
  obtain ⟨typed, listed, stays, shown⟩ := sound
  cases reading with
  | key =>
      have round : key request buffer c = (next, written) :=
        Option.some.inj stepped
      have after := sound_key printable ascii typed stays shown
      rw [round] at after
      exact after
  | escape =>
      cases stepped
      exact sound_of_shows typed stays shown (by decide)
  | escapeLast =>
      cases stepped
      exact sound_of_shows typed stays shown (by decide)
  | returned => cases stepped

theorem sound_editLine (printable : request.Printable) {input : SecureBytes}
    (ascii : ∀ c ∈ input, c < 0x80)
    (sound : Sound request above editor screen) :
    Sound request above (editor.editLine request input).editor
      (screen.feed (editor.editLine request input).output) := by
  induction input generalizing editor screen with
  | nil => exact sound
  | cons c input inductionHypothesis =>
      unfold editLine
      cases stepped : editor.step request c with
      | none => exact sound
      | some result =>
          obtain ⟨next, written⟩ := result
          have first := sound_step printable (ascii c List.mem_cons_self) sound
            stepped
          have rest := inductionHypothesis
            (fun other member => ascii other (List.mem_cons_of_mem c member))
            first
          rw [← Screen.feed_append] at rest
          exact rest

end LineEditor

/-- Two services and a terminal that has just been cleared. -/
def mailPrompt : LineRequest := mainPrompt [textBytes "mail", textBytes "maps"]

def blankScreen : Screen := ⟨[], [], [], .ground⟩

/-- Whatever keys have been pressed on a terminal, its screen shows the prompt
with the line that `read_line_interactive` would return. -/
theorem terminal_shows_line {request : LineRequest}
    (printable : request.Printable) {input : SecureBytes}
    (ascii : ∀ c ∈ input, c < 0x80) {screen : Screen}
    {above : List (List UInt8)} (blank : screen.Shows above []) :
    LineEditor.Displayed request above
      (request.readLineInteractive input).editor
      (screen.feed (request.readLineInteractive input).output) := by
  have prompted := blank.written printable.prompt
  have started := @LineEditor.sound_of_shows request above _ above [] .key
    (fun _ member => absurd member List.not_mem_nil) (List.suffix_refl above)
    (by rw [List.append_nil]; exact prompted) (by decide)
  have ended := LineEditor.sound_editLine printable ascii started
  rw [← Screen.feed_append] at ended
  exact ended.displayed

/-- `g`, TAB, which lists two commands, `et mai`, TAB, and Enter. -/
def mailKeys : SecureBytes :=
  [0x67, 0x09] ++ textBytes "et mai" ++ [0x09, 0x0D]

theorem terminal_shows_line_mail :
    (mailPrompt.readLineInteractive mailKeys).editor =
        ⟨textBytes "get mail", .returned⟩ ∧
      LineEditor.Displayed mailPrompt []
        (mailPrompt.readLineInteractive mailKeys).editor
        (blankScreen.feed (mailPrompt.readLineInteractive mailKeys).output) :=
  ⟨by decide +kernel, terminal_shows_line
    ⟨by decide +kernel, by decide +kernel, by decide +kernel⟩
    (by decide +kernel) ⟨rfl, rfl, ⟨0, rfl⟩, rfl⟩⟩

/-- TAB adds to what was typed or leaves it alone, and a second TAB right after
it adds nothing. -/
theorem completion_settles {request : LineRequest}
    (completable : request.Completable) (buffer : SecureString) :
    buffer <+: (request.complete buffer).1 ∧
      (request.complete (request.complete buffer).1).1 =
        (request.complete buffer).1 :=
  ⟨request.complete_extends buffer,
    LineRequest.complete_stable completable buffer⟩

theorem completion_settles_mail :
    (mailPrompt.complete (textBytes "delete  map")).1 =
        textBytes "delete  maps" ∧
      (mailPrompt.complete
        (mailPrompt.complete (textBytes "delete  map")).1).1 =
        (mailPrompt.complete (textBytes "delete  map")).1 :=
  ⟨by decide +kernel,
    (completion_settles ⟨by decide +kernel, by decide +kernel⟩ _).2⟩

/-! ## A terminal and a pipe -/

/-- The line that typed characters leave: an erase character takes the one
before it away, and no other control character has an effect. -/
def typedLine (buffer : SecureString) : (typed : SecureBytes) → SecureString
  | [] => buffer
  | c :: typed =>
      typedLine
        (if c = 0x7F ∨ c = 0x08 then buffer.dropLast
          else if isControl c then buffer else buffer ++ [c]) typed

/-- A key that neither ends the line nor completes it nor starts an escape
sequence. -/
theorem LineEditor.key_plain {request : LineRequest} {buffer : SecureString}
    {c : UInt8} (goesOn : endsLine c = false) (notTab : c ≠ 0x09)
    (notEscape : c ≠ 0x1B) :
    (LineEditor.key request buffer c).1 =
      ⟨if c = 0x7F ∨ c = 0x08 then buffer.dropLast
        else if isControl c then buffer else buffer ++ [c], .key⟩ := by
  have notEnter : ¬ (c = 0x0D ∨ c = 0x0A) := by
    rintro (rfl | rfl)
    · cases goesOn
    · cases goesOn
  rw [LineEditor.key, if_neg notEnter, if_neg notTab]
  by_cases erases : c = 0x7F ∨ c = 0x08
  · rw [if_pos erases, if_pos erases]
    cases buffer with
    | nil => rfl
    | cons first rest => rfl
  · rw [if_neg erases, if_neg erases, if_neg notEscape]
    by_cases control : isControl c = true
    · rw [if_pos control, if_pos control]
    · rw [if_neg control, if_neg control]

theorem LineEditor.editLine_plain {request : LineRequest}
    {input : SecureBytes}
    (plain : ∀ c ∈ (readLine input).1, c ≠ 0x09 ∧ c ≠ 0x1B)
    (buffer : SecureString) :
    (LineEditor.editLine request ⟨buffer, .key⟩ input).editor.buffer =
        typedLine buffer (readLine input).1 ∧
      (LineEditor.editLine request ⟨buffer, .key⟩ input).rest =
        (readLine input).2 := by
  induction input generalizing buffer with
  | nil => exact ⟨rfl, rfl⟩
  | cons c input inductionHypothesis =>
      unfold readLine at plain ⊢
      cases ends : endsLine c with
      | true =>
          have enter : c = 0x0D ∨ c = 0x0A := by
            simpa [endsLine, or_comm] using ends
          unfold LineEditor.editLine LineEditor.step LineEditor.key
          rw [if_pos enter]
          cases input with
          | nil => exact ⟨rfl, rfl⟩
          | cons next later => exact ⟨rfl, rfl⟩
      | false =>
          rw [ends] at plain
          obtain ⟨⟨notTab, notEscape⟩, later⟩ := List.forall_mem_cons.mp plain
          have pressed := @LineEditor.key_plain request buffer c ends notTab
            notEscape
          have rest := inductionHypothesis later
            (if c = 0x7F ∨ c = 0x08 then buffer.dropLast
              else if isControl c then buffer else buffer ++ [c])
          unfold LineEditor.editLine LineEditor.step
          dsimp only
          rw [pressed]
          exact rest

/-- Without TAB and escape sequences, a call whose guard has set the terminal
reads the line that a pipe gives for the keys that come then, with their erase
characters obeyed, and leaves the same of them unread until its guard discards
them. -/
theorem terminal_reads_like_pipe (request : LineRequest) {call : TerminalCall}
    (guarded : call.thrown = none)
    (plain : ∀ c ∈ (readLine call.keys).1, c ≠ 0x09 ∧ c ≠ 0x1B) :
    ∃ edited, request.call call =
        .ok (edited, if call.restored then [] else (readLine call.keys).2) ∧
      edited.editor.buffer = typedLine [] (readLine call.keys).1 ∧
      edited.rest = (readLine call.keys).2 := by
  obtain ⟨line, rest⟩ := @LineEditor.editLine_plain request _ plain []
  refine ⟨request.readLineInteractive call.keys, ?_, line, rest⟩
  rw [LineRequest.call, guarded, ← rest]
  rfl

/-- `gex`, an erasure, `t`, Enter and `x`, after `ls` and Enter. -/
def erasedCall : TerminalCall :=
  ⟨textBytes "ls" ++ [0x0D],
    textBytes "gex" ++ [0x7F] ++ textBytes "t" ++ [0x0D] ++ textBytes "x",
    true, true, true⟩

theorem terminal_reads_like_pipe_erased :
    ∃ edited, mailPrompt.call erasedCall = .ok (edited, []) ∧
      edited.editor.buffer = typedLine [] (textBytes "gex" ++ [0x7F, 0x74]) ∧
      edited.rest = textBytes "x" :=
  terminal_reads_like_pipe mailPrompt rfl (by decide +kernel)

/-- A password that is typed with erasures. -/
def typedPassword (securePassword : SecureString) (typed : SecureBytes) :
    SecureString :=
  typed.foldl
    (fun left c => if c = 0x08 ∨ c = 0x7F then left.dropLast else left ++ [c])
    securePassword

theorem readPasswordFrom_eq (securePassword : SecureString)
    (input : SecureBytes) :
    readPasswordFrom securePassword input =
      (typedPassword securePassword (readLine input).1,
        (readLine input).2) := by
  induction input generalizing securePassword with
  | nil => rfl
  | cons c input inductionHypothesis =>
      unfold readPasswordFrom readLine
      cases ends : endsLine c with
      | true => rfl
      | false =>
          by_cases erases : c = 0x08 ∨ c = 0x7F
          · rw [if_pos erases, inductionHypothesis]
            simp [typedPassword, erases]
          · rw [if_neg erases, inductionHypothesis]
            simp [typedPassword, erases]

/-- The password from a terminal is the one from a pipe, with its erase
characters obeyed: no other key does anything but stand for itself. -/
theorem password_reads_like_pipe (prompt input : SecureBytes) :
    (readPassword prompt input).1 =
      (typedPassword [] (readLine input).1, (readLine input).2) :=
  readPasswordFrom_eq [] input

end DuckPass
