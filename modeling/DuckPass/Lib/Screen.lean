/-
Module: DuckPass.Lib.Screen
Purpose: What a terminal shows of the bytes that are written to it: lines of
  cells, a cursor on the last one, and the control sequences that move it and
  erase.
Trusted boundary: a line has room for all that is written on it: none wraps.
Main exports: Screen, Screen.put, Screen.feed, Screen.Shows,
  Screen.Shows.written, Screen.Shows.newLine, Screen.Shows.rubOut,
  Screen.Shows.clear
-/
import Mathlib.Data.List.Basic

/-- Inside of which part of a control sequence the terminal is. -/
inductive ScreenMode where
  | ground
  | escape
  | control
deriving Repr, Inhabited, DecidableEq

/-- The lines above the last one, the lowest first, and the cells of the last
one on both sides of the cursor.  A line has room for what is written on it. -/
structure Screen where
  above : List (List UInt8)
  left : List UInt8
  right : List UInt8
  mode : ScreenMode
deriving Repr, Inhabited, DecidableEq

namespace Screen

/-- Bytes that take a cell. -/
def Printable (byte : UInt8) : Prop := 0x20 ≤ byte ∧ byte ≤ 0x7E

instance (byte : UInt8) : Decidable (Printable byte) :=
  inferInstanceAs (Decidable (_ ∧ _))

/-- One byte.  The driver makes a carriage return and a line feed of a line
feed; a control sequence ends with a letter, and only `K`, which erases to the
right, does something. -/
def put (screen : Screen) (byte : UInt8) : Screen :=
  match screen.mode with
  | .ground =>
      if Printable byte then
        { screen with
          left := screen.left ++ [byte]
          right := screen.right.tail }
      else if byte = 0x0D then
        { screen with left := [], right := screen.left ++ screen.right }
      else if byte = 0x0A then
        { screen with
          above := (screen.left ++ screen.right) :: screen.above
          left := []
          right := [] }
      else if byte = 0x08 then
        { screen with
          left := screen.left.dropLast
          right := screen.left.getLast?.toList ++ screen.right }
      else if byte = 0x1B then { screen with mode := .escape }
      else screen
  | .escape =>
      { screen with mode := if byte = 0x5B then .control else .ground }
  | .control =>
      if byte = 0x4B then { screen with right := [], mode := .ground }
      else if 0x40 ≤ byte then { screen with mode := .ground }
      else screen

def feed (screen : Screen) (bytes : List UInt8) : Screen :=
  bytes.foldl put screen

theorem feed_append (screen : Screen) (one two : List UInt8) :
    screen.feed (one ++ two) = (screen.feed one).feed two :=
  List.foldl_append

/-- The last line has this text to the left of the cursor and blanks to the
right of it. -/
structure Shows (screen : Screen) (above : List (List UInt8))
    (text : List UInt8) : Prop where
  above : screen.above = above
  left : screen.left = text
  right : ∃ blanks, screen.right = List.replicate blanks 0x20
  mode : screen.mode = .ground

namespace Shows

variable {screen : Screen} {above : List (List UInt8)} {text : List UInt8}

theorem put_printable (shows' : screen.Shows above text) {byte : UInt8}
    (printable : Printable byte) :
    (screen.put byte).Shows above (text ++ [byte]) := by
  obtain ⟨aboveEq, leftEq, ⟨blanks, rightEq⟩, ground⟩ := shows'
  simp only [put, ground, if_pos printable]
  refine ⟨aboveEq, by rw [leftEq], ⟨blanks - 1, ?_⟩, rfl⟩
  rw [rightEq, List.tail_replicate]

/-- Printable text is written behind the cursor. -/
theorem written (shows' : screen.Shows above text) {more : List UInt8}
    (printable : ∀ byte ∈ more, Printable byte) :
    (screen.feed more).Shows above (text ++ more) := by
  induction more generalizing screen text with
  | nil => simpa [feed] using shows'
  | cons byte more inductionHypothesis =>
      have first := shows'.put_printable (printable byte List.mem_cons_self)
      have rest := inductionHypothesis first fun other member =>
        printable other (List.mem_cons_of_mem byte member)
      simpa [feed] using rest

/-- `"\r\n"` finishes the line. -/
theorem newLine (shows' : screen.Shows above text) :
    ∃ blanks, (screen.feed [0x0D, 0x0A]).Shows
      ((text ++ List.replicate blanks 0x20) :: above) [] := by
  obtain ⟨aboveEq, leftEq, ⟨blanks, rightEq⟩, ground⟩ := shows'
  refine ⟨blanks, ?_⟩
  have returned : screen.put 0x0D =
      { screen with left := [], right := screen.left ++ screen.right } := by
    simp only [put, ground]
    rfl
  have fed : screen.feed [0x0D, 0x0A] =
      ⟨(text ++ List.replicate blanks 0x20) :: above, [], [], .ground⟩ := by
    simp only [feed, List.foldl_cons, List.foldl_nil, returned]
    simp only [put, ground]
    rw [← leftEq, ← rightEq, ← aboveEq]
    rfl
  rw [fed]
  exact ⟨rfl, rfl, ⟨0, rfl⟩, rfl⟩

/-- `"\b \b"` takes the last character away. -/
theorem rubOut {byte : UInt8} (shows' : screen.Shows above (text ++ [byte])) :
    (screen.feed [0x08, 0x20, 0x08]).Shows above text := by
  obtain ⟨aboveEq, leftEq, ⟨blanks, rightEq⟩, ground⟩ := shows'
  have fed : screen.feed [0x08, 0x20, 0x08] =
      ⟨above, text, 0x20 :: List.replicate blanks 0x20, .ground⟩ := by
    obtain ⟨_, _, _, _⟩ := screen
    dsimp only at aboveEq leftEq rightEq ground
    subst aboveEq leftEq rightEq ground
    simp [feed, put, Printable]
  rw [fed]
  exact ⟨rfl, rfl, ⟨blanks + 1, rfl⟩, rfl⟩

/-- `"\r\x1b[K"` clears the line. -/
theorem clear (shows' : screen.Shows above text) :
    (screen.feed [0x0D, 0x1B, 0x5B, 0x4B]).Shows above [] := by
  obtain ⟨aboveEq, _, _, ground⟩ := shows'
  have fed : screen.feed [0x0D, 0x1B, 0x5B, 0x4B] =
      ⟨above, [], [], .ground⟩ := by
    obtain ⟨_, _, _, _⟩ := screen
    dsimp only at aboveEq ground
    subst aboveEq ground
    simp [feed, put, Printable]
  rw [fed]
  exact ⟨rfl, rfl, ⟨0, rfl⟩, rfl⟩

end Shows

end Screen
