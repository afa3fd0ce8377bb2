/-
Module: DuckPass.Proofs.SecureBuffer
Purpose: A `SecureString` holds what a plain byte string would after the same
  calls, and keeps its terminator but for what a move leaves, unless memory runs
  out after a call has changed its object.
Trusted boundary: as for `DuckPass.Core.SecureBuffer`
Main exports: PlainString, SecureBuffer.Call.plain, SecureBuffer.run_layout,
  SecureBuffer.refused_keeps, SecureBuffer.HoldsAsPlain,
  secure_string_is_byte_string
-/
import DuckPass.Core.SecureBuffer

namespace DuckPass

/-! ## Plain byte strings -/

/-- A byte string, and whether it is what a move left, or was taken over from
such a one, with nothing written since. -/
structure PlainString where
  bytes : List UInt8
  moved : Bool
  empty_of_moved : moved = true → bytes = []

namespace PlainString

def written (bytes : List UInt8) : PlainString :=
  ⟨bytes, false, fun moved => nomatch moved⟩

def left : PlainString := ⟨[], true, fun _ => rfl⟩

/-- What a move takes over.  `handsOn` says whether the source of a move
counts as one of a copy does. -/
def taken (handsOn : Bool) (string : PlainString) : PlainString :=
  ⟨string.bytes, handsOn && string.moved, fun moved =>
    string.empty_of_moved (Bool.and_eq_true_iff.mp moved).2⟩

def popBack (string : PlainString) : PlainString :=
  ⟨string.bytes.dropLast, string.moved, fun moved => by
    rw [string.empty_of_moved moved, List.dropLast_nil]⟩

/-- Only bounds in order and within the string erase anything. -/
def erase (string : PlainString) : (first last : Option Int) → PlainString
  | some first, some last =>
      if 0 ≤ first ∧ first < last ∧ last ≤ string.bytes.length then
        written (string.bytes.take first.toNat ++
          string.bytes.drop last.toNat)
      else string
  | _, _ => string

/-- How a `SecureString` stores the string. -/
def buffer (string : PlainString) : SecureBuffer :=
  if string.moved then [] else string.bytes ++ [0]

/-- Nothing is stored of what a move left, and the bytes with a NUL of all other
strings. -/
theorem buffer_cases (string : PlainString) :
    string.buffer = [] ∧ string.moved = true ∧ string.bytes = [] ∨
      string.buffer = string.bytes ++ [0] ∧ string.moved = false := by
  unfold buffer
  cases moved : string.moved with
  | true => exact .inl ⟨rfl, rfl, string.empty_of_moved moved⟩
  | false => exact .inr ⟨rfl, rfl⟩

@[simp] theorem buffer_written (bytes : List UInt8) :
    (written bytes).buffer = SecureBuffer.pushTerminator bytes := rfl

@[simp] theorem buffer_left : left.buffer = [] := rfl

/-- A string that hands on what it is by a move is taken as it is. -/
@[simp] theorem taken_true (string : PlainString) :
    string.taken true = string := by
  simp [taken]

end PlainString

namespace SecureBuffer

variable {ι : Type} [DecidableEq ι]

/-- Byte strings by the objects that are alive. -/
abbrev Strings (ι : Type) := ι → Option PlainString

namespace Strings

/-- What can be read of each: its bytes and a NUL after them. -/
def memory (strings : Strings ι) : Objects ι := fun object =>
  (strings object).map fun string => string.bytes ++ [0]

def put (strings : Strings ι) (this : ι) (string : PlainString) :
    Strings ι :=
  Function.update strings this (some string)

def construct (strings : Strings ι) (this : ι) (string : PlainString) :
    Option (Strings ι) :=
  if (strings this).isNone then some (strings.put this string) else none

def change (strings : Strings ι) (this : ι)
    (f : PlainString → PlainString) : Option (Strings ι) :=
  (strings this).map fun string => strings.put this (f string)

/-- The buffers that store the strings. -/
def layout (strings : Strings ι) : Objects ι := fun object =>
  (strings object).map PlainString.buffer

end Strings

/-- The bytes a constructor is given; a null pointer gives none. -/
def Creation.bytes (memory : Objects ι) : Creation ι → Option (List UInt8)
  | default => some []
  | cString s => if s = .null then some [] else s.readCString memory
  | counted s count =>
      if s = .null then some [] else s.readCount memory count
  | fill count ch => some (List.replicate count ch)
  | between range => range.read memory

/-- The call on plain byte strings. -/
def Call.plain (handsOn : Bool) (strings : Strings ι) :
    Call ι → Option (Strings ι)
  | construct this creation => do
      let bytes ← creation.bytes strings.memory
      strings.construct this (.written bytes)
  | copyConstruct this other => do
      strings.construct this (← strings other)
  | moveConstruct this other => do
      let made ← strings.construct this ((← strings other).taken handsOn)
      return made.put other .left
  | destroy this =>
      (strings this).map fun _ => Function.update strings this none
  | copyAssign this other => do
      let string ← strings other
      strings.change this fun _ => string
  | moveAssign this other => do
      let string ← strings other
      if this = other then return strings
      let made ← strings.change this fun _ => string.taken handsOn
      return made.put other .left
  | assignCString this s => do
      let bytes ← (Creation.cString s).bytes strings.memory
      strings.change this fun _ => .written bytes
  | assignRange this range => do
      let bytes ← range.read strings.memory
      strings.change this fun _ => .written bytes
  | assignCounted this s count => do
      let bytes ← s.readCount strings.memory count
      strings.change this fun _ => .written bytes
  | clear this => strings.change this fun _ => .written []
  | reserve this _ => strings.change this id
  | pushBack this ch | plusChar this ch =>
      strings.change this fun string => .written (string.bytes ++ [ch])
  | popBack this => strings.change this PlainString.popBack
  | appendRange this range => do
      let bytes ← range.read strings.memory
      strings.change this fun string => .written (string.bytes ++ bytes)
  | appendCString this s =>
      if s = .null then strings.change this id
      else do
        let bytes ← s.readCString strings.memory
        strings.change this fun string => .written (string.bytes ++ bytes)
  | erase this first last =>
      strings.change this fun string => string.erase first last
  | plusString this other => do
      let added ← strings other
      strings.change this fun string =>
        .written (string.bytes ++ added.bytes)
  | plusCString this s =>
      if s = .null then strings.change this id
      else do
        let bytes ← s.readCString strings.memory
        strings.change this fun string =>
          if bytes = [] then string else .written (string.bytes ++ bytes)

/-- A plain byte string stays as it is when memory runs out. -/
def Invocation.plain (handsOn : Bool) (strings : Strings ι)
    (invocation : Invocation ι) : Option (Strings ι) :=
  match invocation.allocations with
  | .granted => invocation.call.plain handsOn strings
  | .refused => some strings
  | .torn _ => some strings

def plainAll (handsOn : Bool) (strings : Strings ι) :
    List (Invocation ι) → Option (Strings ι)
  | [] => some strings
  | invocation :: invocations => do
      plainAll handsOn (← invocation.plain handsOn strings) invocations

/-! ## One buffer -/

section Buffers

variable {string : PlainString} {bytes : List UInt8}

/-- `size()` is the number of bytes. -/
@[simp] theorem size_buffer : string.buffer.size = string.bytes.length := by
  obtain ⟨stored, -, empty⟩ | ⟨stored, -⟩ := string.buffer_cases
  · rw [stored, empty]
    rfl
  · rw [stored]
    simp [size]

/-- The characters are the bytes. -/
@[simp] theorem chars_buffer : chars string.buffer = string.bytes := by
  unfold chars
  rw [size_buffer]
  obtain ⟨stored, -, empty⟩ | ⟨stored, -⟩ := string.buffer_cases
  · rw [stored, empty, List.take_nil]
  · rw [stored, List.take_left]

/-- Taking the terminator off leaves the bytes. -/
@[simp] theorem popTerminator_buffer :
    popTerminator string.buffer = string.bytes := by
  obtain ⟨stored, -, empty⟩ | ⟨stored, -⟩ := string.buffer_cases
  · rw [stored, empty]
    rfl
  · rw [stored]
    simp [popTerminator]

@[simp] theorem chars_pushTerminator : chars (pushTerminator bytes) = bytes :=
  @chars_buffer (.written bytes)

/-- An addition at the end is one to the bytes. -/
theorem insertChars_buffer :
    insertChars bytes string.buffer =
      (PlainString.written (string.bytes ++ bytes)).buffer := by
  simp [insertChars]

/-- So is that of a single character. -/
theorem pushBack_buffer (ch : UInt8) :
    pushBack ch string.buffer =
      (PlainString.written (string.bytes ++ [ch])).buffer := by
  simp [pushBack]

/-- The last byte goes, and the terminator comes back. -/
theorem popBack_buffer : popBack string.buffer = string.popBack.buffer := by
  unfold popBack
  rw [size_buffer]
  by_cases empty : string.bytes = []
  · rw [if_pos (by rw [empty, List.length_nil])]
    simp [PlainString.popBack, PlainString.buffer, empty]
  · rw [if_neg (mt List.length_eq_zero_iff.mp empty)]
    have kept : string.moved = false :=
      Bool.eq_false_iff.mpr (mt string.empty_of_moved empty)
    simp [PlainString.popBack, PlainString.buffer, kept, pushTerminator]

/-- A terminator is never put on twice: what is left still ends with its
own. -/
theorem erase_buffer (first last : Option Int) :
    erase string.buffer first last = (string.erase first last).buffer := by
  unfold erase PlainString.erase
  cases first with
  | none => rfl
  | some first =>
      cases last with
      | none => rfl
      | some last =>
          simp only [size_buffer]
          by_cases within : 0 ≤ first ∧ first < last ∧
              last ≤ string.bytes.length
          · rw [if_pos within]
            obtain ⟨lower, order, upper⟩ := within
            rw [if_neg (by omega), if_neg (by omega)]
            obtain ⟨-, -, empty⟩ | ⟨stored, -⟩ := string.buffer_cases
            · rw [empty] at upper
              simp at upper
              omega
            · have kept : string.buffer.take first.toNat ++
                  string.buffer.drop last.toNat =
                  string.bytes.take first.toNat ++
                    string.bytes.drop last.toNat ++ [0] := by
                rw [stored, List.take_append_of_le_length (by omega),
                  List.drop_append_of_le_length (by omega),
                  List.append_assoc]
              rw [kept, if_neg (by simp)]
              rfl
          · rw [if_neg within]
            split
            · rfl
            · rw [if_pos (by omega)]

/-- `operator==` compares the byte strings. -/
theorem equals_buffer {other : PlainString} :
    equals string.buffer other.buffer = true ↔
      string.bytes = other.bytes := by
  unfold equals
  simp only [size_buffer]
  constructor
  · intro equal
    split at equal
    · cases equal
    · rename_i same
      have taken := eq_of_beq equal
      rw [← @chars_buffer string, chars, size_buffer, taken,
        not_ne_iff.mp same, ← size_buffer, ← chars, chars_buffer]
  · intro same
    have stored : string.buffer.take string.bytes.length =
        other.buffer.take string.bytes.length := by
      have own : string.buffer.take string.bytes.length = string.bytes := by
        rw [← size_buffer, ← chars, chars_buffer]
      have others : other.buffer.take other.bytes.length = other.bytes := by
        rw [← size_buffer, ← chars, chars_buffer]
      rw [own, same, others]
    rw [if_neg (by simp [same]), stored, beq_self_eq_true]

end Buffers

/-! ## Reading -/

section Reading

variable {ι : Type} {objects memory : Objects ι} {p : CharPtr ι}
  {range : CharRange ι} {count : Nat} {bytes : List UInt8}

/-- Everything that can be read of the objects reads the same of a memory
that holds at least as much. -/
def Extends (objects memory : Objects ι) : Prop :=
  ∀ object buffer, objects object = some buffer →
    ∃ stored, memory object = some stored ∧ buffer <+: stored

/-- A pointer finds at least as much in the larger memory. -/
theorem memory_of_extends (extended : Extends objects memory)
    (read : p.memory objects = some bytes) :
    ∃ stored, p.memory memory = some stored ∧ bytes <+: stored := by
  cases p with
  | null => cases read
  | into object offset =>
      obtain ⟨buffer, alive, rfl⟩ := Option.map_eq_some_iff.mp read
      obtain ⟨stored, found, rest, rfl⟩ := extended object buffer alive
      refine ⟨(buffer ++ rest).drop offset, by simp [CharPtr.memory, found],
        ?_⟩
      rw [List.drop_append]
      exact List.prefix_append _ _
  | foreign owned => exact ⟨bytes, read, List.prefix_refl bytes⟩

/-- A counted read gets the beginning of what is there, if it is long enough. -/
theorem readCount_eq_some_iff :
    p.readCount objects count = some bytes ↔
      count = 0 ∧ bytes = [] ∨
        count ≠ 0 ∧ ∃ stored, p.memory objects = some stored ∧
          count ≤ stored.length ∧ bytes = stored.take count := by
  unfold CharPtr.readCount
  by_cases none : count = 0
  · simp [none, eq_comm]
  · rw [if_neg none]
    simp only [Option.bind_eq_bind, Option.bind_eq_some_iff,
      Option.ite_none_right_eq_some, Option.some.injEq, none, false_and,
      false_or, ne_eq, not_false_eq_true, true_and, eq_comm (b := bytes)]

/-- A string is read if there is a NUL to end it. -/
theorem readCString_eq_some_iff :
    p.readCString objects = some bytes ↔
      ∃ stored, p.memory objects = some stored ∧ 0 ∈ stored ∧
        bytes = stored.takeWhile (· ≠ 0) := by
  simp only [CharPtr.readCString, Option.bind_eq_bind,
    Option.bind_eq_some_iff, Option.ite_none_right_eq_some,
    Option.some.injEq, eq_comm (b := bytes)]

/-- A counted read is the same in the larger memory. -/
theorem readCount_of_extends (extended : Extends objects memory)
    (read : p.readCount objects count = some bytes) :
    p.readCount memory count = some bytes := by
  rw [readCount_eq_some_iff] at read ⊢
  refine read.imp_right ?_
  rintro ⟨some, stored, found, enough, rfl⟩
  obtain ⟨longer, reached, rest, rfl⟩ := memory_of_extends extended found
  refine ⟨some, stored ++ rest, reached, ?_, ?_⟩
  · rw [List.length_append]
    exact Nat.le_trans enough (Nat.le_add_right _ _)
  · rw [List.take_append_of_le_length enough]

/-- What comes after the first NUL does not matter. -/
theorem takeWhile_append_of_mem {stored rest : List UInt8}
    (terminated : 0 ∈ stored) :
    (stored ++ rest).takeWhile (· ≠ 0) = stored.takeWhile (· ≠ 0) := by
  induction stored with
  | nil => cases terminated
  | cons c stored inductionHypothesis =>
      by_cases nul : c = 0
      · simp [nul]
      · have later : 0 ∈ stored :=
          (List.mem_cons.mp terminated).resolve_left (Ne.symm nul)
        rw [List.cons_append, List.takeWhile_cons, List.takeWhile_cons,
          inductionHypothesis later]

/-- A read up to the NUL is the same in the larger memory. -/
theorem readCString_of_extends (extended : Extends objects memory)
    (read : p.readCString objects = some bytes) :
    p.readCString memory = some bytes := by
  rw [readCString_eq_some_iff] at read ⊢
  obtain ⟨stored, found, terminated, rfl⟩ := read
  obtain ⟨longer, reached, rest, rfl⟩ := memory_of_extends extended found
  exact ⟨stored ++ rest, reached, List.mem_append_left rest terminated,
    (takeWhile_append_of_mem terminated).symm⟩

/-- Copying `strlen` bytes copies the C string. -/
theorem readCount_of_readCString (read : p.readCString objects = some bytes) :
    p.readCount objects bytes.length = some bytes := by
  obtain ⟨stored, found, -, rfl⟩ := readCString_eq_some_iff.mp read
  have front := List.takeWhile_prefix (l := stored) (· ≠ 0)
  rw [readCount_eq_some_iff]
  by_cases none : (stored.takeWhile (· ≠ 0)).length = 0
  · exact .inl ⟨none, List.length_eq_zero_iff.mp none⟩
  · exact .inr ⟨none, stored, found, front.length_le,
      List.prefix_iff_eq_take.mp front⟩

/-- So is that of a range. -/
theorem read_of_extends (extended : Extends objects memory)
    (read : range.read objects = some bytes) :
    range.read memory = some bytes := by
  simp only [CharRange.read, Option.bind_eq_bind,
    Option.bind_eq_some_iff] at read ⊢
  obtain ⟨stored, copied, ordered⟩ := read
  exact ⟨stored, readCount_of_extends extended copied, ordered⟩

variable [DecidableEq ι] {this : ι} {extent offset : Nat}
  {other : SecureBuffer}

/-- A constructor is given the same bytes by the larger memory. -/
theorem bytes_of_extends {creation : Creation ι}
    (extended : Extends objects memory)
    (read : creation.bytes objects = some bytes) :
    creation.bytes memory = some bytes := by
  cases creation with
  | default => exact read
  | fill count ch => exact read
  | between range => exact read_of_extends extended read
  | cString s =>
      simp only [Creation.bytes] at read ⊢
      split at read
      · rename_i null
        rwa [if_pos null]
      · rename_i present
        rw [if_neg present]
        exact readCString_of_extends extended read
  | counted s count =>
      simp only [Creation.bytes] at read ⊢
      split at read
      · rename_i null
        rwa [if_pos null]
      · rename_i present
        rw [if_neg present]
        exact readCount_of_extends extended read

/-- A constructor stores its bytes and the terminator. -/
theorem creation_buffer (creation : Creation ι) :
    creation.buffer objects =
      (creation.bytes objects).map pushTerminator := by
  cases creation with
  | default => rfl
  | fill count ch => rfl
  | between range => rfl
  | cString s =>
      simp only [Creation.buffer, Creation.bytes]
      split
      · rfl
      · rfl
  | counted s count =>
      simp only [Creation.buffer, Creation.bytes]
      split
      · rfl
      · rfl

/-- Beyond the extent of an object nothing is read of its buffer, so reading
there does not depend on what has become of it. -/
theorem readCount_put_of_outside (within : offset < count)
    (short : other.length ≤ extent)
    (outside : ¬ (p.advance offset).Within this extent)
    (read : p.readCount (objects.put this other) count = some bytes) :
    p.readCount objects count = some bytes := by
  rw [readCount_eq_some_iff] at read ⊢
  refine read.imp_right ?_
  rintro ⟨some, stored, found, enough, rfl⟩
  refine ⟨some, stored, ?_, enough, rfl⟩
  cases p with
  | null => exact found
  | foreign owned => exact found
  | into object start =>
      by_cases own : object = this
      · subst own
        have from_other : other.drop start = stored := by
          simpa [CharPtr.memory, Objects.put] using found
        have far : ¬ start + offset < extent := fun near =>
          outside ⟨rfl, near⟩
        rw [← from_other, List.length_drop] at enough
        omega
      · simpa [CharPtr.memory, Objects.put, Function.update_of_ne own]
          using found

/-- A pointer that is not into an object reads the same whatever that object
holds. -/
theorem readCString_put_of_outside (short : other.length ≤ extent)
    (outside : ¬ p.Within this extent)
    (read : p.readCString (objects.put this other) = some bytes) :
    p.readCString objects = some bytes := by
  rw [readCString_eq_some_iff] at read ⊢
  obtain ⟨stored, found, terminated, rfl⟩ := read
  refine ⟨stored, ?_, terminated, rfl⟩
  cases p with
  | null => exact found
  | foreign owned => exact found
  | into object start =>
      by_cases own : object = this
      · subst own
        have from_other : other.drop start = stored := by
          simpa [CharPtr.memory, Objects.put] using found
        have far : ¬ start < extent := fun near => outside ⟨rfl, near⟩
        have positive := List.length_pos_of_mem terminated
        rw [← from_other, List.length_drop] at positive
        omega
      · simpa [CharPtr.memory, Objects.put, Function.update_of_ne own]
          using found

/-- So does a counted read. -/
theorem readCount_put_of_not_within (short : other.length ≤ extent)
    (outside : ¬ p.Within this extent)
    (read : p.readCount (objects.put this other) count = some bytes) :
    p.readCount objects count = some bytes := by
  by_cases none : count = 0
  · rw [readCount_eq_some_iff] at read ⊢
    exact .inl ((read.resolve_right fun some => some.1 none))
  · refine readCount_put_of_outside (Nat.pos_of_ne_zero none) short ?_ read
    cases p with
    | null => exact outside
    | foreign owned => exact id
    | into object start => exact outside

/-- So does a range. -/
theorem read_put_of_outside (short : other.length ≤ extent)
    (outside : ¬ (range.count ≠ 0 ∧ range.front.Within this extent))
    (read : range.read (objects.put this other) = some bytes) :
    range.read objects = some bytes := by
  simp only [CharRange.read, Option.bind_eq_bind,
    Option.bind_eq_some_iff] at read ⊢
  obtain ⟨stored, copied, ordered⟩ := read
  refine ⟨stored, ?_, ordered⟩
  by_cases none : range.count = 0
  · rw [readCount_eq_some_iff] at copied ⊢
    exact .inl (copied.resolve_right fun some => some.1 none)
  · have beyond : ¬ range.front.Within this extent := fun near =>
      outside ⟨none, near⟩
    unfold CharRange.front at beyond
    split at beyond
    · exact readCount_put_of_outside (by omega) short beyond copied
    · exact readCount_put_of_not_within short beyond copied

end Reading

/-! ## Calls -/

section Calls

variable {strings : Strings ι} {objects : Objects ι} {this other : ι}
  {string : PlainString} {buffer : SecureBuffer} {s : CharPtr ι}
  {range : CharRange ι} {count spare : Nat}
  {outcome : Option (Strings ι)}

omit [DecidableEq ι] in
/-- The buffers show no more than the bytes with a NUL after them. -/
theorem extends_layout (strings : Strings ι) :
    Extends strings.layout strings.memory := by
  intro object buffer alive
  obtain ⟨string, found, rfl⟩ := Option.map_eq_some_iff.mp alive
  refine ⟨string.bytes ++ [0], by simp [Strings.memory, found], ?_⟩
  obtain ⟨stored, -, -⟩ | ⟨stored, -⟩ := string.buffer_cases
  · rw [stored]
    exact List.nil_prefix
  · exact ⟨[], by rw [stored, List.append_nil]⟩

/-- Storing a string writes its buffer. -/
theorem layout_put :
    (strings.put this string).layout =
      strings.layout.put this string.buffer := by
  funext object
  by_cases own : object = this
  · subst own
    simp [Strings.layout, Strings.put, Objects.put]
  · simp [Strings.layout, Strings.put, Objects.put,
      Function.update_of_ne own]

/-- Taking an object away takes its buffer away. -/
theorem layout_remove :
    Strings.layout (Function.update strings this none) =
      Function.update strings.layout this none := by
  funext object
  by_cases own : object = this
  · subst own
    simp [Strings.layout]
  · simp [Strings.layout, Function.update_of_ne own]

@[simp] theorem put_put (objects : Objects ι) (first second : SecureBuffer) :
    (objects.put this first).put this second = objects.put this second :=
  Function.update_idem _ _ _

/-- The plain call goes through, and what it leaves is stored so. -/
def Leads (outcome : Option (Strings ι)) (objects : Objects ι) : Prop :=
  ∃ after, outcome = some after ∧ after.layout = objects

/-- A change of a string that is alive. -/
theorem leads_change {f : PlainString → PlainString}
    (alive : strings this = some string) (stored : (f string).buffer = buffer) :
    Leads (strings.change this f) (strings.layout.put this buffer) :=
  ⟨strings.put this (f string), by simp [Strings.change, alive],
    by rw [layout_put, stored]⟩

/-- A call that changes nothing. -/
theorem leads_id (alive : strings this = some string) :
    Leads (strings.change this id) strings.layout := by
  have same : strings.layout.put this string.buffer = strings.layout :=
    Function.update_eq_self_iff.mpr (by simp [Strings.layout, alive])
  have leads : Leads (strings.change this id)
      (strings.layout.put this string.buffer) := leads_change alive rfl
  rwa [same] at leads

/-- A constructor where no object lives. -/
theorem leads_construct (free : strings.layout this = none)
    (stored : string.buffer = buffer) :
    Leads (strings.construct this string) (strings.layout.put this buffer) :=
  ⟨strings.put this string,
    if_pos (Option.isNone_iff_eq_none.mpr (Option.map_eq_none_iff.mp free)),
    by rw [layout_put, stored]⟩

/-- A move leaves its source without a terminator. -/
theorem leads_left (leads : Leads outcome objects) :
    Leads (outcome.bind fun made => some (made.put this .left))
      (objects.put this []) := by
  obtain ⟨after, rfl, rfl⟩ := leads
  exact ⟨after.put this .left, rfl, layout_put⟩

/-! Where an argument lies in the object itself, a temporary is made of it
first; elsewhere it reads the same while the object is being rebuilt. -/

/-- What a constructor has made is the bytes it was given. -/
theorem bytes_of_buffer {creation : Creation ι}
    (made : creation.buffer strings.layout = some buffer) :
    ∃ bytes, creation.bytes strings.memory = some bytes ∧
      buffer = pushTerminator bytes := by
  rw [creation_buffer] at made
  obtain ⟨bytes, read, rfl⟩ := Option.map_eq_some_iff.mp made
  exact ⟨bytes, bytes_of_extends (extends_layout strings) read, rfl⟩

/-- A cleansed buffer fits where it was. -/
theorem length_cleanse (buffer : SecureBuffer) :
    buffer.cleanse.length ≤ buffer.length + spare := by
  unfold cleanse
  rw [List.length_replicate]
  exact Nat.le_add_right _ _

/-- So does one without its terminator. -/
theorem length_popTerminator (spare : Nat) (buffer : SecureBuffer) :
    buffer.popTerminator.length ≤ buffer.length + spare := by
  unfold popTerminator
  split
  · exact Nat.le_add_right _ _
  · rw [List.length_dropLast]
    omega

/-- `operator=(const SecureString&)`. -/
theorem copyAssign_layout
    (ran : copyAssign strings.layout this other = some objects) :
    Leads ((Call.copyAssign this other).plain true strings) objects := by
  simp only [copyAssign, Option.bind_eq_bind,
    Option.bind_eq_some_iff] at ran
  obtain ⟨own, alive, taken, source, ran⟩ := ran
  obtain ⟨string, found, rfl⟩ := Option.map_eq_some_iff.mp alive
  obtain ⟨given, present, rfl⟩ := Option.map_eq_some_iff.mp source
  simp only [Call.plain, present, Option.bind_eq_bind, Option.bind_some]
  split at ran
  · rename_i same
    subst same
    cases ran
    have one : given = string := Option.some.inj (present.symm.trans found)
    subst one
    have kept : strings.change this (fun _ => given) =
        strings.change this id := by
      simp [Strings.change, found]
    rw [kept]
    exact leads_id found
  · cases ran
    exact leads_change found rfl

/-- `operator=(SecureString&&)`. -/
theorem moveAssign_layout
    (ran : moveAssign strings.layout this other = some objects) :
    Leads ((Call.moveAssign this other).plain true strings) objects := by
  simp only [moveAssign, Option.bind_eq_bind,
    Option.bind_eq_some_iff] at ran
  obtain ⟨own, alive, taken, source, ran⟩ := ran
  obtain ⟨string, found, rfl⟩ := Option.map_eq_some_iff.mp alive
  obtain ⟨given, present, rfl⟩ := Option.map_eq_some_iff.mp source
  simp only [Call.plain, present, Option.bind_eq_bind, Option.bind_some]
  split at ran
  · rename_i same
    cases ran
    rw [if_pos same]
    exact ⟨strings, rfl, rfl⟩
  · rename_i different
    cases ran
    rw [if_neg different]
    have taken : Leads
        (strings.change this fun _ => given.taken true)
        (strings.layout.put this given.buffer) :=
      leads_change found (by rw [PlainString.taken_true])
    exact leads_left taken

/-- `operator=(const char*)`, of an own pointer too. -/
theorem assignCString_layout
    (ran : assignCString spare strings.layout this s = some objects) :
    Leads ((Call.assignCString this s).plain true strings) objects := by
  simp only [assignCString, Option.bind_eq_bind,
    Option.bind_eq_some_iff] at ran
  obtain ⟨own, alive, ran⟩ := ran
  obtain ⟨string, found, rfl⟩ := Option.map_eq_some_iff.mp alive
  simp only [Call.plain, Option.bind_eq_bind]
  split at ran
  · obtain ⟨temp, made, ran⟩ := Option.bind_eq_some_iff.mp ran
    obtain ⟨bytes, read, rfl⟩ := bytes_of_buffer made
    cases ran
    rw [read, Option.bind_some]
    exact leads_change found rfl
  · rename_i outside
    by_cases null : s = .null
    · rw [if_pos null] at ran
      cases ran
      simp only [Creation.bytes, null, if_true, Option.bind_some, put_put]
      exact leads_change found rfl
    · rw [if_neg null] at ran
      obtain ⟨bytes, copied, ran⟩ := Option.bind_eq_some_iff.mp ran
      cases ran
      have read := readCString_of_extends (extends_layout strings)
        (readCString_put_of_outside (Nat.zero_le _) outside copied)
      simp only [Creation.bytes, if_neg null, read, Option.bind_some,
        put_put]
      exact leads_change found rfl

/-- `assign(first, last)`, of own characters too. -/
theorem assignRange_layout
    (ran : assignRange spare strings.layout this range = some objects) :
    Leads ((Call.assignRange this range).plain true strings) objects := by
  simp only [assignRange, Option.bind_eq_bind,
    Option.bind_eq_some_iff] at ran
  obtain ⟨own, alive, ran⟩ := ran
  obtain ⟨string, found, rfl⟩ := Option.map_eq_some_iff.mp alive
  simp only [Call.plain, Option.bind_eq_bind]
  split at ran
  · obtain ⟨temp, made, ran⟩ := Option.bind_eq_some_iff.mp ran
    obtain ⟨bytes, read, rfl⟩ := bytes_of_buffer made
    cases ran
    rw [show range.read strings.memory = some bytes from read,
      Option.bind_some]
    exact leads_change found rfl
  · rename_i outside
    obtain ⟨bytes, copied, ran⟩ := Option.bind_eq_some_iff.mp ran
    cases ran
    have read := read_of_extends (extends_layout strings)
      (read_put_of_outside (length_cleanse _) outside copied)
    rw [read, Option.bind_some, put_put]
    exact leads_change found rfl

/-- `assign(const char*, std::size_t)`. -/
theorem assignCounted_layout
    (ran : assignCounted spare strings.layout this s count = some objects) :
    Leads ((Call.assignCounted this s count).plain true strings) objects := by
  simp only [assignCounted, Option.bind_eq_bind,
    Option.bind_eq_some_iff] at ran
  obtain ⟨own, alive, ran⟩ := ran
  obtain ⟨string, found, rfl⟩ := Option.map_eq_some_iff.mp alive
  simp only [Call.plain, Option.bind_eq_bind]
  split at ran
  · rename_i inside
    have present : s ≠ .null := by
      rintro rfl
      exact inside
    obtain ⟨temp, made, ran⟩ := Option.bind_eq_some_iff.mp ran
    obtain ⟨bytes, read, rfl⟩ := bytes_of_buffer made
    simp only [Creation.bytes, if_neg present] at read
    cases ran
    rw [read, Option.bind_some]
    exact leads_change found rfl
  · rename_i outside
    obtain ⟨bytes, copied, ran⟩ := Option.bind_eq_some_iff.mp ran
    cases ran
    have read := readCount_of_extends (extends_layout strings)
      (readCount_put_of_not_within (length_cleanse _) outside copied)
    rw [read, Option.bind_some, put_put]
    exact leads_change found rfl

/-- `append(first, last)`, of own characters too. -/
theorem appendRange_layout
    (ran : appendRange spare strings.layout this range = some objects) :
    Leads ((Call.appendRange this range).plain true strings) objects := by
  simp only [appendRange, Option.bind_eq_bind,
    Option.bind_eq_some_iff] at ran
  obtain ⟨own, alive, ran⟩ := ran
  obtain ⟨string, found, rfl⟩ := Option.map_eq_some_iff.mp alive
  simp only [Call.plain, Option.bind_eq_bind]
  split at ran
  · obtain ⟨temp, made, ran⟩ := Option.bind_eq_some_iff.mp ran
    obtain ⟨bytes, read, rfl⟩ := bytes_of_buffer made
    cases ran
    rw [show range.read strings.memory = some bytes from read,
      Option.bind_some, chars_pushTerminator, insertChars_buffer]
    exact leads_change found rfl
  · rename_i outside
    obtain ⟨bytes, copied, ran⟩ := Option.bind_eq_some_iff.mp ran
    cases ran
    have read := read_of_extends (extends_layout strings)
      (read_put_of_outside (length_popTerminator spare _) outside copied)
    rw [read, Option.bind_some, put_put, popTerminator_buffer]
    exact leads_change found rfl

/-- `append(const char*)`. -/
theorem appendCString_layout
    (ran : appendCString spare strings.layout this s = some objects) :
    Leads ((Call.appendCString this s).plain true strings) objects := by
  simp only [appendCString, Option.bind_eq_bind,
    Option.bind_eq_some_iff] at ran
  obtain ⟨own, alive, ran⟩ := ran
  obtain ⟨string, found, rfl⟩ := Option.map_eq_some_iff.mp alive
  simp only [Call.plain, Option.bind_eq_bind]
  by_cases null : s = .null
  · rw [if_pos null] at ran ⊢
    cases ran
    exact leads_id found
  · rw [if_neg null] at ran ⊢
    split at ran
    · obtain ⟨temp, made, ran⟩ := Option.bind_eq_some_iff.mp ran
      obtain ⟨bytes, read, rfl⟩ := bytes_of_buffer made
      simp only [Creation.bytes, if_neg null] at read
      cases ran
      rw [read, Option.bind_some, chars_pushTerminator, insertChars_buffer]
      exact leads_change found rfl
    · obtain ⟨bytes, copied, ran⟩ := Option.bind_eq_some_iff.mp ran
      have read := readCString_of_extends (extends_layout strings) copied
      have counted : CharRange.read strings.memory ⟨s, bytes.length, false⟩ =
          some bytes := by
        simp [CharRange.read, readCount_of_readCString read]
      have leads := appendRange_layout ran
      simpa only [Call.plain, counted, read, Option.bind_eq_bind,
        Option.bind_some] using leads

/-- `operator+=` of a temporary, which no object aliases. -/
theorem plusTemporary_layout (temp : PlainString)
    (found : strings this = some string)
    (ran : plusTemporary strings.layout this temp.buffer = some objects) :
    objects = strings.layout.put this
      (PlainString.written (string.bytes ++ temp.bytes)).buffer := by
  simp only [plusTemporary, Option.bind_eq_bind,
    Option.bind_eq_some_iff] at ran
  obtain ⟨own, alive, ran⟩ := ran
  obtain ⟨same, found', rfl⟩ := Option.map_eq_some_iff.mp alive
  obtain rfl : same = string := Option.some.inj (found'.symm.trans found)
  rw [chars_buffer, insertChars_buffer] at ran
  exact (Option.some.inj ran).symm

/-- `operator+=(const SecureString&)`, of itself too. -/
theorem plusString_layout
    (ran : plusString strings.layout this other = some objects) :
    Leads ((Call.plusString this other).plain true strings) objects := by
  simp only [plusString, Option.bind_eq_bind,
    Option.bind_eq_some_iff] at ran
  obtain ⟨stored, source, ran⟩ := ran
  obtain ⟨added, present, rfl⟩ := Option.map_eq_some_iff.mp source
  simp only [Call.plain, present, Option.bind_eq_bind, Option.bind_some]
  split at ran
  · rename_i same
    subst same
    rw [plusTemporary_layout added present ran]
    exact leads_change present rfl
  · rename_i different
    simp only [Option.bind_eq_some_iff] at ran
    obtain ⟨own, alive, again, unchanged, ran⟩ := ran
    obtain ⟨string, found, rfl⟩ := Option.map_eq_some_iff.mp alive
    have read : again = added.buffer := by
      simpa [Objects.put, Function.update_of_ne (Ne.symm different),
        source, eq_comm] using unchanged
    subst read
    cases ran
    rw [put_put, popTerminator_buffer, chars_buffer]
    exact leads_change found rfl

/-- `operator+=(const char*)`. -/
theorem plusCString_layout
    (ran : plusCString strings.layout this s = some objects) :
    Leads ((Call.plusCString this s).plain true strings) objects := by
  simp only [plusCString, Option.bind_eq_bind,
    Option.bind_eq_some_iff] at ran
  obtain ⟨own, alive, ran⟩ := ran
  obtain ⟨string, found, rfl⟩ := Option.map_eq_some_iff.mp alive
  simp only [Call.plain, Option.bind_eq_bind]
  by_cases null : s = .null
  · rw [if_pos null] at ran ⊢
    cases ran
    exact leads_id found
  · rw [if_neg null] at ran ⊢
    obtain ⟨bytes, copied, ran⟩ := Option.bind_eq_some_iff.mp ran
    have read := readCString_of_extends (extends_layout strings) copied
    have counted := readCount_of_readCString read
    rw [read, Option.bind_some]
    by_cases none : bytes = []
    · subst none
      cases ran
      exact leads_id found
    · rw [if_neg (mt List.length_eq_zero_iff.mp none)] at ran
      simp only [if_neg none]
      split at ran
      · obtain ⟨temp, made, ran⟩ := Option.bind_eq_some_iff.mp ran
        obtain ⟨again, reread, rfl⟩ := bytes_of_buffer made
        simp only [Creation.bytes, if_neg null, counted,
          Option.some.injEq] at reread
        subst reread
        rw [plusTemporary_layout (.written bytes) found ran]
        exact leads_change found rfl
      · rename_i outside
        obtain ⟨again, recopied, ran⟩ := Option.bind_eq_some_iff.mp ran
        have reread := readCount_of_extends (extends_layout strings)
          (readCount_put_of_not_within (length_popTerminator 0 _)
            outside recopied)
        rw [counted, Option.some.injEq] at reread
        subst reread
        cases ran
        rw [put_put, popTerminator_buffer]
        exact leads_change found rfl

/-- A mutator that reads its own buffer alone. -/
theorem change_layout {f : SecureBuffer → SecureBuffer}
    {g : PlainString → PlainString}
    (stored : ∀ string : PlainString, (g string).buffer = f string.buffer)
    (ran : strings.layout.change this f = some objects) :
    Leads (strings.change this g) objects := by
  obtain ⟨own, alive, rfl⟩ := Option.map_eq_some_iff.mp ran
  obtain ⟨string, found, rfl⟩ := Option.map_eq_some_iff.mp alive
  exact leads_change found (stored string)

/-- A constructor. -/
theorem construct_layout (stored : string.buffer = buffer)
    (ran : strings.layout.construct this buffer = some objects) :
    Leads (strings.construct this string) objects := by
  unfold Objects.construct at ran
  split at ran
  · rename_i free
    cases ran
    exact leads_construct free stored
  · cases ran

/-- One call keeps the buffers those of the plain strings. -/
theorem run_layout {call : Call ι}
    (ran : call.run spare strings.layout = some objects) :
    Leads (call.plain true strings) objects := by
  cases call with
  | construct this creation =>
      obtain ⟨buffer, made, ran⟩ := Option.bind_eq_some_iff.mp ran
      obtain ⟨bytes, read, rfl⟩ := bytes_of_buffer made
      simp only [Call.plain, read, Option.bind_eq_bind, Option.bind_some]
      exact construct_layout rfl ran
  | copyConstruct this other =>
      obtain ⟨buffer, source, ran⟩ := Option.bind_eq_some_iff.mp ran
      obtain ⟨given, present, rfl⟩ := Option.map_eq_some_iff.mp source
      simp only [Call.plain, present, Option.bind_eq_bind, Option.bind_some]
      exact construct_layout rfl ran
  | moveConstruct this other =>
      obtain ⟨buffer, source, ran⟩ := Option.bind_eq_some_iff.mp ran
      obtain ⟨given, present, rfl⟩ := Option.map_eq_some_iff.mp source
      obtain ⟨made, constructed, ran⟩ := Option.bind_eq_some_iff.mp ran
      cases ran
      simp only [Call.plain, present, Option.bind_eq_bind, Option.bind_some,
        PlainString.taken_true]
      exact leads_left (construct_layout rfl constructed)
  | destroy this =>
      obtain ⟨buffer, alive, rfl⟩ := Option.map_eq_some_iff.mp ran
      obtain ⟨string, found, rfl⟩ := Option.map_eq_some_iff.mp alive
      exact ⟨_, by simp only [Call.plain, found, Option.map_some],
        layout_remove⟩
  | copyAssign this other => exact copyAssign_layout ran
  | moveAssign this other => exact moveAssign_layout ran
  | assignCString this s => exact assignCString_layout ran
  | assignRange this range => exact assignRange_layout ran
  | assignCounted this s count => exact assignCounted_layout ran
  | clear this => exact change_layout (fun _ => rfl) ran
  | reserve this capacity => exact change_layout (fun _ => rfl) ran
  | pushBack this ch =>
      exact change_layout (fun _ => (pushBack_buffer ch).symm) ran
  | popBack this => exact change_layout (fun _ => popBack_buffer.symm) ran
  | appendRange this range => exact appendRange_layout ran
  | appendCString this s => exact appendCString_layout ran
  | erase this first last =>
      exact change_layout (fun _ => (erase_buffer first last).symm) ran
  | plusString this other => exact plusString_layout ran
  | plusCString this s => exact plusCString_layout ran
  | plusChar this ch =>
      exact change_layout (fun _ => (pushBack_buffer ch).symm) ran

/-- An allocation that fails before the object is changed leaves every object
as it is. -/
theorem refused_keeps {call : Call ι} {spare : Nat} {before : Objects ι}
    (ran : call.refused spare before = some objects) : objects = before := by
  unfold Call.refused at ran
  cases call <;> dsimp only at ran <;>
    simp only [Option.bind_eq_bind, Option.bind_eq_some_iff,
      Option.pure_def, Option.ite_none_left_eq_some,
      Option.ite_none_right_eq_some, Option.some.injEq, reduceCtorEq] at ran <;>
    grind

/-- No allocation fails after the call has changed its object. -/
def Invocation.Whole (invocation : Invocation ι) : Prop :=
  ∀ terminator, invocation.allocations ≠ .torn terminator

instance (invocation : Invocation ι) : Decidable invocation.Whole :=
  inferInstanceAs (Decidable (∀ _ : Bool, _ ≠ _))

/-- A call with its allocations. -/
theorem invocation_layout {invocation : Invocation ι}
    (whole : invocation.Whole)
    (ran : invocation.run strings.layout = some objects) :
    Leads (invocation.plain true strings) objects := by
  unfold Invocation.run at ran
  unfold Invocation.plain
  cases allocations : invocation.allocations with
  | granted =>
      rw [allocations] at ran
      exact run_layout ran
  | refused =>
      rw [allocations] at ran
      exact ⟨strings, rfl, (refused_keeps ran).symm⟩
  | torn terminator => exact absurd allocations (whole terminator)

/-- All calls, by induction on the list. -/
theorem runAll_layout {invocations : List (Invocation ι)}
    (whole : ∀ invocation ∈ invocations, invocation.Whole)
    (ran : runAll strings.layout invocations = some objects) :
    Leads (plainAll true strings invocations) objects := by
  induction invocations generalizing strings with
  | nil =>
      cases ran
      exact ⟨strings, rfl, rfl⟩
  | cons invocation invocations inductionHypothesis =>
      obtain ⟨first, others⟩ := List.forall_mem_cons.mp whole
      obtain ⟨middle, one, rest⟩ := Option.bind_eq_some_iff.mp ran
      obtain ⟨between, plain, rfl⟩ := invocation_layout first one
      obtain ⟨after, done, stored⟩ := inductionHypothesis others rest
      refine ⟨after, ?_, stored⟩
      simp only [plainAll, plain, Option.bind_eq_bind, Option.bind_some,
        done]

end Calls

/-! ## Every sequence of calls -/

/-- After the calls, every object that is alive holds the bytes its plain
string does, `size()` is their number, and the buffer ends with a NUL just
past them, or it is empty, which only an object left by a move may be. -/
def HoldsAsPlain (handsOn : Bool) (invocations : List (Invocation ι)) : Prop :=
  ∀ objects, runAll (fun _ => none) invocations = some objects →
    ∃ strings, plainAll handsOn (fun _ => none) invocations = some strings ∧
      ∀ this, match objects this, strings this with
        | none, none => True
        | some buffer, some string =>
            buffer.chars = string.bytes ∧
              buffer.size = string.bytes.length ∧
              (buffer = string.bytes ++ [0] ∨
                buffer = [] ∧ string.bytes = [] ∧ string.moved = true)
        | _, _ => False

end SecureBuffer

open SecureBuffer

/-- Objects that take over by a move what a move left are left like it. -/
theorem secure_string_is_byte_string {ι : Type} [DecidableEq ι]
    {invocations : List (Invocation ι)}
    (whole : ∀ invocation ∈ invocations, invocation.Whole) :
    HoldsAsPlain true invocations := by
  intro objects ran
  have ran' : runAll (Strings.layout fun _ => none) invocations =
      some objects := ran
  obtain ⟨strings, plain, rfl⟩ := runAll_layout whole ran'
  refine ⟨strings, plain, fun this => ?_⟩
  cases alive : strings this with
  | none => simp [Strings.layout, alive]
  | some string =>
      simp only [Strings.layout, alive, Option.map_some, chars_buffer,
        size_buffer, true_and]
      obtain ⟨stored, moved, empty⟩ | ⟨stored, -⟩ := string.buffer_cases
      · exact .inr ⟨stored, empty, moved⟩
      · exact .inl stored

namespace SecureBuffer

/-- `hi` is to be appended to itself backwards, which fails at first, for there
is no memory for the temporary. -/
def appendsItself : List (Invocation Nat) :=
  [⟨.construct 0 (.cString (.foreign [104, 105, 0])), 0, .granted⟩,
    ⟨.appendRange 0 ⟨.into 0 0, 2, true⟩, 5, .refused⟩,
    ⟨.appendRange 0 ⟨.into 0 0, 2, true⟩, 5, .granted⟩]

example : (runAll (fun _ => none) appendsItself).map (· 0) =
    some (some [104, 105, 105, 104, 0]) := by decide

end SecureBuffer

theorem secure_string_is_byte_string_itself :
    HoldsAsPlain true SecureBuffer.appendsItself :=
  secure_string_is_byte_string (by decide)

/-- A string is moved out of `a`, and then again: `c` stores no terminator,
though it was neither moved from nor copied from such an object.  And where
there is no memory for the terminator of `hi!`, the buffer is left without
one. -/
theorem moved_twice_has_no_terminator :
    (¬ ∀ invocations : List (Invocation Nat),
        (∀ invocation ∈ invocations, invocation.allocations = .granted) →
          HoldsAsPlain false invocations) ∧
      ¬ ∀ invocations : List (Invocation Nat),
        HoldsAsPlain true invocations := by
  constructor
  · intro holds
    have after := holds
      [⟨.construct 0 .default, 0, .granted⟩, ⟨.moveConstruct 1 0, 0, .granted⟩,
        ⟨.moveConstruct 2 0, 0, .granted⟩] (by simp) _ rfl
    obtain ⟨strings, plain, stored⟩ := after
    cases plain
    have third := stored 2
    simp [Objects.put, Strings.put, PlainString.taken, PlainString.left,
      PlainString.written] at third
  · intro holds
    have after := holds
      [⟨.construct 0 (.cString (.foreign [104, 105, 0])), 0, .granted⟩,
        ⟨.pushBack 0 33, 0, .torn true⟩] _ rfl
    obtain ⟨strings, plain, stored⟩ := after
    have left := stored 0
    cases found : strings 0 with
    | none => simp [Objects.put, found] at left
    | some string =>
        rw [found] at left
        obtain ⟨_, _, ends | ⟨empty, _⟩⟩ := left
        · have last := congrArg List.getLast? ends
          simp [popTerminator, pushTerminator] at last
        · cases empty

end DuckPass
