/-
Module: DuckPass.Core.SecureBuffer
Purpose: The class `SecureString` of `secure_allocator.h`: its constructors
  and mutators on `m_buffer`, for objects that may be each other's arguments,
  with the allocations that may fail in them.
Trusted boundary: `std::vector` and `std::strlen` as documented, a vector
  that was moved from being empty, and one whose allocation fails keeping its
  elements; pointers are valid where they are read.
Main exports: SecureBuffer, SecureBuffer.CharPtr, SecureBuffer.CharRange,
  SecureBuffer.Objects, SecureBuffer.Creation, SecureBuffer.Call,
  SecureBuffer.Call.run, SecureBuffer.Call.refused, SecureBuffer.Call.torn,
  SecureBuffer.Invocation, SecureBuffer.runAll
-/
import Mathlib.Logic.Function.Basic
import Mathlib.Data.List.Basic

namespace DuckPass

/-- The elements of `m_buffer`, from the first to the last. -/
abbrev SecureBuffer := List UInt8

namespace SecureBuffer

variable {ι : Type} [DecidableEq ι]

/-! ## One buffer -/

def size (buffer : SecureBuffer) : Nat :=
  if buffer.isEmpty then 0 else buffer.length - 1

/-- The characters from `begin()` to `end()`. -/
def chars (buffer : SecureBuffer) : List UInt8 := buffer.take buffer.size

/-- `OPENSSL_cleanse` over the elements. -/
def cleanse (buffer : SecureBuffer) : SecureBuffer :=
  List.replicate buffer.length 0

/-- `if (!m_buffer.empty()) m_buffer.pop_back();` -/
def popTerminator (buffer : SecureBuffer) : SecureBuffer :=
  if buffer.isEmpty then buffer else buffer.dropLast

/-- `m_buffer.push_back('\0');` -/
def pushTerminator (buffer : SecureBuffer) : SecureBuffer := buffer ++ [0]

def pushBack (ch : UInt8) (buffer : SecureBuffer) : SecureBuffer :=
  pushTerminator (buffer.popTerminator ++ [ch])

def popBack (buffer : SecureBuffer) : SecureBuffer :=
  if buffer.size = 0 then buffer else pushTerminator buffer.dropLast.dropLast

/-- `erase`, with its pointers counted from `data()`; `none` is null. -/
def erase (buffer : SecureBuffer) : (first last : Option Int) → SecureBuffer
  | some first, some last =>
      if last ≤ first then buffer
      else if first < 0 ∨ (buffer.size : Int) < last then buffer
      else
        let kept := buffer.take first.toNat ++ buffer.drop last.toNat
        if kept.isEmpty ∨ kept.getLast? ≠ some 0 then pushTerminator kept
        else kept
  | _, _ => buffer

/-- The `insert` at the end that `append` and `operator+=` come down to. -/
def insertChars (bytes : List UInt8) (buffer : SecureBuffer) : SecureBuffer :=
  pushTerminator (buffer.popTerminator ++ bytes)

/-- `operator==`. -/
def equals (buffer other : SecureBuffer) : Bool :=
  if buffer.size ≠ other.size then false
  else buffer.take buffer.size == other.take buffer.size

/-! ## Objects and pointers -/

/-- The buffers of the objects that are alive. -/
abbrev Objects (ι : Type) := ι → Option SecureBuffer

/-- A `const char*`: null, into the buffer of an object, or to memory that
no object owns.  `data()` of an object without storage is null. -/
inductive CharPtr (ι : Type) where
  | null
  | into (object : ι) (offset : Nat)
  | foreign (bytes : List UInt8)
deriving Repr, DecidableEq

namespace CharPtr

/-- The bytes that may be read from a pointer on. -/
def memory (objects : Objects ι) : CharPtr ι → Option (List UInt8)
  | null => none
  | into object offset => (objects object).map (List.drop offset)
  | foreign bytes => some bytes

/-- Reading `count` bytes; nothing is read for no byte. -/
def readCount (objects : Objects ι) (p : CharPtr ι) (count : Nat) :
    Option (List UInt8) :=
  if count = 0 then some []
  else do
    let bytes ← p.memory objects
    if count ≤ bytes.length then some (bytes.take count) else none

/-- Reading up to the first NUL, as with `std::strlen`. -/
def readCString (objects : Objects ι) (p : CharPtr ι) :
    Option (List UInt8) := do
  let bytes ← p.memory objects
  if 0 ∈ bytes then some (bytes.takeWhile (· ≠ 0)) else none

/-- `s >= m_buffer.data() && s < m_buffer.data() + extent`. -/
def Within (this : ι) (extent : Nat) : CharPtr ι → Prop
  | into object offset => object = this ∧ offset < extent
  | _ => False

instance (this : ι) (extent : Nat) :
    (p : CharPtr ι) → Decidable (p.Within this extent)
  | null => isFalse id
  | into object offset =>
      inferInstanceAs (Decidable (object = this ∧ offset < extent))
  | foreign _ => isFalse id

def advance (count : Nat) : CharPtr ι → CharPtr ι
  | null => null
  | into object offset => into object (offset + count)
  | foreign bytes => foreign (bytes.drop count)

end CharPtr

/-- The iterators `first` and `last`: `count` characters from `start` on,
forwards or by reverse iterators. -/
structure CharRange (ι : Type) where
  start : CharPtr ι
  count : Nat
  reversed : Bool
deriving Repr, DecidableEq

namespace CharRange

/-- `&*first`. -/
def front (range : CharRange ι) : CharPtr ι :=
  if range.reversed then range.start.advance (range.count - 1)
  else range.start

def read (objects : Objects ι) (range : CharRange ι) :
    Option (List UInt8) := do
  let bytes ← range.start.readCount objects range.count
  return if range.reversed then bytes.reverse else bytes

end CharRange

/-! ## Constructors -/

/-- The constructors, other than by copy or move, with their arguments. -/
inductive Creation (ι : Type) where
  | default
  | cString (s : CharPtr ι)
  | counted (s : CharPtr ι) (count : Nat)
  | fill (count : Nat) (ch : UInt8)
  | between (range : CharRange ι)
deriving Repr, DecidableEq

def Creation.buffer (objects : Objects ι) :
    Creation ι → Option SecureBuffer
  | default => some (pushTerminator [])
  | cString s =>
      if s = .null then some (pushTerminator [])
      else (s.readCString objects).map pushTerminator
  | counted s count =>
      if s = .null then some (pushTerminator [])
      else (s.readCount objects count).map pushTerminator
  | fill count ch => some (pushTerminator (List.replicate count ch))
  | between range => (range.read objects).map pushTerminator

/-! ## Assignments -/

def Objects.put (objects : Objects ι) (this : ι) (buffer : SecureBuffer) :
    Objects ι :=
  Function.update objects this (some buffer)

/-- `operator=(const SecureString&)`. -/
def copyAssign (objects : Objects ι) (this other : ι) :
    Option (Objects ι) := do
  let _ ← objects this
  let buffer ← objects other
  if this = other then return objects
  return objects.put this buffer

/-- `operator=(SecureString&&)`. -/
def moveAssign (objects : Objects ι) (this other : ι) :
    Option (Objects ι) := do
  let _ ← objects this
  let buffer ← objects other
  if this = other then return objects
  return (objects.put this buffer).put other []

/-- `operator=(const char*)`; `spare` is the capacity beyond the size. -/
def assignCString (spare : Nat) (objects : Objects ι) (this : ι)
    (s : CharPtr ι) : Option (Objects ι) := do
  let buffer ← objects this
  if s.Within this (buffer.length + spare) then
    let temp ← (Creation.cString s).buffer objects
    return objects.put this temp
  let cleared := objects.put this []
  if s = .null then return cleared.put this (pushTerminator [])
  let bytes ← s.readCString cleared
  return cleared.put this (pushTerminator bytes)

/-- `assign(first, last)`. -/
def assignRange (spare : Nat) (objects : Objects ι) (this : ι)
    (range : CharRange ι) : Option (Objects ι) := do
  let buffer ← objects this
  if range.count ≠ 0 ∧
      range.front.Within this (buffer.length + spare) then
    let temp ← (Creation.between range).buffer objects
    return objects.put this temp
  let cleansed := objects.put this buffer.cleanse
  let bytes ← range.read cleansed
  return cleansed.put this (pushTerminator bytes)

/-- `assign(const char*, std::size_t)`. -/
def assignCounted (spare : Nat) (objects : Objects ι) (this : ι)
    (s : CharPtr ι) (count : Nat) : Option (Objects ι) := do
  let buffer ← objects this
  if s.Within this (buffer.length + spare) then
    let temp ← (Creation.counted s count).buffer objects
    return objects.put this temp
  let cleansed := objects.put this buffer.cleanse
  let bytes ← s.readCount cleansed count
  return cleansed.put this (pushTerminator bytes)

/-! ## Additions at the end -/

/-- `append(first, last)`.  The temporary of the self-reference is memory of
no object. -/
def appendRange (spare : Nat) (objects : Objects ι) (this : ι)
    (range : CharRange ι) : Option (Objects ι) := do
  let buffer ← objects this
  if range.count ≠ 0 ∧
      range.front.Within this (buffer.length + spare) then
    let temp ← (Creation.between range).buffer objects
    return objects.put this (buffer.insertChars temp.chars)
  let popped := objects.put this buffer.popTerminator
  let bytes ← range.read popped
  return popped.put this (pushTerminator (buffer.popTerminator ++ bytes))

/-- `append(const char*)`. -/
def appendCString (spare : Nat) (objects : Objects ι) (this : ι)
    (s : CharPtr ι) : Option (Objects ι) := do
  let buffer ← objects this
  if s = .null then return objects
  if s.Within this (buffer.length + spare) then
    let temp ← (Creation.cString s).buffer objects
    return objects.put this (buffer.insertChars temp.chars)
  let bytes ← s.readCString objects
  appendRange spare objects this ⟨s, bytes.length, false⟩

/-- `operator+=(const SecureString&)` of a temporary. -/
def plusTemporary (objects : Objects ι) (this : ι) (temp : SecureBuffer) :
    Option (Objects ι) := do
  let buffer ← objects this
  return objects.put this (buffer.insertChars temp.chars)

/-- `operator+=(const SecureString&)`. -/
def plusString (objects : Objects ι) (this other : ι) :
    Option (Objects ι) := do
  let buffer ← objects other
  if this = other then
    let temp := buffer
    plusTemporary objects this temp
  else
    let own ← objects this
    let popped := objects.put this own.popTerminator
    let added ← popped other
    return popped.put this
      (pushTerminator (own.popTerminator ++ added.chars))

/-- `operator+=(const char*)`. -/
def plusCString (objects : Objects ι) (this : ι) (s : CharPtr ι) :
    Option (Objects ι) := do
  let buffer ← objects this
  if s = .null then return objects
  let len := (← s.readCString objects).length
  if len = 0 then return objects
  if s.Within this buffer.length then
    let temp ← (Creation.counted s len).buffer objects
    plusTemporary objects this temp
  else
    let popped := objects.put this buffer.popTerminator
    let bytes ← s.readCount popped len
    return popped.put this (pushTerminator (buffer.popTerminator ++ bytes))

/-! ## Calls -/

inductive Call (ι : Type) where
  | construct (this : ι) (creation : Creation ι)
  | copyConstruct (this other : ι)
  | moveConstruct (this other : ι)
  | destroy (this : ι)
  | copyAssign (this other : ι)
  | moveAssign (this other : ι)
  | assignCString (this : ι) (s : CharPtr ι)
  | assignRange (this : ι) (range : CharRange ι)
  | assignCounted (this : ι) (s : CharPtr ι) (count : Nat)
  | clear (this : ι)
  | reserve (this : ι) (capacity : Nat)
  | pushBack (this : ι) (ch : UInt8)
  | popBack (this : ι)
  | appendRange (this : ι) (range : CharRange ι)
  | appendCString (this : ι) (s : CharPtr ι)
  | erase (this : ι) (first last : Option Int)
  | plusString (this other : ι)
  | plusCString (this : ι) (s : CharPtr ι)
  | plusChar (this : ι) (ch : UInt8)
deriving Repr, DecidableEq

/-- A constructor, on storage where no object lives. -/
def Objects.construct (objects : Objects ι) (this : ι)
    (buffer : SecureBuffer) : Option (Objects ι) :=
  if objects this = none then some (objects.put this buffer) else none

/-- A mutator that has no argument outside its own buffer. -/
def Objects.change (objects : Objects ι) (this : ι)
    (f : SecureBuffer → SecureBuffer) : Option (Objects ι) :=
  (objects this).map fun buffer => objects.put this (f buffer)

/-- One call, where the buffer of its object has `spare` elements of unused
capacity; `none` for a call the language gives no meaning to. -/
def Call.run (spare : Nat) (objects : Objects ι) :
    Call ι → Option (Objects ι)
  | construct this creation => do
      objects.construct this (← creation.buffer objects)
  | copyConstruct this other => do
      objects.construct this (← objects other)
  | moveConstruct this other => do
      let made ← objects.construct this (← objects other)
      return made.put other []
  | destroy this =>
      (objects this).map fun _ => Function.update objects this none
  | copyAssign this other => SecureBuffer.copyAssign objects this other
  | moveAssign this other => SecureBuffer.moveAssign objects this other
  | assignCString this s => SecureBuffer.assignCString spare objects this s
  | assignRange this range =>
      SecureBuffer.assignRange spare objects this range
  | assignCounted this s count =>
      SecureBuffer.assignCounted spare objects this s count
  | clear this => objects.change this fun _ => pushTerminator []
  | reserve this _ => objects.change this id
  | pushBack this ch => objects.change this (SecureBuffer.pushBack ch)
  | popBack this => objects.change this SecureBuffer.popBack
  | appendRange this range =>
      SecureBuffer.appendRange spare objects this range
  | appendCString this s => SecureBuffer.appendCString spare objects this s
  | erase this first last =>
      objects.change this fun buffer => buffer.erase first last
  | plusString this other => SecureBuffer.plusString objects this other
  | plusCString this s => SecureBuffer.plusCString objects this s
  | plusChar this ch => objects.change this (SecureBuffer.pushBack ch)

/-! ## Allocations that fail -/

/-- `std::bad_alloc` before the call has changed its object: in a constructor,
in `reserve`, or for the temporary of a self-reference.  `none` for a call that
allocates nothing by then. -/
def Call.refused (spare : Nat) (objects : Objects ι) :
    Call ι → Option (Objects ι)
  | construct this creation => do
      let _ ← objects.construct this (← creation.buffer objects)
      return objects
  | copyConstruct this other => do
      let buffer ← objects other
      let _ ← objects.construct this buffer
      if buffer.isEmpty then none else return objects
  | reserve this capacity => do
      let buffer ← objects this
      if buffer.length + spare < capacity + 1 then return objects else none
  | assignCString this s | appendCString this s => do
      let buffer ← objects this
      let _ ← (Creation.cString s).buffer objects
      if s.Within this (buffer.length + spare) then return objects else none
  | assignRange this range | appendRange this range => do
      let buffer ← objects this
      let _ ← (Creation.between range).buffer objects
      if range.count ≠ 0 ∧ range.front.Within this (buffer.length + spare) then
        return objects
      else none
  | assignCounted this s count => do
      let buffer ← objects this
      let _ ← (Creation.counted s count).buffer objects
      if s.Within this (buffer.length + spare) then return objects else none
  | plusString this other => do
      let buffer ← objects other
      if this = other ∧ ¬ buffer.isEmpty then return objects else none
  | plusCString this s => do
      let buffer ← objects this
      let bytes ← s.readCString objects
      if ¬ bytes.isEmpty ∧ s.Within this buffer.length then return objects
      else none
  | _ => none

/-- An object that a call writes: the elements of its buffer before the new ones
are stored, and those before the terminator is. -/
structure Rewriting (ι : Type) where
  this : ι
  before : SecureBuffer
  after : SecureBuffer
deriving Repr, DecidableEq

def Call.rewriting (spare : Nat) (objects : Objects ι) :
    Call ι → Option (Rewriting ι)
  | assignCString this s => do
      let buffer ← objects this
      if s.Within this (buffer.length + spare) then none
      else if s = .null then return ⟨this, [], []⟩
      else return ⟨this, [], ← s.readCString (objects.put this [])⟩
  | assignRange this range => do
      let buffer ← objects this
      if range.count ≠ 0 ∧
          range.front.Within this (buffer.length + spare) then none
      else
        let bytes ← range.read (objects.put this buffer.cleanse)
        return ⟨this, buffer.cleanse, bytes⟩
  | assignCounted this s count => do
      let buffer ← objects this
      if s.Within this (buffer.length + spare) then none
      else
        let bytes ← s.readCount (objects.put this buffer.cleanse) count
        return ⟨this, buffer.cleanse, bytes⟩
  | pushBack this ch | plusChar this ch => do
      let buffer ← objects this
      return ⟨this, buffer.popTerminator, buffer.popTerminator ++ [ch]⟩
  | appendRange this range => do
      let buffer ← objects this
      let bytes ← range.read objects
      return ⟨this, buffer.popTerminator, buffer.popTerminator ++ bytes⟩
  | appendCString this s => do
      let buffer ← objects this
      if s = .null then none
      else
        let bytes ← s.readCString objects
        return ⟨this, buffer.popTerminator, buffer.popTerminator ++ bytes⟩
  | plusString this other => do
      let buffer ← objects this
      let added ← objects other
      return ⟨this, buffer.popTerminator, buffer.popTerminator ++ added.chars⟩
  | plusCString this s => do
      let buffer ← objects this
      let bytes ← s.readCString objects
      if bytes.isEmpty then none
      else
        return ⟨this, buffer.popTerminator, buffer.popTerminator ++ bytes⟩
  | _ => none

/-- `std::bad_alloc` once the call has cleansed or emptied the buffer of its
object or taken the terminator off: for the elements, or for the terminator that
follows them.  In `clear`, which is `noexcept`, it ends the process. -/
def Call.torn (spare : Nat) (objects : Objects ι) (terminator : Bool) :
    Call ι → Option (Objects ι)
  | copyAssign this other => do
      let own ← objects this
      let buffer ← objects other
      if ¬ terminator ∧ this ≠ other ∧
          own.length + spare < buffer.length then
        return objects.put this own.cleanse
      else none
  | call => do
      let ⟨this, before, after⟩ ← call.rewriting spare objects
      let buffer ← objects this
      if terminator then
        if buffer.length + spare < after.length + 1 then
          return objects.put this after
        else none
      else if buffer.length + spare < after.length then
        return objects.put this before
      else none

/-- How the allocations of a call go: as they should, or one fails, before the
call has changed its object or after. -/
inductive Allocations where
  | granted
  | refused
  | torn (terminator : Bool)
deriving Repr, DecidableEq

/-- A call with the unused capacity and the allocations it meets. -/
structure Invocation (ι : Type) where
  call : Call ι
  spare : Nat
  allocations : Allocations
deriving Repr, DecidableEq

def Invocation.run (objects : Objects ι) (invocation : Invocation ι) :
    Option (Objects ι) :=
  match invocation.allocations with
  | .granted => invocation.call.run invocation.spare objects
  | .refused => invocation.call.refused invocation.spare objects
  | .torn terminator =>
      invocation.call.torn invocation.spare objects terminator

/-- The calls one after the other; exceptions are caught between them. -/
def runAll (objects : Objects ι) : List (Invocation ι) → Option (Objects ι)
  | [] => some objects
  | invocation :: invocations => do
      runAll (← invocation.run objects) invocations

end SecureBuffer

end DuckPass
