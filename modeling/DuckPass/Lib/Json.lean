/-
Module: DuckPass.Lib.Json
Purpose: JSON texts over bytes: the grammar of RFC 8259 together with the value
  that a text denotes.
Trusted boundary: none
Main exports: Json.Value, Json.decode, Json.Chars, Json.Denotes, Json.Document
-/
import Mathlib.Data.List.Basic

namespace Json

/-- A JSON value.  A number is kept as it is written and a string as the UTF-8
bytes of its characters. -/
inductive Value where
  | null
  | bool (value : Bool)
  | number (text : List UInt8)
  | string (bytes : List UInt8)
  | array (elements : List Value)
  | object (members : List (List UInt8 × Value))

/-! ## Characters -/

def isSpace (byte : UInt8) : Bool :=
  byte == 0x20 || byte == 0x09 || byte == 0x0A || byte == 0x0D

def isDigit (byte : UInt8) : Bool := 0x30 ≤ byte && byte ≤ 0x39

/-- The value of a hexadecimal digit in either case. -/
def hexValue (byte : UInt8) : Option Nat :=
  if 0x30 ≤ byte ∧ byte ≤ 0x39 then some (byte.toNat - 0x30)
  else if 0x61 ≤ byte ∧ byte ≤ 0x66 then some (byte.toNat - 0x61 + 10)
  else if 0x41 ≤ byte ∧ byte ≤ 0x46 then some (byte.toNat - 0x41 + 10)
  else none

/-- The character that stands behind a backslash, other than `u`, and what the
two of them denote. -/
def simpleEscape (byte : UInt8) : Option UInt8 :=
  if byte = 0x22 ∨ byte = 0x5C ∨ byte = 0x2F then some byte
  else if byte = 0x62 then some 0x08
  else if byte = 0x66 then some 0x0C
  else if byte = 0x6E then some 0x0A
  else if byte = 0x72 then some 0x0D
  else if byte = 0x74 then some 0x09
  else none

/-- The code unit that four hexadecimal digits write. -/
def hexUnit (first second third fourth : UInt8) : Option Nat := do
  let first ← hexValue first
  let second ← hexValue second
  let third ← hexValue third
  let fourth ← hexValue fourth
  some (((first * 16 + second) * 16 + third) * 16 + fourth)

/-- A part of a string: a byte that stands for itself or was escaped by a
single character, or a UTF-16 code unit. -/
inductive Piece where
  | byte (byte : UInt8)
  | unit (code : Nat)
deriving Repr, Inhabited, DecidableEq

/-- The UTF-8 bytes of a code point. -/
def encodeUtf8 (code : Nat) : List UInt8 :=
  if code < 0x80 then [UInt8.ofNat code]
  else if code < 0x800 then
    [UInt8.ofNat (0xC0 + code / 0x40), UInt8.ofNat (0x80 + code % 0x40)]
  else if code < 0x10000 then
    [UInt8.ofNat (0xE0 + code / 0x1000),
      UInt8.ofNat (0x80 + code / 0x40 % 0x40),
      UInt8.ofNat (0x80 + code % 0x40)]
  else
    [UInt8.ofNat (0xF0 + code / 0x40000),
      UInt8.ofNat (0x80 + code / 0x1000 % 0x40),
      UInt8.ofNat (0x80 + code / 0x40 % 0x40),
      UInt8.ofNat (0x80 + code % 0x40)]

/-- A code unit with the parts that follow it.  A high surrogate and a low one
make one code point; any other unit is one by itself. -/
def decodeUnit (code : Nat) : List Piece → List UInt8 × List Piece
  | .unit low :: rest =>
      if 0xD800 ≤ code ∧ code < 0xDC00 ∧ 0xDC00 ≤ low ∧ low < 0xE000 then
        (encodeUtf8 (0x10000 + (code - 0xD800) * 0x400 + (low - 0xDC00)), rest)
      else (encodeUtf8 code, .unit low :: rest)
  | rest => (encodeUtf8 code, rest)

/-- The parts of a string one after the other. -/
def decodePieces : (count : Nat) → List Piece → List UInt8
  | 0, _ => []
  | _ + 1, [] => []
  | count + 1, .byte byte :: rest => byte :: decodePieces count rest
  | count + 1, .unit code :: rest =>
      (decodeUnit code rest).1 ++ decodePieces count (decodeUnit code rest).2

/-- The bytes that the parts of a string denote. -/
def decode (pieces : List Piece) : List UInt8 :=
  decodePieces pieces.length pieces

/-! ## The grammar -/

/-- `ws`. -/
def Space (text : List UInt8) : Prop := ∀ byte ∈ text, isSpace byte = true

instance (text : List UInt8) : Decidable (Space text) :=
  List.decidableBAll (isSpace · = true) text

theorem Space.append {text later : List UInt8} (blank : Space text)
    (laterBlank : Space later) : Space (text ++ later) := by
  intro byte member
  rcases List.mem_append.mp member with before | behind
  · exact blank byte before
  · exact laterBlank byte behind

/-- `1*DIGIT`. -/
def Digits (text : List UInt8) : Prop :=
  text ≠ [] ∧ ∀ byte ∈ text, isDigit byte = true

/-- `int`: no leading zeros. -/
inductive Int : List UInt8 → Prop where
  | zero : Int [0x30]
  | digits {first : UInt8} {rest : List UInt8} (nonZero : first ≠ 0x30)
      (digits : Digits (first :: rest)) : Int (first :: rest)

/-- `[ frac ]`. -/
inductive Fraction : List UInt8 → Prop where
  | absent : Fraction []
  | present {digits : List UInt8} (written : Digits digits) :
      Fraction (0x2E :: digits)

/-- `[ exp ]`. -/
inductive Exponent : List UInt8 → Prop where
  | absent : Exponent []
  | present {mark : UInt8} {sign digits : List UInt8}
      (isMark : mark = 0x65 ∨ mark = 0x45)
      (isSign : sign = [] ∨ sign = [0x2B] ∨ sign = [0x2D])
      (written : Digits digits) : Exponent (mark :: (sign ++ digits))

/-- `number`. -/
inductive Number : List UInt8 → Prop where
  | parts {minus int fraction exponent : List UInt8}
      (isMinus : minus = [] ∨ minus = [0x2D]) (isInt : Int int)
      (isFraction : Fraction fraction) (isExponent : Exponent exponent) :
      Number (minus ++ (int ++ (fraction ++ exponent)))

/-- `*char`, with the parts that it denotes.  Bytes from `0x80` on belong to
characters outside ASCII, which all stand for themselves. -/
inductive Chars : List Piece → List UInt8 → Prop where
  | nil : Chars [] []
  | unescaped {byte : UInt8} {pieces : List Piece} {text : List UInt8}
      (printable : 0x20 ≤ byte) (noQuote : byte ≠ 0x22)
      (noBackslash : byte ≠ 0x5C) (rest : Chars pieces text) :
      Chars (.byte byte :: pieces) (byte :: text)
  | escaped {byte denoted : UInt8} {pieces : List Piece} {text : List UInt8}
      (escape : simpleEscape byte = some denoted) (rest : Chars pieces text) :
      Chars (.byte denoted :: pieces) (0x5C :: byte :: text)
  | unicode {first second third fourth : UInt8} {code : Nat}
      {pieces : List Piece} {text : List UInt8}
      (hex : hexUnit first second third fourth = some code)
      (rest : Chars pieces text) :
      Chars (.unit code :: pieces)
        (0x5C :: 0x75 :: first :: second :: third :: fourth :: text)

/-- `string`. -/
inductive StringText : List UInt8 → List UInt8 → Prop where
  | quoted {pieces : List Piece} {text : List UInt8}
      (chars : Chars pieces text) :
      StringText (decode pieces) (0x22 :: (text ++ [0x22]))

mutual

/-- `value`, with the value that it denotes. -/
inductive Denotes : Value → List UInt8 → Prop where
  | null : Denotes .null [0x6E, 0x75, 0x6C, 0x6C]
  | true : Denotes (.bool true) [0x74, 0x72, 0x75, 0x65]
  | false : Denotes (.bool false) [0x66, 0x61, 0x6C, 0x73, 0x65]
  | number {text : List UInt8} (written : Number text) :
      Denotes (.number text) text
  | string {bytes text : List UInt8} (written : StringText bytes text) :
      Denotes (.string bytes) text
  | emptyArray {space : List UInt8} (blank : Space space) :
      Denotes (.array []) (0x5B :: (space ++ [0x5D]))
  | array {elements : List Value} {text : List UInt8}
      (written : Elements elements text) :
      Denotes (.array elements) (0x5B :: (text ++ [0x5D]))
  | emptyObject {space : List UInt8} (blank : Space space) :
      Denotes (.object []) (0x7B :: (space ++ [0x7D]))
  | object {members : List (List UInt8 × Value)} {text : List UInt8}
      (written : Members members text) :
      Denotes (.object members) (0x7B :: (text ++ [0x7D]))

/-- `value *( value-separator value )`. -/
inductive Elements : List Value → List UInt8 → Prop where
  | last {value : Value} {before text after : List UInt8}
      (blankBefore : Space before) (denotes : Denotes value text)
      (blankAfter : Space after) :
      Elements [value] (before ++ (text ++ after))
  | more {value : Value} {before text after : List UInt8}
      {values : List Value} {later : List UInt8}
      (blankBefore : Space before) (denotes : Denotes value text)
      (blankAfter : Space after) (rest : Elements values later) :
      Elements (value :: values)
        (before ++ (text ++ (after ++ 0x2C :: later)))

/-- `member *( value-separator member )`. -/
inductive Members : List (List UInt8 × Value) → List UInt8 → Prop where
  | last {name nameText : List UInt8} {value : Value}
      {before behind ahead text after : List UInt8}
      (blankBefore : Space before) (named : StringText name nameText)
      (blankBehind : Space behind) (blankAhead : Space ahead)
      (denotes : Denotes value text) (blankAfter : Space after) :
      Members [(name, value)]
        (before ++ (nameText ++ (behind ++
          0x3A :: (ahead ++ (text ++ after)))))
  | more {name nameText : List UInt8} {value : Value}
      {before behind ahead text after : List UInt8}
      {members : List (List UInt8 × Value)} {later : List UInt8}
      (blankBefore : Space before) (named : StringText name nameText)
      (blankBehind : Space behind) (blankAhead : Space ahead)
      (denotes : Denotes value text) (blankAfter : Space after)
      (rest : Members members later) :
      Members ((name, value) :: members)
        (before ++ (nameText ++ (behind ++
          0x3A :: (ahead ++ (text ++ (after ++ 0x2C :: later))))))

end

/-- `JSON-text`. -/
inductive Document : Value → List UInt8 → Prop where
  | text {value : Value} {before text after : List UInt8}
      (blankBefore : Space before) (denotes : Denotes value text)
      (blankAfter : Space after) :
      Document value (before ++ (text ++ after))

end Json
