/-
Module: DuckPass.Lib.JsonReader
Purpose: A reader of JSON texts, and that what it accepts is a document of the
  grammar which denotes the value it returns.
Trusted boundary: none
Main exports: Json.readPieces, Json.readValue, Json.parse,
  Json.readNumber_sound, Json.parse_sound, Json.decode_writes,
  Json.readMembers_more, Json.readElements_more
-/
import DuckPass.Lib.Json
import Mathlib.Data.List.TakeWhile

namespace Json

/-! ## The reader -/

def skipSpace (text : List UInt8) : List UInt8 := text.dropWhile isSpace

/-- The rest of a text that begins with `expected`. -/
def expect : (expected text : List UInt8) → Option (List UInt8)
  | [], text => some text
  | _ :: _, [] => none
  | byte :: expected, other :: text =>
      if byte = other then expect expected text else none

/-- The parts of a string up to the closing quote. -/
def readPieces : List UInt8 → Option (List Piece × List UInt8)
  | [] => none
  | byte :: rest =>
      if byte = 0x22 then some ([], rest)
      else if byte = 0x5C then
        match rest with
        | [] => none
        | escape :: rest =>
            if escape = 0x75 then
              match rest with
              | first :: second :: third :: fourth :: rest => do
                  let code ← hexUnit first second third fourth
                  let (pieces, rest) ← readPieces rest
                  some (.unit code :: pieces, rest)
              | _ => none
            else do
              let denoted ← simpleEscape escape
              let (pieces, rest) ← readPieces rest
              some (.byte denoted :: pieces, rest)
      else if byte < 0x20 then none
      else do
        let (pieces, rest) ← readPieces rest
        some (.byte byte :: pieces, rest)

/-- A string from its opening quote on. -/
def readString (text : List UInt8) : Option (List UInt8 × List UInt8) := do
  let rest ← expect [0x22] text
  let (pieces, rest) ← readPieces rest
  some (decode pieces, rest)

def readDigits (text : List UInt8) : Option (List UInt8 × List UInt8) :=
  if (text.takeWhile isDigit).isEmpty then none
  else some (text.takeWhile isDigit, text.dropWhile isDigit)

def readMinus : List UInt8 → List UInt8 × List UInt8
  | [] => ([], [])
  | byte :: rest => if byte = 0x2D then ([0x2D], rest) else ([], byte :: rest)

def readInt : List UInt8 → Option (List UInt8 × List UInt8)
  | [] => none
  | byte :: rest =>
      if byte = 0x30 then some ([0x30], rest) else readDigits (byte :: rest)

def readFraction : List UInt8 → Option (List UInt8 × List UInt8)
  | [] => some ([], [])
  | byte :: rest =>
      if byte = 0x2E then do
        let (digits, rest) ← readDigits rest
        some (0x2E :: digits, rest)
      else some ([], byte :: rest)

def readSign : List UInt8 → List UInt8 × List UInt8
  | [] => ([], [])
  | byte :: rest =>
      if byte = 0x2B ∨ byte = 0x2D then ([byte], rest)
      else ([], byte :: rest)

def readExponent : List UInt8 → Option (List UInt8 × List UInt8)
  | [] => some ([], [])
  | byte :: rest =>
      if byte = 0x65 ∨ byte = 0x45 then do
        let (digits, later) ← readDigits (readSign rest).2
        some (byte :: ((readSign rest).1 ++ digits), later)
      else some ([], byte :: rest)

def readNumber (text : List UInt8) : Option (List UInt8 × List UInt8) := do
  let (int, rest) ← readInt (readMinus text).2
  let (fraction, rest) ← readFraction rest
  let (exponent, rest) ← readExponent rest
  some ((readMinus text).1 ++ (int ++ (fraction ++ exponent)), rest)

mutual

/-- A value; `fuel` bounds the depth and the number of elements. -/
def readValue : (fuel : Nat) → List UInt8 → Option (Value × List UInt8)
  | 0, _ => none
  | _ + 1, [] => none
  | fuel + 1, first :: rest =>
      if first = 0x22 then do
        let (bytes, rest) ← readString (first :: rest)
        some (.string bytes, rest)
      else if first = 0x5B then
        match expect [0x5D] (skipSpace rest) with
        | some rest => some (.array [], rest)
        | none => do
            let (elements, rest) ← readElements fuel rest
            some (.array elements, rest)
      else if first = 0x7B then
        match expect [0x7D] (skipSpace rest) with
        | some rest => some (.object [], rest)
        | none => do
            let (members, rest) ← readMembers fuel rest
            some (.object members, rest)
      else if first = 0x6E then do
        let rest ← expect [0x6E, 0x75, 0x6C, 0x6C] (first :: rest)
        some (.null, rest)
      else if first = 0x74 then do
        let rest ← expect [0x74, 0x72, 0x75, 0x65] (first :: rest)
        some (.bool true, rest)
      else if first = 0x66 then do
        let rest ← expect [0x66, 0x61, 0x6C, 0x73, 0x65] (first :: rest)
        some (.bool false, rest)
      else do
        let (number, rest) ← readNumber (first :: rest)
        some (.number number, rest)

/-- The elements of an array, up to and with the closing bracket. -/
def readElements : (fuel : Nat) → List UInt8 →
    Option (List Value × List UInt8)
  | 0, _ => none
  | fuel + 1, text => do
      let (value, rest) ← readValue fuel (skipSpace text)
      match skipSpace rest with
      | [] => none
      | next :: rest =>
          if next = 0x5D then some ([value], rest)
          else if next = 0x2C then do
            let (values, rest) ← readElements fuel rest
            some (value :: values, rest)
          else none

/-- The members of an object, up to and with the closing brace. -/
def readMembers : (fuel : Nat) → List UInt8 →
    Option (List (List UInt8 × Value) × List UInt8)
  | 0, _ => none
  | fuel + 1, text => do
      let (name, rest) ← readString (skipSpace text)
      let rest ← expect [0x3A] (skipSpace rest)
      let (value, rest) ← readValue fuel (skipSpace rest)
      match skipSpace rest with
      | [] => none
      | next :: rest =>
          if next = 0x7D then some ([(name, value)], rest)
          else if next = 0x2C then do
            let (members, rest) ← readMembers fuel rest
            some ((name, value) :: members, rest)
          else none

end

/-- The value of a document. -/
def parse (text : List UInt8) : Option Value := do
  let (value, rest) ← readValue (text.length + 1) (skipSpace text)
  if skipSpace rest = [] then some value else none

/-! ## Soundness -/

/-- What is skipped is white space. -/
theorem space_takeWhile (text : List UInt8) : Space (text.takeWhile isSpace) :=
  fun _ member => List.mem_takeWhile_imp member

/-- And the text is what is skipped and the rest. -/
theorem skipSpace_eq (text : List UInt8) :
    text.takeWhile isSpace ++ skipSpace text = text :=
  List.takeWhile_append_dropWhile

/-- The blanks in front of the first other byte. -/
theorem leading (text : List UInt8) :
    ∃ blank, Space blank ∧ text = blank ++ skipSpace text :=
  ⟨_, space_takeWhile text, (skipSpace_eq text).symm⟩

/-- An expected literal stands in front of the rest. -/
theorem expect_eq {expected text rest : List UInt8}
    (found : expect expected text = some rest) : text = expected ++ rest := by
  induction expected generalizing text with
  | nil => exact Option.some.inj found
  | cons byte expected inductionHypothesis =>
      cases text with
      | nil => cases found
      | cons other text =>
          rw [expect] at found
          split at found
          · next same => rw [inductionHypothesis found, same]; rfl
          · cases found

/-- The pieces of a string end at the quote that is not escaped. -/
theorem readPieces_sound {text rest : List UInt8} {pieces : List Piece}
    (found : readPieces text = some (pieces, rest)) :
    ∃ chars, text = chars ++ 0x22 :: rest ∧ Chars pieces chars := by
  fun_induction readPieces text generalizing pieces with
  | case1 => cases found
  | case2 text =>
      cases found
      exact ⟨[], rfl, .nil⟩
  | case3 => cases found
  | case4 first second third fourth text differs inductionHypothesis =>
      simp only [Option.bind_eq_bind, Option.bind_eq_some_iff] at found
      obtain ⟨code, hex, ⟨later, left⟩, read, same⟩ := found
      cases same
      obtain ⟨chars, rfl, written⟩ := inductionHypothesis read
      exact ⟨_, rfl, .unicode hex written⟩
  | case5 => cases found
  | case6 escape text differs notUnit inductionHypothesis =>
      simp only [Option.bind_eq_bind, Option.bind_eq_some_iff] at found
      obtain ⟨denoted, simple, ⟨later, left⟩, read, same⟩ := found
      cases same
      obtain ⟨chars, rfl, written⟩ := inductionHypothesis read
      exact ⟨_, rfl, .escaped simple written⟩
  | case7 => cases found
  | case8 byte text noQuote noBackslash printable inductionHypothesis =>
      simp only [Option.bind_eq_bind, Option.bind_eq_some_iff] at found
      obtain ⟨⟨later, left⟩, read, same⟩ := found
      cases same
      obtain ⟨chars, rfl, written⟩ := inductionHypothesis read
      exact ⟨_, rfl, .unescaped (UInt8.not_lt.mp printable) noQuote
        noBackslash written⟩

/-- A string that is read is one of the grammar. -/
theorem readString_sound {text rest bytes : List UInt8}
    (found : readString text = some (bytes, rest)) :
    ∃ written, text = written ++ rest ∧ StringText bytes written := by
  simp only [readString, Option.bind_eq_bind, Option.bind_eq_some_iff] at found
  obtain ⟨inside, opened, ⟨pieces, left⟩, read, same⟩ := found
  cases same
  obtain ⟨chars, rfl, written⟩ := readPieces_sound read
  refine ⟨0x22 :: (chars ++ [0x22]), ?_, .quoted written⟩
  rw [expect_eq opened]
  simp

/-- So are digits. -/
theorem readDigits_sound {text rest digits : List UInt8}
    (found : readDigits text = some (digits, rest)) :
    text = digits ++ rest ∧ Digits digits := by
  unfold readDigits at found
  split at found
  · cases found
  · next some =>
      cases found
      refine ⟨List.takeWhile_append_dropWhile.symm, by simpa using some, ?_⟩
      exact fun _ member => List.mem_takeWhile_imp member

/-- So is a sign in front of a number. -/
theorem readMinus_eq (text : List UInt8) :
    text = (readMinus text).1 ++ (readMinus text).2 ∧
      ((readMinus text).1 = [] ∨ (readMinus text).1 = [0x2D]) := by
  cases text with
  | nil => exact ⟨rfl, .inl rfl⟩
  | cons byte rest =>
      by_cases minus : byte = 0x2D
      · subst minus
        exact ⟨rfl, .inr rfl⟩
      · simp [readMinus, minus]

/-- So is the integral part. -/
theorem readInt_sound {text rest int : List UInt8}
    (found : readInt text = some (int, rest)) :
    text = int ++ rest ∧ Int int := by
  cases text with
  | nil => cases found
  | cons byte later =>
      rw [readInt] at found
      split at found
      · next zero =>
          cases found
          exact ⟨by rw [zero]; rfl, .zero⟩
      · next nonZero =>
          obtain ⟨same, digits⟩ := readDigits_sound found
          cases int with
          | nil => exact absurd rfl digits.1
          | cons first others =>
              rw [List.cons_append, List.cons.injEq] at same
              obtain ⟨rfl, rfl⟩ := same
              exact ⟨rfl, .digits nonZero digits⟩

/-- So is a fraction. -/
theorem readFraction_sound {text rest fraction : List UInt8}
    (found : readFraction text = some (fraction, rest)) :
    text = fraction ++ rest ∧ Fraction fraction := by
  cases text with
  | nil =>
      cases found
      exact ⟨rfl, .absent⟩
  | cons byte later =>
      rw [readFraction] at found
      split at found
      · next point =>
          simp only [Option.bind_eq_bind, Option.bind_eq_some_iff] at found
          obtain ⟨⟨digits, left⟩, read, same⟩ := found
          cases same
          obtain ⟨rfl, written⟩ := readDigits_sound read
          exact ⟨by rw [point]; rfl, .present written⟩
      · cases found
        exact ⟨rfl, .absent⟩

/-- So is the sign of an exponent. -/
theorem readSign_eq (text : List UInt8) :
    text = (readSign text).1 ++ (readSign text).2 ∧
      ((readSign text).1 = [] ∨ (readSign text).1 = [0x2B] ∨
        (readSign text).1 = [0x2D]) := by
  cases text with
  | nil => exact ⟨rfl, .inl rfl⟩
  | cons byte rest =>
      by_cases sign : byte = 0x2B ∨ byte = 0x2D
      · simp [readSign, sign]
      · simp [readSign, sign]

/-- So is an exponent. -/
theorem readExponent_sound {text rest exponent : List UInt8}
    (found : readExponent text = some (exponent, rest)) :
    text = exponent ++ rest ∧ Exponent exponent := by
  cases text with
  | nil =>
      cases found
      exact ⟨rfl, .absent⟩
  | cons byte later =>
      rw [readExponent] at found
      split at found
      · next mark =>
          simp only [Option.bind_eq_bind, Option.bind_eq_some_iff] at found
          obtain ⟨⟨digits, left⟩, read, same⟩ := found
          cases same
          obtain ⟨signed, isSign⟩ := readSign_eq later
          obtain ⟨follows, written⟩ := readDigits_sound read
          rw [follows] at signed
          refine ⟨?_, .present mark isSign written⟩
          rw [List.cons_append, List.append_assoc, ← signed]
      · cases found
        exact ⟨rfl, .absent⟩

/-- So is a number. -/
theorem readNumber_sound {text rest number : List UInt8}
    (found : readNumber text = some (number, rest)) :
    text = number ++ rest ∧ Number number := by
  simp only [readNumber, Option.bind_eq_bind, Option.bind_eq_some_iff] at found
  obtain ⟨⟨int, afterInt⟩, readsInt, ⟨fraction, afterFraction⟩,
    readsFraction, ⟨exponent, left⟩, readsExponent, same⟩ := found
  cases same
  obtain ⟨signed, isMinus⟩ := readMinus_eq text
  obtain ⟨intText, isInt⟩ := readInt_sound readsInt
  obtain ⟨rfl, isFraction⟩ := readFraction_sound readsFraction
  obtain ⟨rfl, isExponent⟩ := readExponent_sound readsExponent
  rw [intText] at signed
  refine ⟨?_, .parts isMinus isInt isFraction isExponent⟩
  rw [List.append_assoc, List.append_assoc, List.append_assoc]
  exact signed

/-- What the three readers of one fuel accept. -/
structure Sound (fuel : Nat) : Prop where
  value : ∀ {text rest value}, readValue fuel text = some (value, rest) →
    ∃ written, text = written ++ rest ∧ Denotes value written
  elements : ∀ {text rest values},
    readElements fuel text = some (values, rest) →
      ∃ written, text = written ++ 0x5D :: rest ∧ Elements values written
  members : ∀ {text rest members},
    readMembers fuel text = some (members, rest) →
      ∃ written, text = written ++ 0x7D :: rest ∧ Members members written

/-- The blanks in front of a text that was read from its first other byte. -/
theorem spaced {text written rest : List UInt8}
    (read : skipSpace text = written ++ rest) :
    ∃ blank, Space blank ∧ text = blank ++ (written ++ rest) := by
  rw [← read]
  exact leading text

/-- The case of a value. -/
theorem sound_value {fuel : Nat} (sound : Sound fuel)
    {text rest : List UInt8} {value : Value}
    (found : readValue (fuel + 1) text = some (value, rest)) :
    ∃ written, text = written ++ rest ∧ Denotes value written := by
  cases text with
  | nil => cases found
  | cons first later =>
      rw [readValue] at found
      split at found
      · simp only [Option.bind_eq_bind, Option.bind_eq_some_iff] at found
        obtain ⟨⟨bytes, left⟩, read, same⟩ := found
        cases same
        obtain ⟨written, same, string⟩ := readString_sound read
        exact ⟨written, same, .string string⟩
      split at found
      · next bracket =>
          subst bracket
          split at found
          · next left closed =>
              cases found
              obtain ⟨blank, isBlank, same⟩ := spaced (expect_eq closed)
              refine ⟨_, ?_, .emptyArray isBlank⟩
              rw [same]
              simp
          · simp only [Option.bind_eq_bind, Option.bind_eq_some_iff] at found
            obtain ⟨⟨elements, left⟩, read, same⟩ := found
            cases same
            obtain ⟨written, rfl, denotes⟩ := sound.elements read
            refine ⟨_, ?_, .array denotes⟩
            simp
      split at found
      · next brace =>
          subst brace
          split at found
          · next left closed =>
              cases found
              obtain ⟨blank, isBlank, same⟩ := spaced (expect_eq closed)
              refine ⟨_, ?_, .emptyObject isBlank⟩
              rw [same]
              simp
          · simp only [Option.bind_eq_bind, Option.bind_eq_some_iff] at found
            obtain ⟨⟨members, left⟩, read, same⟩ := found
            cases same
            obtain ⟨written, rfl, denotes⟩ := sound.members read
            refine ⟨_, ?_, .object denotes⟩
            simp
      split at found
      · simp only [Option.bind_eq_bind, Option.bind_eq_some_iff] at found
        obtain ⟨left, read, same⟩ := found
        cases same
        exact ⟨_, expect_eq read, .null⟩
      split at found
      · simp only [Option.bind_eq_bind, Option.bind_eq_some_iff] at found
        obtain ⟨left, read, same⟩ := found
        cases same
        exact ⟨_, expect_eq read, .true⟩
      split at found
      · simp only [Option.bind_eq_bind, Option.bind_eq_some_iff] at found
        obtain ⟨left, read, same⟩ := found
        cases same
        exact ⟨_, expect_eq read, .false⟩
      · simp only [Option.bind_eq_bind, Option.bind_eq_some_iff] at found
        obtain ⟨⟨number, left⟩, read, same⟩ := found
        cases same
        obtain ⟨written, isNumber⟩ := readNumber_sound read
        exact ⟨number, written, .number isNumber⟩

/-- The case of the elements of an array. -/
theorem sound_elements {fuel : Nat} (sound : Sound fuel)
    {text rest : List UInt8} {values : List Value}
    (found : readElements (fuel + 1) text = some (values, rest)) :
    ∃ written, text = written ++ 0x5D :: rest ∧ Elements values written := by
  simp only [readElements, Option.bind_eq_bind,
    Option.bind_eq_some_iff] at found
  obtain ⟨⟨value, behind⟩, readsValue, found⟩ := found
  dsimp only at found
  obtain ⟨written, valueText, denotes⟩ := sound.value readsValue
  obtain ⟨before, blankBefore, same⟩ := spaced valueText
  obtain ⟨between, blankAfter, behindEq⟩ := leading behind
  split at found
  · cases found
  · next next left follows =>
      rw [follows] at behindEq
      split at found
      · next closing =>
          cases found
          refine ⟨_, ?_, .last blankBefore denotes blankAfter⟩
          rw [same, behindEq, closing]
          simp
      split at found
      · next comma =>
          simp only [Option.bind_eq_some_iff] at found
          obtain ⟨⟨others, left⟩, read, same'⟩ := found
          cases same'
          obtain ⟨later, rfl, elements⟩ := sound.elements read
          refine ⟨_, ?_, .more blankBefore denotes blankAfter elements⟩
          rw [same, behindEq, comma]
          simp
      · cases found

/-- The case of the members of an object. -/
theorem sound_members {fuel : Nat} (sound : Sound fuel)
    {text rest : List UInt8} {members : List (List UInt8 × Value)}
    (found : readMembers (fuel + 1) text = some (members, rest)) :
    ∃ written, text = written ++ 0x7D :: rest ∧ Members members written := by
  simp only [readMembers, Option.bind_eq_bind,
    Option.bind_eq_some_iff] at found
  obtain ⟨⟨name, behindName⟩, readsName, ahead, colon,
    ⟨value, behindValue⟩, readsValue, found⟩ := found
  dsimp only at found colon readsValue
  obtain ⟨nameText, nameEq, named⟩ := readString_sound readsName
  obtain ⟨before, blankBefore, same⟩ := spaced nameEq
  obtain ⟨behind, blankBehind, behindEq⟩ := spaced (expect_eq colon)
  obtain ⟨written, valueText, denotes⟩ := sound.value readsValue
  obtain ⟨blank, blankAhead, aheadEq⟩ := spaced valueText
  obtain ⟨after, blankAfter, valueEq⟩ := leading behindValue
  split at found
  · cases found
  · next next left follows =>
      rw [follows] at valueEq
      split at found
      · next closing =>
          cases found
          refine ⟨_, ?_, .last blankBefore named blankBehind blankAhead
            denotes blankAfter⟩
          rw [same, behindEq, aheadEq, valueEq, closing]
          simp
      split at found
      · next comma =>
          simp only [Option.bind_eq_some_iff] at found
          obtain ⟨⟨others, left⟩, read, same'⟩ := found
          cases same'
          obtain ⟨later, rfl, written⟩ := sound.members read
          refine ⟨_, ?_, .more blankBefore named blankBehind blankAhead
            denotes blankAfter written⟩
          rw [same, behindEq, aheadEq, valueEq, comma]
          simp
      · cases found

/-- What the reader accepts the grammar does, by induction on the fuel. -/
theorem sound (fuel : Nat) : Sound fuel := by
  induction fuel with
  | zero =>
      constructor
      · intro text rest value found
        cases found
      · intro text rest values found
        cases found
      · intro text rest members found
        cases found
  | succ fuel inductionHypothesis =>
      exact ⟨sound_value inductionHypothesis,
        sound_elements inductionHypothesis,
        sound_members inductionHypothesis⟩

/-- What is accepted is a document, and it denotes what is returned. -/
theorem parse_sound {text : List UInt8} {value : Value}
    (found : parse text = some value) : Document value text := by
  simp only [parse, Option.bind_eq_bind, Option.bind_eq_some_iff] at found
  obtain ⟨⟨read, rest⟩, readsValue, found⟩ := found
  dsimp only at found
  split at found
  · next atEnd =>
      cases found
      obtain ⟨written, valueText, denotes⟩ := (sound _).value readsValue
      obtain ⟨before, blankBefore, same⟩ := spaced valueText
      obtain ⟨after, blankAfter, whole⟩ := leading rest
      rw [atEnd, List.append_nil] at whole
      rw [same, whole]
      exact .text blankBefore denotes blankAfter
  · cases found

/-! ## What is read back -/

/-- White space in front of anything else is skipped. -/
theorem skipSpace_append {blank rest : List UInt8} {first : UInt8}
    (isBlank : Space blank) (other : isSpace first = false) :
    skipSpace (blank ++ first :: rest) = first :: rest := by
  unfold skipSpace
  rw [List.dropWhile_append_of_pos isBlank, List.dropWhile_cons_of_neg]
  simp [other]

/-- A unit that is one ASCII character denotes one byte. -/
theorem decodeUnit_ascii {code : Nat} (ascii : code < 0x80)
    (rest : List Piece) :
    decodeUnit code rest = ([UInt8.ofNat code], rest) := by
  have alone : encodeUtf8 code = [UInt8.ofNat code] := if_pos ascii
  have noSurrogate : ¬ 0xD800 ≤ code := by omega
  cases rest with
  | nil => simp [decodeUnit, alone]
  | cons piece rest =>
      cases piece with
      | byte other => simp [decodeUnit, alone]
      | unit low => simp [decodeUnit, alone, noSurrogate]

/-- The byte that a part denotes by itself. -/
def Piece.Writes : Piece → UInt8 → Prop
  | .byte plain, denoted => plain = denoted
  | .unit code, denoted => code < 0x80 ∧ UInt8.ofNat code = denoted

/-- The pieces of a string decode to the bytes they were written for. -/
theorem decode_writes {pieces : List Piece} {bytes : List UInt8}
    (writes : List.Forall₂ Piece.Writes pieces bytes) :
    decode pieces = bytes := by
  unfold decode
  induction writes with
  | nil => rfl
  | @cons piece byte pieces bytes first rest inductionHypothesis =>
      cases piece with
      | byte other =>
          rw [List.length_cons, decodePieces, inductionHypothesis]
          exact congrArg (· :: bytes) first
      | unit code =>
          rw [List.length_cons, decodePieces, decodeUnit_ascii first.1,
            inductionHypothesis, first.2]
          rfl

/-- A string is read up to its own quote, whatever follows. -/
theorem Chars.read {pieces : List Piece} {chars : List UInt8}
    (written : Chars pieces chars) (rest : List UInt8) :
    readPieces (chars ++ 0x22 :: rest) = some (pieces, rest) := by
  induction written with
  | nil =>
      rw [List.nil_append]
      unfold readPieces
      rw [if_pos rfl]
  | @unescaped byte pieces text printable noQuote noBackslash _
      inductionHypothesis =>
      rw [List.cons_append]
      unfold readPieces
      rw [if_neg noQuote, if_neg noBackslash,
        if_neg (UInt8.not_lt.mpr printable), inductionHypothesis]
      rfl
  | @escaped byte denoted pieces text escape _ inductionHypothesis =>
      have notUnit : byte ≠ 0x75 := by
        rintro rfl
        have none : simpleEscape 0x75 = none := by decide
        rw [none] at escape
        cases escape
      rw [List.cons_append, List.cons_append]
      unfold readPieces
      simp [notUnit, escape, inductionHypothesis]
  | unicode hex _ inductionHypothesis =>
      simp [readPieces, hex, inductionHypothesis]

/-- A string of the grammar is read back. -/
theorem StringText.read {bytes text : List UInt8}
    (written : StringText bytes text) (rest : List UInt8) :
    readString (text ++ rest) = some (bytes, rest) := by
  cases written with
  | quoted chars => simp [readString, expect, chars.read]

/-- As a value, too. -/
theorem StringText.readValue {bytes text : List UInt8} (fuel : Nat)
    (written : StringText bytes text) (rest : List UInt8) :
    readValue (fuel + 1) (text ++ rest) = some (.string bytes, rest) := by
  have read := written.read rest
  cases written with
  | quoted chars =>
      rw [List.cons_append] at read ⊢
      rw [Json.readValue, if_pos rfl, read]
      rfl

/-- The last member of an object. -/
theorem readMembers_last {fuel : Nat}
    {text name behind ahead after rest : List UInt8} {value : Value}
    (readsName : readString (skipSpace text) = some (name, behind))
    (colon : skipSpace behind = 0x3A :: ahead)
    (readsValue : readValue fuel (skipSpace ahead) = some (value, after))
    (closing : skipSpace after = 0x7D :: rest) :
    readMembers (fuel + 1) text = some ([(name, value)], rest) := by
  simp [readMembers, readsName, colon, expect, readsValue, closing]

/-- A member that another follows. -/
theorem readMembers_more {fuel : Nat}
    {text name behind ahead after later rest : List UInt8} {value : Value}
    {members : List (List UInt8 × Value)}
    (readsName : readString (skipSpace text) = some (name, behind))
    (colon : skipSpace behind = 0x3A :: ahead)
    (readsValue : readValue fuel (skipSpace ahead) = some (value, after))
    (comma : skipSpace after = 0x2C :: later)
    (readsRest : readMembers fuel later = some (members, rest)) :
    readMembers (fuel + 1) text = some ((name, value) :: members, rest) := by
  simp [readMembers, readsName, colon, expect, readsValue, comma, readsRest]

/-- An object with members. -/
theorem readValue_object {fuel : Nat} {first : UInt8}
    {text later rest : List UInt8} {members : List (List UInt8 × Value)}
    (inside : skipSpace text = first :: later) (nonempty : first ≠ 0x7D)
    (found : readMembers fuel text = some (members, rest)) :
    readValue (fuel + 1) (0x7B :: text) = some (.object members, rest) := by
  simp [readValue, inside, expect, nonempty.symm, found]

/-- The last element of an array. -/
theorem readElements_last {fuel : Nat} {text after rest : List UInt8}
    {value : Value}
    (readsValue : readValue fuel (skipSpace text) = some (value, after))
    (closing : skipSpace after = 0x5D :: rest) :
    readElements (fuel + 1) text = some ([value], rest) := by
  simp [readElements, readsValue, closing]

/-- An element that another follows. -/
theorem readElements_more {fuel : Nat} {text after later rest : List UInt8}
    {value : Value} {values : List Value}
    (readsValue : readValue fuel (skipSpace text) = some (value, after))
    (comma : skipSpace after = 0x2C :: later)
    (readsRest : readElements fuel later = some (values, rest)) :
    readElements (fuel + 1) text = some (value :: values, rest) := by
  simp [readElements, readsValue, comma, readsRest]

/-- An array with elements. -/
theorem readValue_array {fuel : Nat} {first : UInt8}
    {text later rest : List UInt8} {elements : List Value}
    (inside : skipSpace text = first :: later) (nonempty : first ≠ 0x5D)
    (found : readElements fuel text = some (elements, rest)) :
    readValue (fuel + 1) (0x5B :: text) = some (.array elements, rest) := by
  simp [readValue, inside, expect, nonempty.symm, found]

/-- An array without any. -/
theorem readValue_emptyArray {text rest : List UInt8} (fuel : Nat)
    (closing : skipSpace text = 0x5D :: rest) :
    readValue (fuel + 1) (0x5B :: text) = some (.array [], rest) := by
  simp [readValue, closing, expect]

end Json
