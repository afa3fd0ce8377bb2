/-
Module: DuckPass.Proofs.JsonExport
Purpose: A JSON export is a document, in UTF-8, that denotes one object for
  each entry, and a reader gets the fields back as they were.
Trusted boundary: none
Main exports: Utf8Text, jsonObject, writeJson_eq, readValue_jsonObjectText,
  json_export_lossless, json_export_lossless_two
-/
import DuckPass.Core.DesktopClient
import DuckPass.Core.ExportCommand
import DuckPass.Lib.JsonReader
import Mathlib.Tactic.IntervalCases

namespace DuckPass

/-! ## UTF-8 -/

/-- A sequence of two, three or four bytes. -/
inductive WideChar : SecureBytes → Prop where
  | two {first second : UInt8}
      (lead : 0xC2 ≤ first ∧ first ≤ 0xDF)
      (tail : isContinuation second = true) : WideChar [first, second]
  | three {first second third : UInt8}
      (lead : 0xE0 ≤ first ∧ first ≤ 0xEF)
      (next : isSecondOfThree first second = true)
      (tail : isContinuation third = true) : WideChar [first, second, third]
  | four {first second third fourth : UInt8}
      (lead : 0xF0 ≤ first ∧ first ≤ 0xF4)
      (next : isSecondOfFour first second = true)
      (tail : isContinuation third = true)
      (last : isContinuation fourth = true) :
      WideChar [first, second, third, fourth]

/-- A text of ASCII characters and longer sequences. -/
inductive Utf8Text : SecureBytes → Prop where
  | nil : Utf8Text []
  | ascii {first : UInt8} {rest : SecureBytes} (small : first < 0x80)
      (text : Utf8Text rest) : Utf8Text (first :: rest)
  | wide {sequence rest : SecureBytes} (char : WideChar sequence)
      (text : Utf8Text rest) : Utf8Text (sequence ++ rest)

/-- An ASCII byte in front does not matter. -/
theorem validUtf8_ascii {first : UInt8} (small : first < 0x80)
    (rest : SecureBytes) : validUtf8 (first :: rest) = validUtf8 rest := by
  match rest with
  | [] => simp [validUtf8, small]
  | [_] => simp [validUtf8, small]
  | [_, _] => simp [validUtf8, small]
  | _ :: _ :: _ :: _ => simp [validUtf8, small]

/-- Nor does a whole wide character. -/
theorem validUtf8_wide {sequence : SecureBytes} (char : WideChar sequence)
    (rest : SecureBytes) : validUtf8 (sequence ++ rest) = validUtf8 rest := by
  cases char with
  | @two first second lead tail =>
      have wide : ¬ first < 0x80 := by
        have := lead.1
        grind
      match rest with
      | [] => simp [validUtf8, lead, tail, wide]
      | [_] => simp [validUtf8, lead, tail, wide]
      | _ :: _ :: _ => simp [validUtf8, lead, tail, wide]
  | @three first second third lead next tail =>
      have wide : ¬ first < 0x80 := by
        have := lead.1
        grind
      have notTwo : ¬ first ≤ 0xDF := by
        have := lead.1
        grind
      match rest with
      | [] => simp [validUtf8, lead, next, tail, wide, notTwo]
      | _ :: _ => simp [validUtf8, lead, next, tail, wide, notTwo]
  | @four first second third fourth lead next tail last =>
      have wide : ¬ first < 0x80 := by
        have := lead.1
        grind
      have notTwo : ¬ first ≤ 0xDF := by
        have := lead.1
        grind
      have notThree : ¬ first ≤ 0xEF := by
        have := lead.1
        grind
      simp [validUtf8, lead, next, tail, last, wide, notTwo, notThree]

/-- A text of whole characters is valid. -/
theorem Utf8Text.valid {text : SecureBytes} (utf8 : Utf8Text text) :
    validUtf8 text = true := by
  induction utf8 with
  | nil => rfl
  | ascii small _ inductionHypothesis =>
      rw [validUtf8_ascii small, inductionHypothesis]
  | wide char _ inductionHypothesis =>
      rw [validUtf8_wide char, inductionHypothesis]

/-- A valid text is one of whole characters. -/
theorem utf8Text_of_valid {text : SecureBytes}
    (valid : validUtf8 text = true) : Utf8Text text := by
  fun_induction validUtf8 text with
  | case1 => exact .nil
  | case2 first => exact .ascii (of_decide_eq_true valid) .nil
  | case3 first second small inductionHypothesis =>
      exact .ascii small (inductionHypothesis valid)
  | case4 first second wide =>
      simp only [Bool.and_eq_true, decide_eq_true_eq] at valid
      exact .wide (.two valid.1 valid.2) .nil
  | case5 first second third small inductionHypothesis =>
      exact .ascii small (inductionHypothesis valid)
  | case6 first second third wide lead inductionHypothesis =>
      simp only [Bool.and_eq_true, decide_eq_true_eq] at valid lead
      exact .wide (.two lead valid.1) (inductionHypothesis valid.2)
  | case7 first second third wide notTwo =>
      simp only [Bool.and_eq_true, decide_eq_true_eq] at valid
      exact .wide (.three valid.1.1 valid.1.2 valid.2) .nil
  | case8 first second third fourth rest small inductionHypothesis =>
      exact .ascii small (inductionHypothesis valid)
  | case9 first second third fourth rest wide lead inductionHypothesis =>
      simp only [Bool.and_eq_true, decide_eq_true_eq] at valid lead
      exact .wide (.two lead valid.1) (inductionHypothesis valid.2)
  | case10 first second third fourth rest wide notTwo lead
      inductionHypothesis =>
      simp only [Bool.and_eq_true, decide_eq_true_eq] at valid lead
      exact .wide (.three lead valid.1.1 valid.1.2)
        (inductionHypothesis valid.2)
  | case11 first second third fourth rest wide notTwo notThree
      inductionHypothesis =>
      simp only [Bool.and_eq_true, decide_eq_true_eq] at valid
      obtain ⟨⟨⟨⟨lead, next⟩, tail⟩, last⟩, rest⟩ := valid
      exact .wide (.four lead next tail last) (inductionHypothesis rest)

/-- Two texts make one. -/
theorem Utf8Text.append {text later : SecureBytes} (utf8 : Utf8Text text)
    (laterUtf8 : Utf8Text later) : Utf8Text (text ++ later) := by
  induction utf8 with
  | nil => exact laterUtf8
  | ascii small _ inductionHypothesis => exact .ascii small inductionHypothesis
  | wide char _ inductionHypothesis =>
      rw [List.append_assoc]
      exact .wide char inductionHypothesis

def Ascii (text : SecureBytes) : Prop := ∀ byte ∈ text, byte < 0x80

instance (text : SecureBytes) : Decidable (Ascii text) :=
  List.decidableBAll (· < 0x80) text

/-- ASCII is UTF-8. -/
theorem utf8Text_ascii {text : SecureBytes} (ascii : Ascii text) :
    Utf8Text text := by
  induction text with
  | nil => exact .nil
  | cons first rest inductionHypothesis =>
      apply Utf8Text.ascii (ascii first List.mem_cons_self)
      exact inductionHypothesis fun byte member =>
        ascii byte (List.mem_cons_of_mem _ member)

/-- No byte of a longer sequence is an ASCII character. -/
theorem WideChar.large {sequence : SecureBytes} (char : WideChar sequence) :
    ∀ byte ∈ sequence, 0x80 ≤ byte := by
  have tailLarge : ∀ {byte : UInt8}, isContinuation byte = true →
      0x80 ≤ byte := by
    intro byte tail
    simp only [isContinuation, Bool.and_eq_true, decide_eq_true_eq] at tail
    exact tail.1
  have nextOfThree : ∀ {first second : UInt8},
      isSecondOfThree first second = true → 0x80 ≤ second := by
    intro first second next
    unfold isSecondOfThree isContinuation at next
    grind
  have nextOfFour : ∀ {first second : UInt8},
      isSecondOfFour first second = true → 0x80 ≤ second := by
    intro first second next
    unfold isSecondOfFour isContinuation at next
    grind
  cases char with
  | two lead tail =>
      have := tailLarge tail
      grind
  | three lead next tail =>
      have := tailLarge tail
      have := nextOfThree next
      grind
  | four lead next tail last =>
      have := tailLarge tail
      have := tailLarge last
      have := nextOfFour next
      grind

/-! ## What is to be read -/

/-- The object of an entry. -/
def jsonObject (entry : VaultEntry) : Json.Value :=
  .object [(textBytes "service", .string entry.service),
    (textBytes "username", .string entry.username),
    (textBytes "password", .string entry.password),
    (textBytes "totp_secret", .string entry.totpSecret)]

def jsonArray (vault : Vault) : Json.Value :=
  .array (vault.entries.map jsonObject)

/-! ## Strings -/

/-- The text of a string, with its quotes. -/
def jsonText (str : SecureString) : SecureBytes :=
  0x22 :: (str.flatMap jsonChar ++ [0x22])

/-- The writer appends the text of the string. -/
theorem writeJsonString_eq (os : SecureBytes) (str : SecureString) :
    writeJsonString os str = os ++ jsonText str := by
  have quote : textBytes "\"" = [0x22] := by decide
  have loop : ∀ (str : SecureString) (os : SecureBytes),
      str.foldl (fun os c => os ++ jsonChar c) os =
        os ++ str.flatMap jsonChar := by
    intro str
    induction str with
    | nil =>
        intro os
        exact (List.append_nil os).symm
    | cons c rest inductionHypothesis =>
        intro os
        rw [List.foldl_cons, inductionHypothesis, List.flatMap_cons,
          List.append_assoc]
  rw [writeJsonString, loop, quote, jsonText, List.append_assoc,
    List.append_assoc]
  rfl

/-- A digit is ASCII and is read back. -/
theorem hexDigit_facts {value : Nat} (small : value < 16) :
    Json.hexValue (hexDigit value) = some value ∧ hexDigit value < 0x80 := by
  interval_cases value <;> decide

/-- A unit of four digits is read back. -/
theorem hexUnit_byte (c : UInt8) :
    Json.hexUnit (hexDigit 0) (hexDigit 0) (hexDigit (c.toNat / 16))
      (hexDigit (c.toNat % 16)) = some c.toNat := by
  have high : c.toNat / 16 < 16 := by
    have := c.toNat_lt
    omega
  have low : c.toNat % 16 < 16 := Nat.mod_lt _ (by decide)
  have whole : c.toNat / 16 * 16 + c.toNat % 16 = c.toNat :=
    Nat.div_add_mod' _ _
  simp [Json.hexUnit, hexDigit_facts, high, low, whole]

/-- The bytes that have an escape of their own. -/
def HasEscape (c : UInt8) : Prop :=
  c = 0x22 ∨ c = 0x5C ∨ c = 0x08 ∨ c = 0x0C ∨ c = 0x0A ∨ c = 0x0D ∨ c = 0x09

/-- A character with a short escape of its own. -/
theorem jsonChar_escape {c : UInt8} (special : HasEscape c) :
    ∃ byte, byte < 0x80 ∧ Json.simpleEscape byte = some c ∧
      jsonChar c = [0x5C, byte] := by
  rcases special with rfl | rfl | rfl | rfl | rfl | rfl | rfl
  · exact ⟨0x22, by decide⟩
  · exact ⟨0x5C, by decide⟩
  · exact ⟨0x62, by decide⟩
  · exact ⟨0x66, by decide⟩
  · exact ⟨0x6E, by decide⟩
  · exact ⟨0x72, by decide⟩
  · exact ⟨0x74, by decide⟩

/-- A character without one. -/
theorem jsonChar_other {c : UInt8} (plain : ¬ HasEscape c) :
    jsonChar c = if c < 0x20 then unicodeEscape c else [c] := by
  simp only [HasEscape, not_or] at plain
  simp only [jsonChar, plain, if_false]

/-- What is written for one byte is one part of a string, which denotes the
byte. -/
theorem chars_jsonChar (c : UInt8) : ∃ piece : Json.Piece,
    piece.Writes c ∧ ∀ {pieces : List Json.Piece} {text : SecureBytes},
      Json.Chars pieces text →
        Json.Chars (piece :: pieces) (jsonChar c ++ text) := by
  by_cases special : HasEscape c
  · obtain ⟨byte, _, escape, written⟩ := jsonChar_escape special
    refine ⟨.byte c, rfl, ?_⟩
    intro pieces text rest
    rw [written]
    exact .escaped escape rest
  by_cases control : c < 0x20
  · have small : c.toNat < 0x80 := by
      have := UInt8.lt_iff_toNat_lt.mp control
      simp at this
      omega
    refine ⟨.unit c.toNat, ⟨small, UInt8.ofNat_toNat⟩, ?_⟩
    intro pieces text rest
    have start : textBytes "\\u" = [0x5C, 0x75] := by decide
    rw [jsonChar_other special, if_pos control, unicodeEscape, start]
    exact .unicode (hexUnit_byte c) rest
  · refine ⟨.byte c, rfl, ?_⟩
    intro pieces text rest
    rw [jsonChar_other special, if_neg control]
    simp only [HasEscape, not_or] at special
    exact .unescaped (UInt8.not_lt.mp control) special.1 special.2.1 rest

/-- The text of a string denotes the string. -/
theorem jsonText_denotes (str : SecureString) :
    Json.StringText str (jsonText str) := by
  have parts : ∃ pieces : List Json.Piece,
      List.Forall₂ Json.Piece.Writes pieces str ∧
        Json.Chars pieces (str.flatMap jsonChar) := by
    induction str with
    | nil => exact ⟨[], .nil, .nil⟩
    | cons c rest inductionHypothesis =>
        obtain ⟨pieces, writes, chars⟩ := inductionHypothesis
        obtain ⟨piece, first, reads⟩ := chars_jsonChar c
        exact ⟨piece :: pieces, .cons first writes, reads chars⟩
  obtain ⟨pieces, writes, chars⟩ := parts
  have quoted := Json.StringText.quoted chars
  rw [Json.decode_writes writes] at quoted
  exact quoted

/-- ASCII is written in ASCII. -/
theorem jsonChar_ascii {c : UInt8} (ascii : c < 0x80) :
    Ascii (jsonChar c) := by
  unfold Ascii
  by_cases special : HasEscape c
  · obtain ⟨byte, small, _, written⟩ := jsonChar_escape special
    rw [written]
    grind
  rw [jsonChar_other special]
  split
  · next control =>
      have start : textBytes "\\u" = [0x5C, 0x75] := by decide
      have high := (hexDigit_facts (show c.toNat / 16 < 16 by
        have := c.toNat_lt
        omega)).2
      have low := (hexDigit_facts (show c.toNat % 16 < 16 from
        Nat.mod_lt _ (by decide))).2
      have zero := (hexDigit_facts (show 0 < 16 by decide)).2
      rw [unicodeEscape, start]
      grind
  · grind

/-- A byte past ASCII stands for itself. -/
theorem jsonChar_large {c : UInt8} (large : 0x80 ≤ c) : jsonChar c = [c] := by
  have plain : ¬ HasEscape c := by
    unfold HasEscape
    grind
  have notControl : ¬ c < 0x20 := by grind
  rw [jsonChar_other plain, if_neg notControl]

/-- Escaping does not break a character. -/
theorem jsonText_utf8 {str : SecureString} (valid : validUtf8 str = true) :
    Utf8Text (jsonText str) := by
  have inside : Utf8Text (str.flatMap jsonChar) := by
    induction utf8Text_of_valid valid with
    | nil => exact .nil
    | ascii small _ inductionHypothesis =>
        rw [List.flatMap_cons]
        rw [validUtf8_ascii small] at valid
        exact (utf8Text_ascii (jsonChar_ascii small)).append
          (inductionHypothesis valid)
    | @wide sequence rest char _ inductionHypothesis =>
        have same : sequence.flatMap jsonChar = sequence := by
          rw [List.flatMap_congr fun byte member =>
            jsonChar_large (char.large byte member)]
          exact List.flatMap_singleton' sequence
        rw [validUtf8_wide char] at valid
        rw [List.flatMap_append, same]
        exact .wide char (inductionHypothesis valid)
  apply Utf8Text.ascii (by decide)
  exact inside.append (.ascii (by decide) .nil)

/-! ## The document -/

/-- A member behind its indentation. -/
def memberText (name : SecureBytes) (field : SecureString) : SecureBytes :=
  textBytes "    " ++ (jsonText name ++ (textBytes ": " ++ jsonText field))

/-- The object of an entry from its indentation on. -/
def objectText (entry : VaultEntry) : SecureBytes :=
  textBytes "  \x7b\n" ++ (memberText (textBytes "service") entry.service ++
    (textBytes ",\n" ++ (memberText (textBytes "username") entry.username ++
      (textBytes ",\n" ++ (memberText (textBytes "password") entry.password ++
        (textBytes ",\n" ++
          (memberText (textBytes "totp_secret") entry.totpSecret ++
            textBytes "\n  \x7d")))))))

/-- The objects with a comma behind each but the last. -/
def objectsText : List VaultEntry → SecureBytes
  | [] => []
  | [entry] => objectText entry ++ textBytes "\n"
  | entry :: next :: rest =>
      objectText entry ++ (textBytes ",\n" ++ objectsText (next :: rest))

/-- The writer appends the object of the entry. -/
theorem writeJsonEntry_eq (size i : Nat) (os : SecureBytes)
    (entry : VaultEntry) :
    writeJsonEntry size os (entry, i) =
      os ++ (objectText entry ++
        if i < size - 1 then textBytes ",\n" else textBytes "\n") := by
  have service : textBytes "    \"service\": " =
      textBytes "    " ++
        (jsonText (textBytes "service") ++ textBytes ": ") := by
    decide
  have username : textBytes "    \"username\": " =
      textBytes "    " ++
        (jsonText (textBytes "username") ++ textBytes ": ") := by
    decide
  have password : textBytes "    \"password\": " =
      textBytes "    " ++
        (jsonText (textBytes "password") ++ textBytes ": ") := by
    decide
  have totpSecret : textBytes "    \"totp_secret\": " =
      textBytes "    " ++
        (jsonText (textBytes "totp_secret") ++ textBytes ": ") := by
    decide
  have closing :
      textBytes "\n  \x7d" = textBytes "\n" ++ textBytes "  \x7d" := by
    decide
  have comma : textBytes ",\n" = textBytes "," ++ textBytes "\n" := by decide
  simp only [writeJsonEntry, writeJsonString_eq, service, username, password,
    totpSecret, objectText, memberText, closing, List.append_assoc]
  split
  · simp only [comma, List.append_assoc]
  · simp only [List.append_assoc]

/-- The document is the array of the objects. -/
theorem writeJson_eq (vault : Vault) :
    writeJson [] vault =
      textBytes "[\n" ++ (objectsText vault.entries ++ textBytes "]") := by
  have objects : ∀ (entries : List VaultEntry) (i : Nat) (os : SecureBytes),
      (entries.zipIdx i).foldl (writeJsonEntry (i + entries.length)) os =
        os ++ objectsText entries := by
    intro entries
    induction entries with
    | nil =>
        intro i os
        exact (List.append_nil os).symm
    | cons entry rest inductionHypothesis =>
        intro i os
        rw [List.zipIdx_cons, List.foldl_cons, List.length_cons,
          Nat.add_comm rest.length 1, ← Nat.add_assoc, inductionHypothesis,
          writeJsonEntry_eq]
        cases rest with
        | nil => simp [objectsText]
        | cons next rest =>
            have notLast : i < i + 1 + (next :: rest).length - 1 := by
              rw [List.length_cons]
              omega
            rw [if_pos notLast, objectsText]
            simp only [List.append_assoc]
  have whole := objects vault.entries 0 ([] ++ textBytes "[\n")
  rw [Nat.zero_add] at whole
  rw [writeJson, whole, List.nil_append, List.append_assoc]

/-! ## What the reader makes of it -/

/-- A string does not begin with white space. -/
theorem skipSpace_jsonText {blank : SecureBytes} (isBlank : Json.Space blank)
    (str : SecureString) (rest : SecureBytes) :
    Json.skipSpace (blank ++ (jsonText str ++ rest)) = jsonText str ++ rest :=
  Json.skipSpace_append isBlank (by decide)

/-- Nor does a member. -/
theorem skipSpace_memberText {blank : SecureBytes}
    (isBlank : Json.Space blank) (name : SecureBytes) (field : SecureString)
    (after : SecureBytes) :
    Json.skipSpace (blank ++ (memberText name field ++ after)) =
      jsonText name ++ 0x3A :: ([0x20] ++ (jsonText field ++ after)) := by
  have indentation : Json.Space (textBytes "    ") := by decide
  have colon : textBytes ": " = [0x3A, 0x20] := by decide
  have text : blank ++ (memberText name field ++ after) =
      (blank ++ textBytes "    ") ++ (jsonText name ++
        (textBytes ": " ++ (jsonText field ++ after))) := by
    simp only [memberText, List.append_assoc]
  rw [text, skipSpace_jsonText (isBlank.append indentation), colon]
  rfl

/-- The name of a member is read back. -/
theorem readString_memberText {blank : SecureBytes}
    (isBlank : Json.Space blank) (name : SecureBytes) (field : SecureString)
    (after : SecureBytes) :
    Json.readString (Json.skipSpace (blank ++ (memberText name field ++
      after))) =
      some (name, 0x3A :: ([0x20] ++ (jsonText field ++ after))) := by
  rw [skipSpace_memberText isBlank, (jsonText_denotes name).read]

/-- The field of a member is read back. -/
theorem readValue_field (fuel : Nat) (field : SecureString)
    (after : SecureBytes) :
    Json.readValue (fuel + 1)
      (Json.skipSpace ([0x20] ++ (jsonText field ++ after))) =
      some (.string field, after) := by
  have isBlank : Json.Space [0x20] := by decide
  rw [skipSpace_jsonText isBlank]
  exact (jsonText_denotes field).readValue fuel after

/-- The last member, behind which the object ends. -/
theorem readMembers_memberText_last {fuel : Nat} {blank : SecureBytes}
    (isBlank : Json.Space blank) (name : SecureBytes) (field : SecureString)
    {after rest : SecureBytes}
    (closing : Json.skipSpace after = 0x7D :: rest) :
    Json.readMembers (fuel + 2) (blank ++ (memberText name field ++ after)) =
      some ([(name, .string field)], rest) := by
  apply Json.readMembers_last (readString_memberText isBlank name field after)
  · exact List.dropWhile_cons_of_neg (by decide)
  · exact readValue_field fuel field after
  · exact closing

/-- A member with a comma and a line feed behind it. -/
theorem readMembers_memberText_more {fuel : Nat} {blank : SecureBytes}
    (isBlank : Json.Space blank) (name : SecureBytes) (field : SecureString)
    {later rest : SecureBytes} {members : List (List UInt8 × Json.Value)}
    (found : Json.readMembers (fuel + 1) ([0x0A] ++ later) =
      some (members, rest)) :
    Json.readMembers (fuel + 2)
      (blank ++ (memberText name field ++ (textBytes ",\n" ++ later))) =
      some ((name, .string field) :: members, rest) := by
  have comma : textBytes ",\n" = [0x2C, 0x0A] := by decide
  rw [comma]
  apply Json.readMembers_more (readString_memberText isBlank name field _)
  · exact List.dropWhile_cons_of_neg (by decide)
  · exact readValue_field fuel field _
  · exact List.dropWhile_cons_of_neg (by decide)
  · exact found

/-- What stands behind the opening brace of an object. -/
def insideText (entry : VaultEntry) (after : SecureBytes) : SecureBytes :=
  memberText (textBytes "service") entry.service ++ (textBytes ",\n" ++
    (memberText (textBytes "username") entry.username ++ (textBytes ",\n" ++
      (memberText (textBytes "password") entry.password ++ (textBytes ",\n" ++
        (memberText (textBytes "totp_secret") entry.totpSecret ++
          ([0x0A, 0x20, 0x20] ++ 0x7D :: after)))))))

/-- Nor does an object. -/
theorem skipSpace_objectText {blank : SecureBytes}
    (isBlank : Json.Space blank) (entry : VaultEntry) (after : SecureBytes) :
    Json.skipSpace (blank ++ (objectText entry ++ after)) =
      0x7B :: ([0x0A] ++ insideText entry after) := by
  have spaces : Json.Space [0x20, 0x20] := by decide
  have opening : textBytes "  \x7b\n" = [0x20, 0x20] ++ 0x7B :: [0x0A] := by
    decide
  have closing : textBytes "\n  \x7d" = [0x0A, 0x20, 0x20] ++ [0x7D] := by
    decide
  have text : blank ++ (objectText entry ++ after) =
      (blank ++ [0x20, 0x20]) ++ 0x7B ::
        ([0x0A] ++ insideText entry after) := by
    simp [objectText, insideText, opening, closing]
  rw [text, Json.skipSpace_append (isBlank.append spaces) (by decide)]

/-- An object is read as the one of its entry. -/
theorem readValue_objectText (fuel : Nat) {blank : SecureBytes}
    (isBlank : Json.Space blank) (entry : VaultEntry) (after : SecureBytes) :
    Json.readValue (fuel + 6)
      (Json.skipSpace (blank ++ (objectText entry ++ after))) =
      some (jsonObject entry, after) := by
  have lineFeed : Json.Space [0x0A] := by decide
  rw [skipSpace_objectText isBlank]
  apply Json.readValue_object (skipSpace_memberText lineFeed _ _ _) (by decide)
  apply readMembers_memberText_more lineFeed
  apply readMembers_memberText_more lineFeed
  apply readMembers_memberText_more lineFeed
  apply readMembers_memberText_last lineFeed
  exact Json.skipSpace_append (by decide) (by decide)

/-- The objects up to the closing bracket. -/
theorem readElements_objectsText (entry : VaultEntry)
    (rest : List VaultEntry) (fuel : Nat) {blank : SecureBytes}
    (isBlank : Json.Space blank) :
    Json.readElements (fuel + (rest.length + 7))
      (blank ++ (objectsText (entry :: rest) ++ [0x5D])) =
      some ((entry :: rest).map jsonObject, []) := by
  have lineFeed : textBytes "\n" = [0x0A] := by decide
  have comma : textBytes ",\n" = [0x2C, 0x0A] := by decide
  induction rest generalizing entry blank with
  | nil =>
      rw [objectsText, lineFeed, List.append_assoc]
      apply Json.readElements_last (readValue_objectText fuel isBlank entry _)
      exact Json.skipSpace_append (by decide) (by decide)
  | cons next rest inductionHypothesis =>
      have text : blank ++ (objectsText (entry :: next :: rest) ++ [0x5D]) =
          blank ++ (objectText entry ++ (0x2C :: ([0x0A] ++
            (objectsText (next :: rest) ++ [0x5D])))) := by
        simp [objectsText, comma]
      have blankNext : Json.Space [0x0A] := by decide
      rw [text]
      apply Json.readElements_more
        (readValue_objectText (fuel + (rest.length + 1)) isBlank entry _)
      · exact List.dropWhile_cons_of_neg (by decide)
      · exact inductionHypothesis next blankNext

/-- Each object takes up more than one byte. -/
theorem length_objectsText (entries : List VaultEntry) :
    10 * entries.length ≤ (objectsText entries).length := by
  have object : ∀ entry : VaultEntry, 10 ≤ (objectText entry).length := by
    intro entry
    have opening : (textBytes "  \x7b\n").length = 4 := by decide
    have comma : (textBytes ",\n").length = 2 := by decide
    simp only [objectText, List.length_append, opening, comma]
    omega
  fun_induction objectsText entries with
  | case1 => simp
  | case2 entry =>
      have := object entry
      simp
      omega
  | case3 entry next rest inductionHypothesis =>
      have := object entry
      simp at inductionHypothesis ⊢
      omega

/-- The array from its opening bracket on. -/
theorem readValue_objectsText (entries : List VaultEntry) (fuel : Nat) :
    Json.readValue (fuel + (7 * entries.length + 1))
      (0x5B :: ([0x0A] ++ (objectsText entries ++ [0x5D]))) =
      some (.array (entries.map jsonObject), []) := by
  have lineFeed : Json.Space [0x0A] := by decide
  cases entries with
  | nil =>
      apply Json.readValue_emptyArray
      exact Json.skipSpace_append lineFeed (by decide)
  | cons entry rest =>
      have starts : ∃ later, Json.skipSpace ([0x0A] ++
          (objectsText (entry :: rest) ++ [0x5D])) = 0x7B :: later := by
        cases rest with
        | nil =>
            rw [objectsText, List.append_assoc]
            exact ⟨_, skipSpace_objectText lineFeed _ _⟩
        | cons next rest =>
            rw [objectsText, List.append_assoc]
            exact ⟨_, skipSpace_objectText lineFeed _ _⟩
      obtain ⟨later, starts⟩ := starts
      have more : fuel + 7 * (entry :: rest).length =
          fuel + 6 * rest.length + (rest.length + 7) := by
        rw [List.length_cons]
        omega
      rw [← Nat.add_assoc, more]
      apply Json.readValue_array starts (by decide)
      exact readElements_objectsText entry rest _ lineFeed

/-- The parser reads the whole array back. -/
theorem parse_writeJson (vault : Vault) :
    Json.parse (writeJson [] vault) = some (jsonArray vault) := by
  have bracket : textBytes "]" = [0x5D] := by decide
  have opening : textBytes "[\n" = 0x5B :: [0x0A] := by decide
  have text : writeJson [] vault =
      0x5B :: ([0x0A] ++ (objectsText vault.entries ++ [0x5D])) := by
    rw [writeJson_eq, opening, bracket]
    rfl
  have unspaced : Json.skipSpace (writeJson [] vault) = writeJson [] vault := by
    rw [text]
    exact List.dropWhile_cons_of_neg (by decide)
  -- One byte of the text is enough fuel for one object.
  obtain ⟨fuel, enough⟩ : ∃ fuel, (writeJson [] vault).length + 1 =
      fuel + (7 * vault.entries.length + 1) := by
    apply Nat.exists_eq_add_of_le'
    have long := length_objectsText vault.entries
    simp only [text, List.length_cons, List.length_append]
    omega
  rw [Json.parse, unspaced, enough, text, readValue_objectsText]
  rfl

/-! ## The encoding -/

/-- Every field of the entry is valid UTF-8. -/
structure VaultEntry.Utf8Fields (entry : VaultEntry) : Prop where
  service : validUtf8 entry.service = true
  username : validUtf8 entry.username = true
  password : validUtf8 entry.password = true
  totpSecret : validUtf8 entry.totpSecret = true

/-- A member of valid texts is one. -/
theorem memberText_utf8 {name : SecureBytes} {field : SecureString}
    (nameValid : validUtf8 name = true) (valid : validUtf8 field = true) :
    Utf8Text (memberText name field) := by
  apply Utf8Text.append (utf8Text_ascii (by decide))
  apply (jsonText_utf8 nameValid).append
  apply Utf8Text.append (utf8Text_ascii (by decide))
  exact jsonText_utf8 valid

/-- So is an object. -/
theorem objectText_utf8 {entry : VaultEntry} (utf8 : entry.Utf8Fields) :
    Utf8Text (objectText entry) := by
  have comma : Utf8Text (textBytes ",\n") := utf8Text_ascii (by decide)
  apply Utf8Text.append (utf8Text_ascii (by decide))
  apply (memberText_utf8 (by decide) utf8.service).append
  apply comma.append
  apply (memberText_utf8 (by decide) utf8.username).append
  apply comma.append
  apply (memberText_utf8 (by decide) utf8.password).append
  apply comma.append
  apply (memberText_utf8 (by decide) utf8.totpSecret).append
  exact utf8Text_ascii (by decide)

/-- So are objects in a row. -/
theorem objectsText_utf8 {entries : List VaultEntry}
    (utf8 : ∀ entry ∈ entries, entry.Utf8Fields) :
    Utf8Text (objectsText entries) := by
  fun_induction objectsText entries with
  | case1 => exact .nil
  | case2 entry =>
      apply (objectText_utf8 (utf8 entry List.mem_cons_self)).append
      exact utf8Text_ascii (by decide)
  | case3 entry next rest inductionHypothesis =>
      apply (objectText_utf8 (utf8 entry List.mem_cons_self)).append
      apply Utf8Text.append (utf8Text_ascii (by decide))
      apply inductionHypothesis
      exact fun entry member => utf8 entry (List.mem_cons_of_mem _ member)

/-- So is the document. -/
theorem writeJson_utf8 {vault : Vault}
    (utf8 : ∀ entry ∈ vault.entries, entry.Utf8Fields) :
    validUtf8 (writeJson [] vault) = true := by
  rw [writeJson_eq]
  apply Utf8Text.valid
  apply Utf8Text.append (utf8Text_ascii (by decide))
  apply (objectsText_utf8 utf8).append
  exact utf8Text_ascii (by decide)

/-! ## Main result -/

/-- For every vault whose fields are valid UTF-8: the export is a JSON text in
UTF-8, and what it denotes and a reader returns is an array with one object for
each entry in vault order, whose four members hold the fields byte for byte. -/
theorem json_export_lossless (vault : Vault)
    (utf8 : ∀ entry ∈ vault.entries, entry.Utf8Fields) :
    validUtf8 (writeJson [] vault) = true ∧
      Json.Document (jsonArray vault) (writeJson [] vault) ∧
      Json.parse (writeJson [] vault) = some (jsonArray vault) :=
  ⟨writeJson_utf8 utf8, Json.parse_sound (parse_writeJson vault),
    parse_writeJson vault⟩

/-- A quote, a backslash, control characters and a character of four bytes. -/
def awkwardVault : Vault where
  entries := [
    ⟨textBytes "a\"b\\", [0x00, 0x1F, 0x0A], [0xF0, 0x9F, 0xA6, 0x86], [], 0⟩,
    ⟨textBytes "c", [], [0xC3, 0xA9], textBytes "\t", 7⟩]
  distinct := by
    unfold KeyedList.Distinct
    decide

theorem json_export_lossless_two :
    (∀ entry ∈ awkwardVault.entries, entry.Utf8Fields) ∧
      validUtf8 (writeJson [] awkwardVault) = true ∧
      Json.Document (jsonArray awkwardVault) (writeJson [] awkwardVault) ∧
      Json.parse (writeJson [] awkwardVault) =
        some (jsonArray awkwardVault) := by
  have utf8 : ∀ entry ∈ awkwardVault.entries, entry.Utf8Fields := by
    intro entry member
    simp only [awkwardVault, List.mem_cons, List.not_mem_nil, or_false]
      at member
    rcases member with rfl | rfl
    · exact ⟨by decide, by decide, by decide, by decide⟩
    · exact ⟨by decide, by decide, by decide, by decide⟩
  exact ⟨utf8, json_export_lossless awkwardVault utf8⟩

end DuckPass
