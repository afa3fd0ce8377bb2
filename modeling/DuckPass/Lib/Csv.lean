/-
Module: DuckPass.Lib.Csv
Purpose: A reader for the comma-separated records of RFC 4180, with a line feed
  between records, over arbitrary bytes.
Trusted boundary: none
Main exports: Csv.Reader, Csv.parse, Csv.Writes, Csv.recordText,
  Csv.parse_recordTexts
-/
import Mathlib.Data.List.Basic
import Mathlib.Data.List.Forall2

namespace Csv

def quote : UInt8 := 0x22
def comma : UInt8 := 0x2C
def lineFeed : UInt8 := 0x0A

abbrev Field := List UInt8
abbrev Record := List Field

/-- Where in a field the reader stands: before it, in a field without quotes,
inside the quotes, or behind a quote that closes the field unless another one
follows. -/
inductive Mode where
  | start
  | plain
  | quoted
  | closed
deriving Repr, Inhabited, DecidableEq

/-- The field, the record and the records read so far. -/
structure Reader where
  mode : Mode
  field : Field
  record : Record
  records : List Record
deriving Repr, Inhabited, DecidableEq

namespace Reader

/-- Before a field. -/
def beforeField (records : List Record) (record : Record) : Reader :=
  ⟨.start, [], record, records⟩

def endField (reader : Reader) : Reader :=
  beforeField reader.records (reader.record ++ [reader.field])

def endRecord (reader : Reader) : Reader :=
  beforeField (reader.records ++ [reader.record ++ [reader.field]]) []

/-- A byte outside quotes. -/
def stepPlain (reader : Reader) (byte : UInt8) : Option Reader :=
  if byte = comma then some reader.endField
  else if byte = lineFeed then some reader.endRecord
  else if byte = quote then none
  else some { reader with mode := .plain, field := reader.field ++ [byte] }

/-- One byte.  A quote stands at the start of a field, at its end, or twice
inside it; nothing but a separator follows the closing quote. -/
def step (reader : Reader) (byte : UInt8) : Option Reader :=
  match reader.mode with
  | .start =>
      if byte = quote then some { reader with mode := .quoted }
      else reader.stepPlain byte
  | .plain => reader.stepPlain byte
  | .quoted =>
      if byte = quote then some { reader with mode := .closed }
      else some { reader with field := reader.field ++ [byte] }
  | .closed =>
      if byte = quote then
        some { reader with mode := .quoted, field := reader.field ++ [byte] }
      else if byte = comma then some reader.endField
      else if byte = lineFeed then some reader.endRecord
      else none

def read (reader : Reader) (text : List UInt8) : Option Reader :=
  text.foldlM step reader

/-- The end of the text.  The last record may or may not have a line feed. -/
def finish (reader : Reader) : Option (List Record) :=
  match reader.mode with
  | .quoted => none
  | .start =>
      if reader.record = [] then some reader.records
      else some reader.endRecord.records
  | _ => some reader.endRecord.records

end Reader

/-- The records of a text. -/
def parse (text : List UInt8) : Option (List Record) :=
  ((Reader.beforeField [] []).read text).bind Reader.finish

/-! ## Texts of fields and records -/

/-- The bytes of a field between quotes: every quote stands twice. -/
def doubled (field : Field) : List UInt8 :=
  field.flatMap fun byte => if byte = quote then [quote, quote] else [byte]

/-- The two ways to write a field. -/
inductive Writes : Field → List UInt8 → Prop where
  | plain {field : Field}
      (ordinary : ∀ byte ∈ field,
        byte ≠ quote ∧ byte ≠ comma ∧ byte ≠ lineFeed) :
      Writes field field
  | quoted (field : Field) :
      Writes field (quote :: doubled field ++ [quote])

/-- Field texts joined to a record. -/
def recordText : List (List UInt8) → List UInt8
  | [] => [lineFeed]
  | [text] => text ++ [lineFeed]
  | text :: texts => text ++ comma :: recordText texts

namespace Reader

theorem read_append (reader : Reader) (text later : List UInt8) :
    reader.read (text ++ later) =
      (reader.read text).bind fun next => next.read later :=
  List.foldlM_append

theorem read_cons (reader : Reader) (byte : UInt8) (text : List UInt8) :
    reader.read (byte :: text) =
      (reader.step byte).bind fun next => next.read text :=
  List.foldlM_cons

/-- Ordinary bytes are collected as they are. -/
theorem read_plain {text : List UInt8}
    (ordinary : ∀ byte ∈ text,
      byte ≠ quote ∧ byte ≠ comma ∧ byte ≠ lineFeed)
    (field : Field) (record : Record) (records : List Record) :
    read ⟨.plain, field, record, records⟩ text =
      some ⟨.plain, field ++ text, record, records⟩ := by
  induction text generalizing field with
  | nil => simp [read]
  | cons byte text inductionHypothesis =>
      obtain ⟨noQuote, noComma, noLineFeed⟩ :=
        ordinary byte List.mem_cons_self
      have rest := inductionHypothesis
        (fun other member => ordinary other (List.mem_cons_of_mem _ member))
        (field ++ [byte])
      rw [read_cons]
      simp only [step, stepPlain, noQuote, noComma, noLineFeed, if_false,
        Option.bind_some, rest]
      simp

/-- Inside quotes every byte is collected, a doubled quote as one. -/
theorem read_doubled (text : Field) (field : Field) (record : Record)
    (records : List Record) :
    read ⟨.quoted, field, record, records⟩ (doubled text) =
      some ⟨.quoted, field ++ text, record, records⟩ := by
  induction text generalizing field with
  | nil => simp [read, doubled]
  | cons byte text inductionHypothesis =>
      have rest := inductionHypothesis (field ++ [byte])
      rw [doubled, List.flatMap_cons]
      change read _ (_ ++ doubled text) = _
      by_cases isQuote : byte = quote
      · subst isQuote
        simp [read_cons, step, rest]
      · simp [isQuote, read_cons, step, rest]

/-- Behind a field that was written either way, a separator ends it. -/
theorem read_writes {field : Field} {text : List UInt8}
    (writes : Writes field text) (records : List Record) (record : Record) :
    ∃ mode, (beforeField records record).read text =
        some ⟨mode, field, record, records⟩ ∧
      step ⟨mode, field, record, records⟩ comma =
        some (beforeField records (record ++ [field])) ∧
      step ⟨mode, field, record, records⟩ lineFeed =
        some (beforeField (records ++ [record ++ [field]]) []) := by
  cases writes with
  | plain ordinary =>
      cases field with
      | nil => exact ⟨.start, rfl, rfl, rfl⟩
      | cons byte rest =>
          obtain ⟨noQuote, noComma, noLineFeed⟩ :=
            ordinary byte List.mem_cons_self
          have collected := read_plain
            (fun other member => ordinary other
              (List.mem_cons_of_mem _ member)) [byte] record records
          refine ⟨.plain, ?_, rfl, rfl⟩
          rw [read_cons]
          simpa [beforeField, step, stepPlain, noQuote, noComma, noLineFeed]
            using collected
  | quoted =>
      have collected := read_doubled field [] record records
      rw [List.nil_append] at collected
      refine ⟨.closed, ?_, rfl, rfl⟩
      rw [List.cons_append, read_cons]
      change ((some (⟨.quoted, [], record, records⟩ : Reader)).bind _) = _
      rw [Option.bind_some, read_append, collected, Option.bind_some]
      rfl

/-- A whole record. -/
theorem read_recordText {fields : Record} {texts : List (List UInt8)}
    (writes : List.Forall₂ Writes fields texts) (some : fields ≠ [])
    (records : List Record) (record : Record) :
    (beforeField records record).read (recordText texts) =
      .some (beforeField (records ++ [record ++ fields]) []) := by
  induction writes generalizing record with
  | nil => exact absurd rfl some
  | @cons field text fields texts first rest inductionHypothesis =>
      obtain ⟨mode, collected, atComma, atLineFeed⟩ :=
        read_writes first records record
      cases rest with
      | nil =>
          rw [recordText, read_append, collected, Option.bind_some, read_cons,
            atLineFeed]
          rfl
      | cons second others =>
          have later := inductionHypothesis (List.cons_ne_nil _ _)
            (record ++ [field])
          rw [recordText, read_append, collected, Option.bind_some, read_cons,
            atComma, Option.bind_some, later]
          · simp
          · simp

end Reader

/-- A text of records is read as those records. -/
theorem parse_recordTexts {rows : List Record}
    {texts : List (List (List UInt8))}
    (writes : List.Forall₂ (List.Forall₂ Writes) rows texts)
    (some : ∀ row ∈ rows, row ≠ []) :
    parse (texts.flatMap recordText) = .some rows := by
  have reads : ∀ records, (Reader.beforeField records []).read
      (texts.flatMap recordText) =
        .some (.beforeField (records ++ rows) []) := by
    induction writes with
    | nil =>
        intro records
        rw [List.append_nil]
        rfl
    | @cons row rowTexts rows texts first rest inductionHypothesis =>
        intro records
        have later := inductionHypothesis
          (fun other member => some other (List.mem_cons_of_mem _ member))
          (records ++ [row])
        rw [List.flatMap_cons, Reader.read_append,
          Reader.read_recordText first (some row List.mem_cons_self),
          Option.bind_some, List.nil_append, later, List.append_assoc]
        rfl
  rw [parse, reads, Option.bind_some]
  simp [Reader.finish, Reader.beforeField]

end Csv
