/-
Module: DuckPass.Proofs.CsvExport
Purpose: A CSV export is read back as the header and one row of four cells for
  each entry, whatever the fields hold, and no cell begins like a formula.
Trusted boundary: none
Main exports: shielded, csvHeader, csvRow, writeCsv_eq, csv_export_parses
-/
import DuckPass.Core.ExportCommand
import DuckPass.Lib.Csv

namespace DuckPass

/-! ## What is to be read -/

/-- The field begins like a formula. -/
def BeginsFormula (field : SecureString) : Prop :=
  ∃ first rest, field = first :: rest ∧ startsFormula first = true

/-- The field as the export shows it: with an apostrophe in front if it begins
like a formula. -/
def shielded (field : SecureString) : SecureString :=
  match field with
  | [] => []
  | first :: rest =>
      if startsFormula first then 0x27 :: first :: rest else first :: rest

/-- The apostrophe stands exactly in front of such fields. -/
theorem shielded_eq_cons_iff (field : SecureString) :
    shielded field = 0x27 :: field ↔ BeginsFormula field := by
  cases field with
  | nil => simp [shielded, BeginsFormula]
  | cons first rest =>
      by_cases formula : startsFormula first = true
      · simp [shielded, BeginsFormula, formula]
      · simp [shielded, BeginsFormula, formula]

/-- A field that begins no formula stays. -/
theorem shielded_of_not {field : SecureString}
    (plain : ¬ BeginsFormula field) : shielded field = field := by
  cases field with
  | nil => rfl
  | cons first rest =>
      apply if_neg
      intro formula
      exact plain ⟨first, rest, rfl, formula⟩

/-- A shielded field begins none. -/
theorem shielded_safe (field : SecureString) :
    ¬ BeginsFormula (shielded field) := by
  rintro ⟨first, rest, same, formula⟩
  by_cases begins : BeginsFormula field
  · rw [(shielded_eq_cons_iff field).mpr begins] at same
    rw [← (List.cons.inj same).1] at formula
    exact absurd formula (by decide)
  · rw [shielded_of_not begins] at same
    exact begins ⟨first, rest, same, formula⟩

def csvHeader : Csv.Record :=
  [textBytes "service", textBytes "username", textBytes "password",
    textBytes "totp_secret"]

/-- The cells of an entry. -/
def csvRow (entry : VaultEntry) : Csv.Record :=
  [entry.service, entry.username, entry.password, entry.totpSecret].map
    shielded

/-! ## What is written -/

/-- The quoted text of a cell. -/
def csvCellText (field : SecureString) : SecureBytes :=
  Csv.quote :: Csv.doubled (shielded field) ++ [Csv.quote]

/-- The loop over the field doubles its quotes. -/
theorem foldl_doubled (field : SecureString) (os : SecureBytes) :
    field.foldl (fun os c =>
      if c = 0x22 then os ++ textBytes "\"\"" else os ++ [c]) os =
      os ++ Csv.doubled field := by
  induction field generalizing os with
  | nil => simp [Csv.doubled]
  | cons c rest inductionHypothesis =>
      rw [List.foldl_cons, inductionHypothesis]
      have quotes : textBytes "\"\"" = [Csv.quote, Csv.quote] := by decide
      by_cases isQuote : c = Csv.quote
      · simp [Csv.doubled, isQuote, quotes, show (0x22 : UInt8) = Csv.quote
          from rfl]
      · simp [Csv.doubled, isQuote, show (0x22 : UInt8) = Csv.quote from rfl]

/-- The writer appends the text of the cell. -/
theorem writeCsvField_eq (os : SecureBytes) (field : SecureString) :
    writeCsvField os field = os ++ csvCellText field := by
  have mark : textBytes "\"" = [Csv.quote] := by decide
  have apostrophe : textBytes "'" = [0x27] := by decide
  have single : Csv.doubled (0x27 :: field) = 0x27 :: Csv.doubled field := rfl
  unfold writeCsvField csvCellText
  dsimp only
  rw [foldl_doubled, mark]
  cases field with
  | nil => simp [shielded]
  | cons first rest =>
      by_cases formula : startsFormula first = true
      · simp [shielded, formula, apostrophe, single]
      · simp [shielded, formula]

/-- The texts of the cells of an entry. -/
def csvRowTexts (entry : VaultEntry) : List SecureBytes :=
  [entry.service, entry.username, entry.password, entry.totpSecret].map
    csvCellText

/-- And the row of an entry. -/
theorem writeCsvEntry_eq (os : SecureBytes) (entry : VaultEntry) :
    writeCsvEntry os entry = os ++ Csv.recordText (csvRowTexts entry) := by
  have comma : textBytes "," = [Csv.comma] := by decide
  have lineFeed : textBytes "\n" = [Csv.lineFeed] := by decide
  simp [writeCsvEntry, writeCsvField_eq, csvRowTexts, Csv.recordText, comma,
    lineFeed]

/-- A CSV export is a text of records. -/
theorem writeCsv_eq (os : SecureBytes) (vault : Vault) :
    writeCsv os vault =
      os ++ (csvHeader :: vault.entries.map csvRowTexts).flatMap
        Csv.recordText := by
  have header : textBytes "service,username,password,totp_secret\n" =
      Csv.recordText csvHeader := by
    decide
  have rows : ∀ (entries : List VaultEntry) (os : SecureBytes),
      entries.foldl writeCsvEntry os =
        os ++ (entries.map csvRowTexts).flatMap Csv.recordText := by
    intro entries
    induction entries with
    | nil =>
        intro os
        exact (List.append_nil os).symm
    | cons entry entries inductionHypothesis =>
        intro os
        rw [List.foldl_cons, inductionHypothesis, writeCsvEntry_eq,
          List.map_cons, List.flatMap_cons, List.append_assoc]
  rw [writeCsv, rows, header, List.flatMap_cons, List.append_assoc]

/-- The text of a cell is one that stands for the shielded field. -/
theorem csvCell_writes (field : SecureString) :
    Csv.Writes (shielded field) (csvCellText field) :=
  .quoted (shielded field)

/-- So are those of a row. -/
theorem csvRow_writes (entry : VaultEntry) :
    List.Forall₂ Csv.Writes (csvRow entry) (csvRowTexts entry) :=
  .cons (csvCell_writes _) (.cons (csvCell_writes _)
    (.cons (csvCell_writes _) (.cons (csvCell_writes _) .nil)))

/-- The header is written without quotes. -/
theorem csvHeader_writes : List.Forall₂ Csv.Writes csvHeader csvHeader := by
  apply List.forall₂_same.mpr
  have ordinary : ∀ cell ∈ csvHeader, cell.all (fun byte =>
      byte ≠ Csv.quote ∧ byte ≠ Csv.comma ∧ byte ≠ Csv.lineFeed) = true := by
    decide
  intro cell member
  apply Csv.Writes.plain
  intro byte inside
  exact of_decide_eq_true
    (List.all_eq_true.mp (ordinary cell member) byte inside)

/-! ## Main result -/

/-- For every vault, with any bytes in its fields: the export is read as the
header and one row for each entry in vault order, its cells being the fields
with an apostrophe exactly in front of those that begin like a formula; so no
cell begins like one. -/
theorem csv_export_parses (vault : Vault) :
    Csv.parse (writeCsv [] vault) =
        some (csvHeader :: vault.entries.map csvRow) ∧
      (∀ field, (BeginsFormula field → shielded field = 0x27 :: field) ∧
        (¬ BeginsFormula field → shielded field = field)) ∧
      ∀ entry ∈ vault.entries, ∀ cell ∈ csvRow entry,
        ¬ BeginsFormula cell := by
  refine ⟨?_, ?_, ?_⟩
  · rw [writeCsv_eq, List.nil_append]
    apply Csv.parse_recordTexts
    · apply List.Forall₂.cons csvHeader_writes
      rw [List.forall₂_map_left_iff, List.forall₂_map_right_iff,
        List.forall₂_same]
      exact fun entry _ => csvRow_writes entry
    · intro row member
      rcases List.mem_cons.mp member with rfl | inRows
      · exact List.cons_ne_nil _ _
      · obtain ⟨entry, _, rfl⟩ := List.mem_map.mp inRows
        exact List.cons_ne_nil _ _
  · intro field
    exact ⟨(shielded_eq_cons_iff field).mpr, shielded_of_not⟩
  · intro entry _ cell member
    obtain ⟨field, _, rfl⟩ := List.mem_map.mp member
    exact shielded_safe field

end DuckPass
