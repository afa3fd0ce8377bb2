/-
Module: DuckPass.Core.ExportCommand
Purpose: The two writers of `export_command.cpp`.  A stream is the bytes
  written to it so far.
Trusted boundary: none
Main exports: writeCsvField, writeCsv, writeJsonString, writeJson
-/
import DuckPass.Core.Vault

namespace DuckPass

/-! ## CSV -/

/-- The first characters that a spreadsheet would take for a formula. -/
def startsFormula (first : UInt8) : Bool :=
  first == 0x3D || first == 0x2B || first == 0x2D || first == 0x40 ||
    first == 0x09 || first == 0x0D

/-- `write_csv_field`. -/
def writeCsvField (os : SecureBytes) (field : SecureString) : SecureBytes :=
  let os := os ++ textBytes "\""
  let os :=
    match field with
    | [] => os
    | first :: _ => if startsFormula first then os ++ textBytes "'" else os
  let os := field.foldl
    (fun os c => if c = 0x22 then os ++ textBytes "\"\"" else os ++ [c]) os
  os ++ textBytes "\""

/-- One round of the loop of `write_csv`. -/
def writeCsvEntry (os : SecureBytes) (entry : VaultEntry) : SecureBytes :=
  let os := writeCsvField os entry.service
  let os := os ++ textBytes ","
  let os := writeCsvField os entry.username
  let os := os ++ textBytes ","
  let os := writeCsvField os entry.password
  let os := os ++ textBytes ","
  let os := writeCsvField os entry.totpSecret
  os ++ textBytes "\n"

/-- `write_csv`. -/
def writeCsv (os : SecureBytes) (vault : Vault) : SecureBytes :=
  vault.entries.foldl writeCsvEntry
    (os ++ textBytes "service,username,password,totp_secret\n")

/-! ## JSON -/

/-- A hexadecimal digit as `%x` prints it. -/
def hexDigit (value : Nat) : UInt8 :=
  if value < 10 then UInt8.ofNat (0x30 + value)
  else UInt8.ofNat (0x61 + (value - 10))

/-- What `snprintf` makes of `\u%04x` and a byte. -/
def unicodeEscape (c : UInt8) : SecureBytes :=
  textBytes "\\u" ++
    [hexDigit 0, hexDigit 0, hexDigit (c.toNat / 16), hexDigit (c.toNat % 16)]

/-- One round of the loop of `write_json_string`. -/
def jsonChar (c : UInt8) : SecureBytes :=
  if c = 0x22 then textBytes "\\\""
  else if c = 0x5C then textBytes "\\\\"
  else if c = 0x08 then textBytes "\\b"
  else if c = 0x0C then textBytes "\\f"
  else if c = 0x0A then textBytes "\\n"
  else if c = 0x0D then textBytes "\\r"
  else if c = 0x09 then textBytes "\\t"
  else if c < 0x20 then unicodeEscape c
  else [c]

/-- `write_json_string`. -/
def writeJsonString (os : SecureBytes) (str : SecureString) : SecureBytes :=
  str.foldl (fun os c => os ++ jsonChar c) (os ++ textBytes "\"") ++
    textBytes "\""

/-- One round of the loop of `write_json`.  `size - 1` is a `size_t`; the loop
body runs only if there is an entry. -/
def writeJsonEntry (size : Nat) (os : SecureBytes)
    (indexed : VaultEntry × Nat) : SecureBytes :=
  let (entry, i) := indexed
  let os := os ++ textBytes "  \x7b\n"
  let os := os ++ textBytes "    \"service\": "
  let os := writeJsonString os entry.service
  let os := os ++ textBytes ",\n"
  let os := os ++ textBytes "    \"username\": "
  let os := writeJsonString os entry.username
  let os := os ++ textBytes ",\n"
  let os := os ++ textBytes "    \"password\": "
  let os := writeJsonString os entry.password
  let os := os ++ textBytes ",\n"
  let os := os ++ textBytes "    \"totp_secret\": "
  let os := writeJsonString os entry.totpSecret
  let os := os ++ textBytes "\n"
  let os := os ++ textBytes "  \x7d"
  let os := if i < size - 1 then os ++ textBytes "," else os
  os ++ textBytes "\n"

/-- `write_json`. -/
def writeJson (os : SecureBytes) (vault : Vault) : SecureBytes :=
  vault.entries.zipIdx.foldl (writeJsonEntry vault.entries.length)
    (os ++ textBytes "[\n") ++ textBytes "]"

end DuckPass
