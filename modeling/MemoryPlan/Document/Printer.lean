import MemoryPlan.Document
import MemoryPlan.Text.Numeral
/-!
# Writing documents

`Document.write` gives the JSON text of a document, on one line and without gaps.
-/

namespace MemoryPlan.Document

/-- A control character as a numbered escape of four digits. -/
def numberedEscape (c : Char) : String :=
  let digits := Text.hexadecimal c.toNat
  "\\u" ++ String.ofList (List.replicate (4 - digits.length) '0') ++ digits

/-- One character inside quotes. -/
def writeChar (c : Char) : String :=
  if c == '"' then "\\\""
  else if c == '\\' then "\\\\"
  else if c.toNat < 0x20 then numberedEscape c
  else c.toString

/-- A quoted text. -/
def writeText (s : String) : String :=
  "\"" ++ String.join (s.toList.map writeChar) ++ "\""

mutual

/-- The text of a document. -/
def write : Document → String
  | null => "null"
  | bool value => if value then "true" else "false"
  | integer value => toString value
  | fraction written => written
  | text value => writeText value
  | list items => "[" ++ String.intercalate "," (writeItems items) ++ "]"
  | fields entries => "\x7b" ++ String.intercalate "," (writeEntries entries) ++ "\x7d"

/-- The texts of the items of a list. -/
def writeItems : List Document → List String
  | [] => []
  | item :: rest => write item :: writeItems rest

/-- The texts of the entries of a map. -/
def writeEntries : List (String × Document) → List String
  | [] => []
  | (name, value) :: rest => (writeText name ++ ":" ++ write value) :: writeEntries rest

end

end MemoryPlan.Document
