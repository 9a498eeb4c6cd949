import MemoryPlan.Text.Numeral
import MemoryPlan.Text.Unprintable
/-!
# Quoted text and records

How values are shown in diagnostic texts: text in double quotes with escapes, lists in brackets, maps in
braces, and records with their field names.
-/

namespace MemoryPlan.Text

/-- One character inside double quotes. -/
def escape (c : Char) : String :=
  match c with
  | '\x00' => "\\0"
  | '\t' => "\\t"
  | '\r' => "\\r"
  | '\n' => "\\n"
  | '"' => "\\\""
  | '\\' => "\\\\"
  | c => if isUnprintable c then "\\u\x7b" ++ hexadecimal c.toNat ++ "\x7d" else c.toString

/-- The text in double quotes, with quotes, backslashes and unprintable characters escaped. -/
def quote (s : String) : String :=
  "\"" ++ String.join (s.toList.map escape) ++ "\""

/-- The items in brackets, separated by commas. -/
def bracketed (items : List String) : String :=
  "[" ++ String.intercalate ", " items ++ "]"

/-- The items in braces, separated by commas. -/
def braced (items : List String) : String :=
  "\x7b" ++ String.intercalate ", " items ++ "\x7d"

/-- A record: its name, then its fields with their texts in braces. -/
def record (name : String) (fields : List (String × String)) : String :=
  name ++ " \x7b " ++ String.intercalate ", " (fields.map fun (field, value) => field ++ ": " ++ value) ++
    " \x7d"

end MemoryPlan.Text
