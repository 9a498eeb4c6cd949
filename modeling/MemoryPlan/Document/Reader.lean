import MemoryPlan.Document
import MemoryPlan.Text.Numeral
/-!
# Reading documents

`Document.read?` reads the JSON text of a document. A number is an integer exactly when it has neither a
fraction nor an exponent and is not a negative zero. The depth of every recursion is bounded by the length
of the text.
-/

namespace MemoryPlan.Document

/-- Whether a character may stand between the parts of a document. -/
def isGap (c : Char) : Bool := c == ' ' || c == '\t' || c == '\n' || c == '\r'

/-- The characters from the next part on. -/
def skipGaps (cs : List Char) : List Char := cs.dropWhile isGap

/-- The value of a hexadecimal digit. -/
def hexDigit? (c : Char) : Option Nat :=
  if '0' ≤ c ∧ c ≤ '9' then some (c.toNat - '0'.toNat)
  else if 'a' ≤ c ∧ c ≤ 'f' then some (c.toNat - 'a'.toNat + 10)
  else if 'A' ≤ c ∧ c ≤ 'F' then some (c.toNat - 'A'.toNat + 10)
  else none

/-- A number of four hexadecimal digits, and what follows. -/
def unit? : List Char → Option (Nat × List Char)
  | a :: b :: c :: d :: rest => do
    let a ← hexDigit? a
    let b ← hexDigit? b
    let c ← hexDigit? c
    let d ← hexDigit? d
    return (4096 * a + 256 * b + 16 * c + d, rest)
  | _ => none

/-- The character of a numbered escape; a character beyond the first plane takes two of them. -/
def numbered? (cs : List Char) : Option (Char × List Char) := do
  let (high, rest) ← unit? cs
  if 0xD800 ≤ high ∧ high < 0xDC00 then
    match rest with
    | '\\' :: 'u' :: more =>
      let (low, rest) ← unit? more
      return (Char.ofNat (0x10000 + 0x400 * (high - 0xD800) + (low - 0xDC00)), rest)
    | _ => none
  else return (Char.ofNat high, rest)

/-- The character of an escape, after its backslash. -/
def escaped? : List Char → Option (Char × List Char)
  | 'u' :: rest => numbered? rest
  | 'n' :: rest => some ('\n', rest)
  | 't' :: rest => some ('\t', rest)
  | 'r' :: rest => some ('\r', rest)
  | 'b' :: rest => some ('\x08', rest)
  | 'f' :: rest => some ('\x0c', rest)
  | c :: rest => if c == '"' || c == '\\' || c == '/' then some (c, rest) else none
  | [] => none

/-- The rest of a quoted text after those characters, which are kept in reverse. -/
def readText : Nat → List Char → List Char → Option (String × List Char)
  | 0, _, _ => none
  | fuel + 1, read, cs =>
    match cs with
    | [] => none
    | c :: rest =>
      if c == '"' then some (String.ofList read.reverse, rest)
      else if c == '\\' then
        match escaped? rest with
        | some (e, rest) => readText fuel (e :: read) rest
        | none => none
      else readText fuel (c :: read) rest

/-- Whether a character may be part of a number. -/
def isNumberPart (c : Char) : Bool :=
  (Text.digit? c).isSome || c == '-' || c == '+' || c == '.' || c == 'e' || c == 'E'

/-- The number of a written number. -/
def number? (cs : List Char) : Option Document :=
  let integral := match cs with
    | '-' :: digits => (Text.decimal? digits).bind fun n => if n = 0 then none else some (-(n : Int))
    | digits => (Text.decimal? digits).map fun n => (n : Int)
  match integral with
  | some n => some (.integer n)
  | none => if cs.isEmpty then none else some (.fraction (String.ofList cs))

mutual

/-- The document that the text begins with, and what follows. -/
def readValue : Nat → List Char → Option (Document × List Char)
  | 0, _ => none
  | fuel + 1, cs =>
    match skipGaps cs with
    | 'n' :: 'u' :: 'l' :: 'l' :: rest => some (.null, rest)
    | 't' :: 'r' :: 'u' :: 'e' :: rest => some (.bool true, rest)
    | 'f' :: 'a' :: 'l' :: 's' :: 'e' :: rest => some (.bool false, rest)
    | '"' :: rest => (readText (rest.length + 1) [] rest).map fun (s, rest) => (.text s, rest)
    | '[' :: rest =>
      match skipGaps rest with
      | ']' :: rest => some (.list [], rest)
      | rest => (readItems fuel [] rest).map fun (items, rest) => (.list items, rest)
    | '\x7b' :: rest =>
      match skipGaps rest with
      | '\x7d' :: rest => some (.fields [], rest)
      | rest => (readEntries fuel [] rest).map fun (entries, rest) => (.fields entries, rest)
    | rest => (number? (rest.takeWhile isNumberPart)).map fun n => (n, rest.dropWhile isNumberPart)

/-- The rest of a list after those items, which are kept in reverse. -/
def readItems : Nat → List Document → List Char → Option (List Document × List Char)
  | 0, _, _ => none
  | fuel + 1, read, cs =>
    match readValue fuel cs with
    | none => none
    | some (item, rest) =>
      match skipGaps rest with
      | ',' :: rest => readItems fuel (item :: read) rest
      | ']' :: rest => some ((item :: read).reverse, rest)
      | _ => none

/-- The rest of a map after those entries, which are kept in reverse. -/
def readEntries : Nat → List (String × Document) → List Char →
    Option (List (String × Document) × List Char)
  | 0, _, _ => none
  | fuel + 1, read, cs =>
    match skipGaps cs with
    | '"' :: rest =>
      match readText (rest.length + 1) [] rest with
      | none => none
      | some (name, rest) =>
        match skipGaps rest with
        | ':' :: rest =>
          match readValue fuel rest with
          | none => none
          | some (value, rest) =>
            match skipGaps rest with
            | ',' :: rest => readEntries fuel ((name, value) :: read) rest
            | '\x7d' :: rest => some (((name, value) :: read).reverse, rest)
            | _ => none
        | _ => none
    | _ => none

end

/-- The document of a text, which holds nothing else. -/
def read? (s : String) : Option Document :=
  match readValue (2 * s.length + 2) s.toList with
  | some (document, rest) => if (skipGaps rest).isEmpty then some document else none
  | none => none

end MemoryPlan.Document
