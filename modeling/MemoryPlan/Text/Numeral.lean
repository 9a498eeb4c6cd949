/-!
# Numerals

Reading decimal numerals with an optional sign inside a range, and writing lower-case hexadecimal.
-/

namespace MemoryPlan.Text

/-- The value of an ASCII decimal digit. -/
def digit? (c : Char) : Option Nat :=
  if '0' ≤ c ∧ c ≤ '9' then some (c.toNat - '0'.toNat) else none

/-- Appends decimal digits to a number; refuses any other character. -/
def extendDecimal : Nat → List Char → Option Nat
  | value, [] => some value
  | value, c :: rest => do
    let d ← digit? c
    extendDecimal (10 * value + d) rest

/-- One or more decimal digits. -/
def decimal? : List Char → Option Nat
  | [] => none
  | cs => extendDecimal 0 cs

/-- A decimal numeral with an optional plus sign, of a value below `bound`. -/
def unsigned? (bound : Nat) (s : String) : Option Nat :=
  let digits := match s.toList with
    | '+' :: rest => rest
    | cs => cs
  (decimal? digits).filter (· < bound)

/-- A decimal numeral with an optional sign, of a value in `[-bound, bound)`. -/
def signed? (bound : Nat) (s : String) : Option Int :=
  let value : Option Int := match s.toList with
    | '-' :: rest => (decimal? rest).map fun n => -(n : Int)
    | '+' :: rest => (decimal? rest).map fun n => (n : Int)
    | cs => (decimal? cs).map fun n => (n : Int)
  value.filter fun v => decide (-(bound : Int) ≤ v ∧ v < bound)

/-- What follows a sign, if there is one. -/
def unsignedPart : List Char → List Char
  | '+' :: rest => rest
  | '-' :: rest => rest
  | cs => cs

/-- Whether a text is a numeral of a real number: with or without a sign, digits before or behind a point, and
an exponent, or one of the words for infinity and for what is no number, in any case of letters. -/
def isRealNumeral (s : String) : Bool :=
  let body := unsignedPart s.toList
  let whole := body.takeWhile Char.isDigit
  let (fraction, tail) := match body.dropWhile Char.isDigit with
    | '.' :: rest => (rest.takeWhile Char.isDigit, rest.dropWhile Char.isDigit)
    | rest => ([], rest)
  let isNumber := !(whole.isEmpty && fraction.isEmpty) && match tail with
    | [] => true
    | mark :: exponent => mark.toLower == 'e' && (decimal? (unsignedPart exponent)).isSome
  isNumber || ["inf", "infinity", "nan"].contains (String.ofList (body.map Char.toLower))

/-- The number in lower-case hexadecimal, without leading zeros. -/
def hexadecimal (n : Nat) : String :=
  String.ofList (Nat.toDigits 16 n)

end MemoryPlan.Text
