import MemoryPlan.Text.Blank
import MemoryPlan.Text.Pattern
/-!
# The signs of patterns

What reading patterns and reading sets of characters have in common: the modes that change how a pattern is
read, the gaps of spaced notation, and the signs behind a backslash. Letters of either case and the customary
classes are known for ASCII only: outside its mode for ASCII a pattern that needs them is refused.
-/

namespace MemoryPlan.Text

/-- How a pattern is read. -/
structure Modes where
  /-- Letters stand for both cases. -/
  bothCases : Bool := false
  /-- `^` and `$` stand for the ends of each line. -/
  eachLine : Bool := false
  /-- A full stop stands for line feeds as well. -/
  acrossLines : Bool := false
  /-- Repetitions are few by preference. -/
  few : Bool := false
  /-- Classes and words go beyond ASCII. -/
  unicode : Bool := true
  /-- Carriage returns end lines as well. -/
  anyLineEnd : Bool := false
  /-- Blanks, and comments behind number signs, do not count. -/
  spaced : Bool := false
  deriving DecidableEq, Repr

/-- What a character or a backslash with what follows it can stand for. -/
inductive Sign where
  /-- A character. -/
  | char (c : Char)
  /-- A set of ASCII characters. -/
  | set (set : CharSet)
  /-- An assertion; one about words may be meant beyond ASCII. -/
  | check (assertion : Assertion) (isWide : Bool)
  deriving DecidableEq, Repr

namespace Modes

/-- Switches the mode of a letter on or off. -/
def switch? (modes : Modes) (letter : Char) (on : Bool) : Option Modes :=
  match letter with
  | 'i' => some { modes with bothCases := on }
  | 'm' => some { modes with eachLine := on }
  | 's' => some { modes with acrossLines := on }
  | 'U' => some { modes with few := on }
  | 'u' => some { modes with unicode := on }
  | 'R' => some { modes with anyLineEnd := on }
  | 'x' => some { modes with spaced := on }
  | _ => none

/-- Reads the letters of modes up to a colon or a closing parenthesis; behind a minus sign modes are switched
off. No letter or sign comes twice, a minus sign is not the last one, and before a parenthesis there is one at
least. Yields the modes, the sign at the end, and the number of characters that were taken. -/
def switchAll? (modes : Modes) (seen : List Char) : List Char → Option (Modes × Char × Nat)
  | [] => none
  | c :: rest =>
    if c = ':' ∨ c = ')' then
      if seen.head? = some '-' ∨ (c = ')' ∧ seen = []) then none else some (modes, c, seen.length + 1)
    else if seen.contains c then none
    else if c = '-' then modes.switchAll? (c :: seen) rest
    else match modes.switch? c (!seen.contains '-') with
      | none => none
      | some after => after.switchAll? (c :: seen) rest

/-- The number of characters that do not count in spaced notation: blanks, and comments to the ends of their
lines. -/
def gapLength (inComment : Bool) : List Char → Nat
  | [] => 0
  | c :: rest =>
    if inComment then gapLength (c != '\n') rest + 1
    else if isBlank c then gapLength false rest + 1
    else if c = '#' then gapLength true rest + 1
    else 0

/-- The number of characters that do not count. -/
def gap (modes : Modes) (cs : List Char) : Nat := if modes.spaced then gapLength false cs else 0

/-- The character that is seen next: in spaced notation, the next one that is neither a blank nor a first
number sign, if there is one. -/
def ahead (modes : Modes) (cs : List Char) : Option Char :=
  let unspaced := cs.dropWhile isBlank
  let seen := if unspaced.head? = some '#' then unspaced.tail.dropWhile isBlank else unspaced
  if modes.spaced then seen.head?.or cs.head? else cs.head?

/-- A written set of characters, with both cases if this is the mode; beyond ASCII the cases are not known. -/
def cased? (modes : Modes) (set : CharSet) : Option CharSet :=
  if !modes.bothCases then some set else if modes.unicode then none else some set.withBothCases

/-- All characters outside a set; in the mode for ASCII there is no such set. -/
def complement? (modes : Modes) (set : CharSet) : Option CharSet :=
  if modes.unicode then some set.complement else none

end Modes

namespace Sign

/-- The value of a hexadecimal digit. -/
def hexDigit? (c : Char) : Option Nat :=
  if c.isDigit then some (c.toNat - '0'.toNat)
  else if 'a' ≤ c ∧ c ≤ 'f' then some (c.toNat - 'a'.toNat + 10)
  else if 'A' ≤ c ∧ c ≤ 'F' then some (c.toNat - 'A'.toNat + 10)
  else none

/-- Reads a number of hexadecimal digits behind a value; yields also the number of characters taken. -/
def hex? (modes : Modes) (value taken : Nat) : Nat → List Char → Option (Nat × Nat)
  | 0, _ => some (value, taken)
  | digits + 1, cs =>
    match cs.drop (modes.gap cs) with
    | [] => none
    | c :: rest =>
      match hexDigit? c with
      | none => none
      | some digit => hex? modes (16 * value + digit) (taken + modes.gap cs + 1) digits rest

/-- The character of a code point. -/
def ofCode? (code : Nat) : Option Char :=
  if code.isValidChar then some (Char.ofNat code) else none

/-- Reads a character by a number of hexadecimal digits; in the mode for ASCII, two digits that are meant for
another character are refused. -/
def ofHex? (modes : Modes) (digits : Nat) (cs : List Char) : Option (Sign × Nat) :=
  match hex? modes 0 0 digits cs with
  | none => none
  | some (code, taken) =>
    if digits = 2 ∧ 0x7F < code ∧ !modes.unicode then none
    else (ofCode? code).map fun c => (char c, taken + 1)

/-- The sign of a single character behind a backslash. -/
def ofEscape? (modes : Modes) (c : Char) : Option Sign :=
  let ofClass (set : CharSet) : Option Sign := if modes.unicode then none else some (.set set)
  match c with
  | 'a' => some (char '\x07')
  | 'f' => some (char '\x0c')
  | 't' => some (char '\t')
  | 'n' => some (char '\n')
  | 'r' => some (char '\r')
  | 'v' => some (char '\x0b')
  | 'd' => ofClass .digit
  | 's' => ofClass .space
  | 'w' => ofClass .word
  | 'A' => some (check .textStart false)
  | 'z' => some (check .textEnd false)
  | 'b' => some (check .wordEdge modes.unicode)
  | 'B' => some (check .noWordEdge modes.unicode)
  | '<' => some (check .wordStart modes.unicode)
  | '>' => some (check .wordEnd modes.unicode)
  | _ => if c.toNat ≤ 0x7F ∧ !c.isAlphanum then some (char c) else none

/-- Reads what follows a backslash, with the number of characters that it takes. -/
def behindBackslash? (modes : Modes) : List Char → Option (Sign × Nat)
  | [] => none
  | c :: rest =>
    if c = 'x' then ofHex? modes 2 rest
    else if c = 'u' then ofHex? modes 4 rest
    else if c = 'U' then ofHex? modes 8 rest
    else (ofEscape? modes c).map fun sign => (sign, 1)

end Sign
end MemoryPlan.Text
