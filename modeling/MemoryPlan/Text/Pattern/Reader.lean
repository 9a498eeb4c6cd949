import MemoryPlan.Text.Alphanumeric
import MemoryPlan.Text.Pattern.Automaton
import MemoryPlan.Text.Pattern.Brackets
/-!
# Reading patterns

The notation of patterns: groups in parentheses, numbered, named or with modes; choices between bars;
repetitions by `*`, `+` and `?` with a further `?` for the other preference; sets of characters in brackets;
a full stop for any character of a line; `^` and `$` for the start and the end of the text; and signs behind
a backslash. Modes last until the end of the group that switches them.
-/

namespace MemoryPlan.Text

namespace Pattern

/-- A part of a sequence as it was written. -/
structure WrittenPart where
  /-- What it stands for. -/
  pattern : Pattern
  /-- How deep it is nested. -/
  depth : Nat := 0
  /-- Whether it only switches modes. -/
  isSwitch : Bool := false
  deriving DecidableEq, Repr

/-- A group as far as it is read. -/
structure Group where
  /-- Its number, if it has one. -/
  number : Option Nat := none
  /-- The modes around it. -/
  around : Modes := {}
  /-- The choices that are complete, the last one first. -/
  choices : List WrittenPart := []
  /-- The parts of the current choice, the last one first. -/
  parts : List WrittenPart := []
  deriving DecidableEq, Repr

/-- The open groups, the innermost one and those around it, and what counts in all of them. -/
structure Reading where
  /-- The modes that are switched on. -/
  modes : Modes := {}
  /-- The innermost group. -/
  inner : Group := {}
  /-- The groups around it, from the inside. -/
  outer : List Group := []
  /-- How many groups have numbers. -/
  count : Nat := 0
  /-- The names of groups. -/
  names : List (List Char) := []
  /-- Whether words beyond ASCII are asked for. -/
  isWide : Bool := false
  deriving DecidableEq, Repr

namespace Group

/-- How deep some parts are nested when they are put together: one deeper, unless there is one only. -/
def depthOf (parts : List WrittenPart) : Nat :=
  match parts with
  | [part] => part.depth
  | _ => (parts.map WrittenPart.depth).foldl max 0 + (if parts.isEmpty then 0 else 1)

/-- The current choice. -/
def current (group : Group) : WrittenPart :=
  { pattern := sequence (group.parts.reverse.map WrittenPart.pattern), depth := depthOf group.parts }

/-- What stands in the group. -/
def whole (group : Group) : WrittenPart :=
  let choices := group.current :: group.choices
  { pattern := alternatives (choices.reverse.map WrittenPart.pattern), depth := depthOf choices }

/-- Ends the current choice. -/
def endChoice (group : Group) : Group := { group with choices := group.current :: group.choices, parts := [] }

/-- Puts a part at the end. -/
def push (group : Group) (part : WrittenPart) : Group := { group with parts := part :: group.parts }

/-- The group as a part of what is around it. -/
def asPart (group : Group) : WrittenPart :=
  let whole := group.whole
  let pattern := match group.number with
    | some number => .group number whole.pattern
    | none => whole.pattern
  { pattern, depth := whole.depth + 1 }

/-- Repeats the last part; what only switches modes cannot be repeated. -/
def repeat? (group : Group) (times : Times) (many : Bool) : Option Group :=
  match group.parts with
  | [] => none
  | last :: before =>
    if last.isSwitch then none
    else
      let part : WrittenPart := { pattern := repetition last.pattern times many, depth := last.depth + 1 }
      some { group with parts := part :: before }

end Group

namespace Reading

/-- How deep a pattern may be nested. -/
def depthLimit : Nat := 250

/-- Puts a part at the end of the innermost group. -/
def push (reading : Reading) (part : WrittenPart) : Reading :=
  { reading with inner := reading.inner.push part }

/-- Opens a group inside of which other modes may count. -/
def openWith (reading : Reading) (modes : Modes) (number : Option Nat) : Reading :=
  { reading with
    modes
    inner := { number, around := reading.modes }
    outer := reading.inner :: reading.outer }

/-- Opens a group with a number. -/
def openNumbered (reading : Reading) : Reading :=
  { reading.openWith reading.modes (some reading.count) with count := reading.count + 1 }

/-- Closes the innermost group; there has to be one around it. -/
def close? (reading : Reading) : Option Reading :=
  match reading.outer with
  | [] => none
  | around :: outer =>
    some { reading with modes := reading.inner.around, inner := around.push reading.inner.asPart, outer }

/-- The pattern, if all groups are closed and it is not nested too deep. -/
def done (reading : Reading) : Except PatternFault Pattern :=
  let whole := reading.inner.whole
  if !reading.outer.isEmpty ∨ depthLimit < whole.depth then .error .unreadable
  else if reading.isWide then .error .wideWords
  else .ok whole.pattern

/-- Puts a character at the end. -/
def pushChar? (reading : Reading) (c : Char) : Option Reading :=
  (reading.modes.cased? (.single c)).map fun set => reading.push { pattern := oneOf set true }

/-- Puts an assertion at the end. -/
def pushCheck (reading : Reading) (assertion : Assertion) (isWide : Bool) : Reading :=
  { reading.push { pattern := check assertion } with isWide := reading.isWide || isWide }

/-- Puts what a sign stands for at the end. -/
def pushSign? (reading : Reading) (sign : Sign) : Option Reading :=
  match sign with
  | .char c => reading.pushChar? c
  | .set set => some (reading.push { pattern := oneOf set true })
  | .check assertion isWide => some (reading.pushCheck assertion isWide)

/-- Puts a full stop at the end; in the mode for ASCII it is refused. -/
def pushAny? (reading : Reading) : Option Reading :=
  let lineEnds := if reading.modes.anyLineEnd then ['\r', '\n'] else ['\n']
  let set := if reading.modes.acrossLines then .all else (CharSet.ofChars lineEnds).complement
  if reading.modes.unicode then some (reading.push { pattern := oneOf set false }) else none

/-- What `^` asks for. -/
def startAssertion (modes : Modes) : Assertion :=
  if !modes.eachLine then .textStart else if modes.anyLineEnd then .anyLineStart else .lineStart

/-- What `$` asks for. -/
def endAssertion (modes : Modes) : Assertion :=
  if !modes.eachLine then .textEnd else if modes.anyLineEnd then .anyLineEnd else .lineEnd

/-- Whether a character may stand in the name of a group. -/
def isNamePart (isFirst : Bool) (c : Char) : Bool :=
  c == '_' || (if isFirst then isAlphabetic c else ['.', '[', ']'].contains c || isAlphanumeric c)

/-- Reads the name of a group up to an angle bracket, with the number of characters that it takes. No two
groups have the same name. -/
def openNamed? (reading : Reading) (cs : List Char) : Option (Reading × Nat) :=
  let name := cs.takeWhile (· != '>')
  match name with
  | [] => none
  | first :: others =>
    if (cs.drop name.length).isEmpty ∨ !isNamePart true first ∨ !others.all (isNamePart false) ∨
        reading.names.contains name then none
    else some ({ reading.openNumbered with names := name :: reading.names }, name.length + 1)

/-- Reads the modes of a group, or modes for the rest of the group that is open. -/
def openModes? (reading : Reading) (cs : List Char) : Option (Reading × Nat) :=
  (reading.modes.switchAll? [] cs).map fun (modes, sign, taken) =>
    if sign = ':' then (reading.openWith modes none, taken)
    else ({ reading.push { pattern := empty, isSwitch := true } with modes }, taken)

/-- Reads on behind an opening parenthesis. -/
def open? (reading : Reading) (rest : List Char) : Option (Reading × Nat) :=
  let gap := reading.modes.gap rest
  match rest.drop gap with
  | '?' :: 'P' :: '<' :: name => (reading.openNamed? name).map fun (after, taken) => (after, taken + gap + 3)
  | '?' :: '<' :: name => (reading.openNamed? name).map fun (after, taken) => (after, taken + gap + 2)
  | '?' :: modes => (reading.openModes? modes).map fun (after, taken) => (after, taken + gap + 1)
  | _ => some (reading.openNumbered, gap)

/-- Reads on behind a sign of repetition. -/
def repeat? (reading : Reading) (times : Times) (rest : List Char) : Option (Reading × Nat) :=
  let isOther := rest.head? == some '?'
  (reading.inner.repeat? times (isOther == reading.modes.few)).map fun inner =>
    ({ reading with inner }, if isOther then 1 else 0)

/-- Reads a set behind its opening bracket. -/
def set? (reading : Reading) (rest : List Char) : Option (Reading × Nat) :=
  (BracketReading.finish? {} reading.modes 0 rest).map fun (nested, taken) =>
    (reading.push { pattern := oneOf nested.set (!reading.modes.unicode), depth := nested.depth }, taken)

/-- Reads on behind one character that counts: what is read then, and how many further characters that
takes. -/
def step? (reading : Reading) (c : Char) (rest : List Char) : Option (Reading × Nat) :=
  match c with
  | '(' => reading.open? rest
  | ')' => reading.close?.map fun after => (after, 0)
  | '|' => some ({ reading with inner := reading.inner.endChoice }, 0)
  | '?' => reading.repeat? .atMostOnce rest
  | '*' => reading.repeat? .any rest
  | '+' => reading.repeat? .atLeastOnce rest
  | '\x7b' => none
  | '[' => reading.set? rest
  | '.' => reading.pushAny?.map fun after => (after, 0)
  | '^' => some (reading.pushCheck (startAssertion reading.modes) false, 0)
  | '$' => some (reading.pushCheck (endAssertion reading.modes) false, 0)
  | '\\' => do
    let (sign, taken) ← Sign.behindBackslash? reading.modes rest
    let after ← reading.pushSign? sign
    return (after, taken)
  | c => (reading.pushChar? c).map fun after => (after, 0)

/-- Reads a pattern to the end of its text. -/
def finish (reading : Reading) : List Char → Except PatternFault Pattern
  | [] => reading.done
  | c :: rest =>
    match reading.modes.gap (c :: rest) with
    | gap + 1 => reading.finish (rest.drop gap)
    | 0 =>
      match reading.step? c rest with
      | none => .error .unreadable
      | some (after, taken) => after.finish (rest.drop taken)
  termination_by cs => cs.length
  decreasing_by all_goals simp only [List.length_drop, List.length_cons]; omega

end Reading

/-- Reads a pattern. Repetitions by numbers in braces are not part of the notation. -/
def ofText (s : String) : Except PatternFault Pattern := Reading.finish {} s.toList

end Pattern
end MemoryPlan.Text
