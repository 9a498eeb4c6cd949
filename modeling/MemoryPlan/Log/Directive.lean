import MemoryPlan.Log.Level
import MemoryPlan.Text.Alphanumeric
import MemoryPlan.Text.Numeral
import MemoryPlan.Text.Pattern.Reader
import MemoryPlan.Text.Pieces
import MemoryPlan.Word
/-!
# Filter directives

A directive says which levels are logged: for some targets, and, with conditions in brackets, inside some
spans only. `Directive.ofText?` reads one.
-/

namespace MemoryPlan

/-- A condition on a field of a span. -/
structure FieldCondition where
  /-- The field that has to be there. -/
  name : String
  /-- The text that its value has to match as a pattern; absent for any value. -/
  value : Option String := none
  deriving DecidableEq, Repr

/-- The rule of a filter for some targets and spans. -/
structure Directive where
  /-- The targets that begin so. -/
  target : String
  /-- The least important level that is logged; absent to log nothing. -/
  level : Option Level
  /-- The name of the spans that are meant; absent for any name. -/
  span : Option String := none
  /-- The condition on a field of the spans that are meant. -/
  field : Option FieldCondition := none
  deriving DecidableEq, Repr

namespace FieldCondition

/-- Whether a value is meant as a number or a truth value; no text matches it. -/
def isScalar (value : String) : Bool :=
  value == "true" || value == "false" || Text.isRealNumeral value

/-- Whether a text as the field's value meets the condition. -/
def admits (condition : FieldCondition) (text : String) : Bool :=
  match condition.value with
  | none => true
  | some value =>
    !isScalar value && match Text.Pattern.ofText value with
      | .ok pattern => pattern.fits text
      | .error _ => false

/-- Reads a condition: the name of a field, or a name and a value with an equals sign between them; from a
further equals sign on nothing counts. -/
def ofText? (s : String) : Except LogError FieldCondition :=
  match Text.split '=' s with
  | name :: value :: _ =>
    if isScalar value then .ok { name, value := some value }
    else match Text.Pattern.ofText value with
      | .ok _ => .ok { name, value := some value }
      | .error fault => .error (.invalidFieldPattern fault)
  | name :: [] => .ok { name }
  | [] => .ok { name := "" }

end FieldCondition

namespace Directive

/-- A level by number: zero stands for no level at all, and five is the last. -/
def ofNumber? (n : Nat) : Option (Option Level) :=
  if n = 0 then some none else (Level.all.find? fun level => level.rank == n).map some

/-- A level by number, or by word in any case of letters; `off` stands for no level at all. -/
def level? (s : String) : Option (Option Level) :=
  match (Text.unsigned? Word.limit s).bind ofNumber? with
  | some level => some level
  | none =>
    let chosen := Text.lowerAscii s
    if chosen = "off" then some none else (Level.ofWord? chosen).map some

/-- Whether a character may begin a directive. -/
def mayBegin (c : Char) : Bool :=
  c == '-' || c == ':' || c == '_' || c == '[' || Text.isAlphanumeric c

/-- Reads a level after an equals sign; without one there, all levels are meant. -/
def levelAfter (word : List Char) : Except LogError (Option Level) :=
  if word.isEmpty then .ok (some .trace)
  else match level? (String.ofList word) with
    | some level => .ok level
    | none => .error .invalidFilterLevel

/-- The place of the first character from a place on that is one of the given, or the end. -/
def placeOf (marks : List Char) (cs : List Char) (start : Nat) : Nat :=
  start + Text.byteLength ((Text.dropBytes start cs).takeWhile fun c => !marks.contains c)

/-- The character at a place. -/
def charAt? (cs : List Char) (place : Nat) : Option Char := (Text.dropBytes place cs).head?

/-- The characters from a place up to another. -/
def between (cs : List Char) (first last : Nat) : String :=
  String.ofList (Text.dropBytes first (Text.takeBytes last cs))

/-- Reads the conditions behind an opening bracket: the name of a span, a field in braces, or both. Without a
name before the braces, any name will do. Yields also the place behind the closing bracket. -/
def conditionsFrom (cs trimmed : List Char) (first : Nat) :
    Except LogError (Option String × Option FieldCondition × Nat) :=
  let nameEnd := placeOf [']', '\x7b'] trimmed first
  let name := between cs first nameEnd
  match charAt? trimmed nameEnd with
  | none => .error .invalidDirective
  | some ']' => .ok (some name, none, nameEnd + 1)
  | some _ =>
    let fieldEnd := placeOf ['\x7d'] trimmed (nameEnd + 1)
    if fieldEnd = nameEnd + 1 ∨ fieldEnd = Text.byteLength trimmed then .error .invalidDirective
    else match FieldCondition.ofText? (between cs (nameEnd + 1) fieldEnd) with
      | .error e => .error e
      | .ok field =>
        if charAt? trimmed (fieldEnd + 1) = some ']' then
          .ok (if nameEnd = first then none else some name, some field, fieldEnd + 2)
        else .error .invalidDirective

/-- Reads what stands behind a target and its conditions: nothing, or an equals sign and a level. -/
def levelFrom (cs trimmed : List Char) (first : Nat) : Except LogError (Option Level) :=
  match charAt? trimmed first with
  | none => .ok (some .trace)
  | some '=' => levelAfter (Text.dropBytes (first + 1) cs)
  | some _ => .error .invalidDirective

/-- Reads a directive: a level for all targets, or a target with conditions in brackets and with a level
behind an equals sign, each of which may be missing. Without a level all levels are meant. How a directive
is divided is seen without the blanks around it, but its parts are taken at the same places of the whole
text, counted in bytes, so that leading blanks move them. -/
def ofText? (s : String) : Except LogError Directive :=
  let cs := s.toList
  let trimmed := Text.trimBlanks cs
  let targetEnd := placeOf ['=', '['] trimmed 0
  let target := between cs 0 targetEnd
  if !(trimmed.head?.any mayBegin) then .error .invalidDirective
  else match charAt? trimmed targetEnd with
    | none =>
      match level? s with
      | some level => .ok { target := "", level }
      | none => .ok { target := s, level := some .trace }
    | some '=' => (levelFrom cs trimmed targetEnd).map fun level => { target, level }
    | some _ =>
      match conditionsFrom cs trimmed (targetEnd + 1) with
      | .error e => .error e
      | .ok (span, field, behind) =>
        (levelFrom cs trimmed behind).map fun level => { target, level, span, field }

/-- Whether the directive is about a target. -/
def covers (d : Directive) (target : String) : Bool := d.target.toList.isPrefixOf target.toList

/-- How many levels the directive lets pass. -/
def rank (d : Directive) : Nat := d.level.elim 0 Level.rank

/-- Whether the directive lets a level pass. -/
def allows (d : Directive) (level : Level) : Bool := level.rank ≤ d.rank

/-- Whether the directive looks at spans. -/
def isDynamic (d : Directive) : Bool := d.span.isSome || d.field.isSome

/-- Whether the directive can decide without looking into spans: it asks neither for the name of a span nor
for the value of a field. -/
def isStatic (d : Directive) : Bool := d.span.isNone && (d.field.bind FieldCondition.value).isNone

/-- Whether another directive has the same target and the same conditions. -/
def sameConditions (d other : Directive) : Bool :=
  d.target == other.target && d.span == other.span && d.field == other.field

end Directive
end MemoryPlan
