import MemoryPlan.Text.Pattern.Notation
/-!
# Sets of characters in brackets

A set is written as its characters, ranges and classes between brackets, with a circumflex in front for all
other characters. Brackets may hold further brackets, and two sets with `&&`, `--` or `~~` between them stand
for their intersection, their difference or what is in one of them only.
-/

namespace MemoryPlan.Text

/-- How two written sets are put together. -/
inductive SetOperation where
  /-- What is in both sets. -/
  | inter
  /-- What is in the first set only. -/
  | diff
  /-- What is in one set only. -/
  | symmDiff
  deriving DecidableEq, Repr

/-- How far the start of a bracket has been read. -/
inductive BracketStart where
  /-- Nothing is read. -/
  | opened
  /-- A circumflex is read. -/
  | complemented
  /-- Minus signs are read, which stand for themselves. -/
  | dashed
  /-- The start is over. -/
  | over
  deriving DecidableEq, Repr

/-- A written set, and how deep what was written is nested. -/
structure NestedSet where
  /-- The set. -/
  set : CharSet
  /-- How deep it is nested. -/
  depth : Nat
  deriving DecidableEq, Repr

/-- A bracket as far as it is read. -/
structure Bracket where
  /-- How far its start is read. -/
  start : BracketStart := .opened
  /-- Whether all other characters are meant. -/
  isComplement : Bool := false
  /-- What stands before the last operation. -/
  left : Option (NestedSet × SetOperation) := none
  /-- The characters read since then. -/
  members : CharSet := .none
  /-- The number of members read since then. -/
  count : Nat := 0
  /-- How deep the deepest of them is nested. -/
  depth : Nat := 0
  deriving DecidableEq, Repr

/-- The open brackets. -/
structure BracketReading where
  /-- The innermost bracket. -/
  inner : Bracket := {}
  /-- The brackets around it, from the inside. -/
  outer : List Bracket := []
  deriving DecidableEq, Repr

/-- What one step of reading leads to. -/
inductive BracketStep where
  /-- There is more to read, behind some further characters that the step took. -/
  | more (reading : BracketReading) (taken : Nat)
  /-- The outermost bracket is closed. -/
  | closed (set : NestedSet)

namespace SetOperation

/-- The operation behind one of its signs. -/
def ofSign? : Char → Option SetOperation
  | '&' => some .inter
  | '-' => some .diff
  | '~' => some .symmDiff
  | _ => none

/-- Puts two sets together. -/
def apply : SetOperation → CharSet → CharSet → CharSet
  | inter => .inter
  | diff => .diff
  | symmDiff => .symmDiff

end SetOperation

namespace Bracket

/-- Adds a member. -/
def insert (bracket : Bracket) (member : NestedSet) : Bracket :=
  { bracket with
    members := bracket.members.union member.set
    count := bracket.count + 1
    depth := max bracket.depth member.depth }

/-- Adds a written set. -/
def insert? (bracket : Bracket) (modes : Modes) (set : CharSet) : Option Bracket :=
  (modes.cased? set).map fun cased => bracket.insert ⟨cased, 0⟩

/-- What the bracket holds so far; several members together are nested one deeper. -/
def content (bracket : Bracket) : NestedSet :=
  let depth := if bracket.count ≤ 1 then bracket.depth else bracket.depth + 1
  let members : NestedSet := ⟨bracket.members, depth⟩
  match bracket.left with
  | none => members
  | some (left, operation) => ⟨operation.apply left.set members.set, max left.depth members.depth + 1⟩

/-- Goes on behind an operation. -/
def behind (bracket : Bracket) (operation : SetOperation) : Bracket :=
  { start := .over, isComplement := bracket.isComplement, left := some (bracket.content, operation) }

/-- The set of the closed bracket. -/
def close? (bracket : Bracket) (modes : Modes) : Option NestedSet :=
  let content := bracket.content
  let set? := if bracket.isComplement then modes.complement? content.set else some content.set
  set?.map fun set => ⟨set, content.depth + 1⟩

end Bracket

namespace BracketReading

/-- Reads one sign, with the number of characters that it takes. -/
def sign? (modes : Modes) : List Char → Option (Sign × Nat)
  | [] => none
  | '\\' :: rest => (Sign.behindBackslash? modes rest).map fun (sign, taken) => (sign, taken + 1)
  | c :: _ => some (.char c, 1)

/-- The characters from one to another; in the mode for ASCII, there are no others. -/
def range? (modes : Modes) (first last : Char) : Option CharSet :=
  if first ≤ last ∧ (modes.unicode ∨ last.toNat ≤ 0x7F) then some (.range first last) else none

/-- Reads a character, a range of characters or a class, with the number of characters that it takes. A minus
sign stands for a range, unless a closing bracket or a further minus sign is seen behind it. -/
def member? (modes : Modes) (cs : List Char) : Option (CharSet × Nat) := do
  let (first, taken) ← sign? modes cs
  let toDash := taken + modes.gap (cs.drop taken)
  let behindDash := (cs.drop toDash).tail
  let next := modes.ahead behindDash
  if (cs.drop toDash).head? = some '-' ∧ next ≠ some ']' ∧ next ≠ some '-' then
    let gap := modes.gap behindDash
    let (last, more) ← sign? modes (behindDash.drop gap)
    match first, last with
    | .char first, .char last =>
      (range? modes first last).map fun set => (set, toDash + 1 + gap + more)
    | _, _ => none
  else match first with
    | .char c => (range? modes c c).map fun set => (set, taken)
    | .set set => some (set, taken)
    | .check _ _ => none

/-- Reads the name of a class behind an opening bracket: between colons, with a circumflex before the name for
all other characters. Yields whether those are meant, the class, and the number of characters taken. -/
def class? (cs : List Char) : Option (Bool × CharSet × Nat) :=
  match cs with
  | ':' :: rest =>
    let isComplement := rest.head? == some '^'
    let signs := if isComplement then 2 else 1
    let name := (cs.drop signs).takeWhile (· != ':')
    if (cs.drop (signs + name.length)).take 2 = [':', ']'] then
      (CharSet.named? (String.ofList name)).map fun set => (isComplement, set, signs + name.length + 2)
    else none
  | _ => none

/-- Adds a written set to the innermost bracket. -/
def insert? (reading : BracketReading) (modes : Modes) (set : CharSet) : Option BracketReading :=
  (reading.inner.insert? modes set).map fun inner => { reading with inner }

/-- Reads on at an opening bracket: a class by name, or a further bracket. -/
def open? (reading : BracketReading) (modes : Modes) (rest : List Char) : Option BracketStep :=
  match class? rest with
  | none => some (.more { inner := {}, outer := reading.inner :: reading.outer } 0)
  | some (isComplement, set, taken) => do
    let cased ← modes.cased? set
    let meant ← if isComplement then modes.complement? cased else some cased
    return .more { reading with inner := reading.inner.insert ⟨meant, 0⟩ } taken

/-- Reads on at a closing bracket. -/
def close? (reading : BracketReading) (modes : Modes) : Option BracketStep :=
  (reading.inner.close? modes).map fun set =>
    match reading.outer with
    | [] => .closed set
    | around :: outer => .more { inner := around.insert set, outer } 0

/-- Reads on behind the start of a bracket. -/
def stepInside? (reading : BracketReading) (modes : Modes) (c : Char) (rest : List Char) :
    Option BracketStep :=
  let operation := if rest.head? = some c then SetOperation.ofSign? c else none
  match c, operation with
  | '[', _ => reading.open? modes rest
  | ']', _ => reading.close? modes
  | _, some operation => some (.more { reading with inner := reading.inner.behind operation } 1)
  | _, none => do
    let (set, taken) ← member? modes (c :: rest)
    let after ← reading.insert? modes set
    return .more after (taken - 1)

/-- Reads on at a character that counts. At the start of a bracket, minus signs stand for themselves, and so
does a closing bracket if there is no minus sign before it. -/
def step? (reading : BracketReading) (modes : Modes) (c : Char) (rest : List Char) : Option BracketStep :=
  let startAt (start : BracketStart) : BracketReading := { reading with inner.start := start }
  match reading.inner.start, c with
  | .opened, '^' =>
    some (.more { reading with inner.start := .complemented, inner.isComplement := true } 0)
  | .opened, '-' | .complemented, '-' | .dashed, '-' =>
    ((startAt .dashed).insert? modes (.single c)).map fun after => .more after 0
  | .opened, ']' | .complemented, ']' =>
    ((startAt .over).insert? modes (.single c)).map fun after => .more after 0
  | _, _ => (startAt .over).stepInside? modes c rest

/-- Reads up to the end of the outermost bracket; yields the set and the number of characters taken. -/
def finish? (reading : BracketReading) (modes : Modes) (taken : Nat) : List Char → Option (NestedSet × Nat)
  | [] => none
  | c :: rest =>
    match modes.gap (c :: rest) with
    | gap + 1 => reading.finish? modes (taken + gap + 1) (rest.drop gap)
    | 0 =>
      match reading.step? modes c rest with
      | none => none
      | some (.closed set) => some (set, taken + 1)
      | some (.more after more) => after.finish? modes (taken + more + 1) (rest.drop more)
  termination_by cs => cs.length
  decreasing_by all_goals simp only [List.length_drop, List.length_cons]; omega

end BracketReading
end MemoryPlan.Text
