import MemoryPlan.Text.Pattern
/-!
# Reading texts by patterns

A pattern becomes a graph of places, and a text is read byte by byte by an ordered list of walkers on it,
the preferred one first. As soon as one walker has reached the end of the pattern, those behind it are given
up, even if they would lead further. A reading may start at any byte, and earlier starts are preferred. A
text fits a pattern if such a reading ends together with the text.
-/

namespace MemoryPlan.Text

/-- A place in the graph of a pattern. -/
inductive Place where
  /-- A character of a set leads on. -/
  | take (set : CharSet) (next : Nat)
  /-- Any byte leads on. -/
  | skip (next : Nat)
  /-- Leads on where an assertion holds. -/
  | check (assertion : Assertion) (next : Nat)
  /-- Leads to several places, the preferred one first. -/
  | fork (ways : List Nat)
  /-- The end of the pattern. -/
  | finish
  deriving Repr, Inhabited

/-- The graph of a pattern. -/
structure Automaton where
  /-- The places by number. -/
  places : Array Place
  /-- The first place. -/
  start : Nat
  deriving Repr

/-- A byte of a text. -/
inductive TextByte where
  /-- The first byte of a character. -/
  | lead (c : Char)
  /-- A later byte of a character. -/
  | inner
  deriving DecidableEq, Repr

/-- A walker on the graph. -/
structure Walker where
  /-- Where it stands or will stand next. -/
  place : Nat
  /-- How many bytes of the character that it has taken are still ahead of it. -/
  ahead : Nat := 0
  deriving DecidableEq, Repr, Inhabited

namespace TextByte

/-- The bytes of a text. -/
def ofChars (cs : List Char) : List TextByte :=
  cs.flatMap fun c => lead c :: List.replicate (c.utf8Size - 1) inner

/-- Whether a byte is part of a word; so are no bytes outside ASCII. -/
def isWordPart : TextByte → Bool
  | lead c => c.isAlphanum || c == '_'
  | inner => false

end TextByte

namespace Assertion

/-- Whether an assertion holds between two bytes; at the ends of the text one of them is missing. -/
def holds (before after : Option TextByte) : Assertion → Bool
  | textStart => before.isNone
  | textEnd => after.isNone
  | lineStart => before.isNone || before == some (.lead '\n')
  | lineEnd => after.isNone || after == some (.lead '\n')
  | anyLineStart => before.isNone || before == some (.lead '\n') ||
      before == some (.lead '\r') && after != some (.lead '\n')
  | anyLineEnd => after.isNone || after == some (.lead '\r') ||
      after == some (.lead '\n') && before != some (.lead '\r')
  | wordEdge => before.any TextByte.isWordPart != after.any TextByte.isWordPart
  | noWordEdge => before.any TextByte.isWordPart == after.any TextByte.isWordPart
  | wordStart => !before.any TextByte.isWordPart && after.any TextByte.isWordPart
  | wordEnd => before.any TextByte.isWordPart && !after.any TextByte.isWordPart

/-- Whether an assertion is known to hold behind a byte, whatever follows. -/
def isKnown (before : Option TextByte) : Assertion → Bool
  | textStart => before.isNone
  | lineStart | anyLineStart => before.isNone || before == some (.lead '\n')
  | _ => false

end Assertion

namespace Automaton

/-- Two ways, the first by preference, or else the second. -/
def fork (preferFirst : Bool) (first second : Nat) : Place :=
  .fork (if preferFirst then [first, second] else [second, first])

/-- Adds a place; yields its number. -/
def add (places : Array Place) (place : Place) : Nat × Array Place := (places.size, places.push place)

/-- Adds the places of a pattern that leads on to a place; yields the first of them. -/
def build (places : Array Place) (next : Nat) : Pattern → Nat × Array Place
  | .empty => (next, places)
  | .text cs => cs.foldr (fun c built => add built.2 (.take (.single c) built.1)) (next, places)
  | .one set _ => add places (.take set next)
  | .check assertion => add places (.check assertion next)
  | .seq first second =>
    let (middle, places) := build places next second
    build places middle first
  | .choice first second =>
    let (other, places) := build places next second
    let (preferred, places) := build places next first
    add places (fork true preferred other)
  | .group _ body => build places next body
  | .repeated body .atMostOnce many =>
    let (start, places) := build places next body
    add places (fork many start next)
  | .repeated body times many =>
    let again := places.size
    let (start, places) := build (places.push (.fork [])) again body
    let places := places.setIfInBounds again (fork many start next)
    match times, body.takesSome with
    | .any, true => (again, places)
    | .any, false => add places (fork many start next)
    | _, _ => (start, places)

/-- The graph of a pattern, which may start at any byte, earlier ones by preference. -/
def ofPattern (pattern : Pattern) : Automaton :=
  let (start, places) := build #[.finish] 0 pattern
  let first := places.size
  { places := (places.push (fork true start (first + 1))).push (.skip first), start := first }

/-- The walkers that have been found. -/
structure Found where
  /-- Which places have been entered. -/
  entered : Array Bool
  /-- The walkers, the preferred one last. -/
  walkers : List Walker := []

/-- With one more place entered, fewer are left. -/
theorem count_enter_lt {entered : Array Bool} {place : Nat} (h : entered[place]? = some false) :
    (entered.setIfInBounds place true).count false < entered.count false := by
  obtain ⟨hlt, hplace⟩ := Array.getElem?_eq_some_iff.mp h
  have hpos : 0 < entered.count false := Array.count_pos_iff.mpr (hplace ▸ Array.getElem_mem hlt)
  have hset := Array.count_set (b := false) (a := true) hlt
  rw [Array.setIfInBounds, dif_pos hlt, hset, hplace]
  exact Nat.sub_lt hpos Nat.one_pos

/-- Follows all ways from some places, the first one first, as far as no byte is needed. No place is entered
twice. -/
def follow (a : Automaton) (holds : Assertion → Bool) (stack : List Nat) (found : Found) : Found :=
  match stack with
  | [] => found
  | place :: stack =>
    if _h : found.entered[place]? = some false then
      let entered := found.entered.setIfInBounds place true
      let walkers := { place } :: found.walkers
      match a.places[place]? with
      | some (.fork ways) => follow a holds (ways ++ stack) { found with entered }
      | some (.check assertion next) =>
        follow a holds (if holds assertion then next :: stack else stack) { entered, walkers }
      | _ => follow a holds stack { entered, walkers }
    else follow a holds stack found
  termination_by (found.entered.count false, stack.length)
  decreasing_by
    all_goals first
      | exact Prod.Lex.left _ _ (count_enter_lt _h)
      | exact Prod.Lex.right _ (Nat.lt_succ_self _)

/-- Follows all ways from walkers, the preferred one first; the list keeps the order of preference. -/
def settle (a : Automaton) (holds : Assertion → Bool) (walkers : List Walker) : List Walker :=
  let step (found : Found) (walker : Walker) : Found :=
    if walker.ahead = 0 then a.follow holds [walker.place] found
    else { found with walkers := walker :: found.walkers }
  (walkers.foldl step { entered := Array.replicate a.places.size false }).walkers.reverse

/-- Whether a walker stands before an assertion that holds between two bytes and was not yet known. -/
def isNews (a : Automaton) (before after : Option TextByte) (walker : Walker) : Bool :=
  walker.ahead == 0 && match a.places[walker.place]? with
    | some (.check assertion _) => assertion.holds before after && !assertion.isKnown before
    | _ => false

/-- The walkers before a byte or before the end, when it is seen: if that is news to one of them, all go as
far as they can. -/
def look (a : Automaton) (before after : Option TextByte) (walkers : List Walker) : List Walker :=
  if walkers.any (a.isNews before after) then a.settle (Assertion.holds before after) walkers else walkers

/-- Whether a walker has reached the end of the pattern. -/
def isDone (a : Automaton) (walker : Walker) : Bool :=
  walker.ahead == 0 && match a.places[walker.place]? with
    | some .finish => true
    | _ => false

/-- Where a walker goes with a byte, if it can. -/
def pass? (a : Automaton) (byte : TextByte) (walker : Walker) : Option Walker :=
  match walker.ahead, byte, a.places[walker.place]? with
  | ahead + 1, .inner, _ => some { walker with ahead }
  | 0, .lead c, some (.take set next) =>
    if set.contains c then some { place := next, ahead := c.utf8Size - 1 } else none
  | 0, _, some (.skip next) => some { place := next }
  | _, _, _ => none

/-- The walkers behind a byte; those behind one that has reached the end are given up. -/
def advance (a : Automaton) (before : Option TextByte) (byte : TextByte) (walkers : List Walker) :
    List Walker :=
  let going := (a.look before (some byte) walkers).takeWhile fun walker => !a.isDone walker
  a.settle (Assertion.isKnown (some byte)) (going.filterMap (a.pass? byte))

/-- Whether one of the walkers has reached the end of the pattern when the text ends. -/
def finishes (a : Automaton) (before : Option TextByte) : List Walker → List TextByte → Bool
  | walkers, [] => (a.look before none walkers).any a.isDone
  | walkers, byte :: rest => a.finishes (some byte) (a.advance before byte walkers) rest

/-- Whether the reading of a text ends with the text. -/
def accepts (a : Automaton) (s : String) : Bool :=
  a.finishes none (a.settle (Assertion.isKnown none) [{ place := a.start }]) (TextByte.ofChars s.toList)

end Automaton

/-- Whether a text fits a pattern. -/
def Pattern.fits (pattern : Pattern) (s : String) : Bool := (Automaton.ofPattern pattern).accepts s

end MemoryPlan.Text
