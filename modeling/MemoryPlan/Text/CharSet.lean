/-!
# Sets of characters

A set of characters is kept as the places, in the order of the characters, where membership changes. So a
set has one form only, and unions, intersections and differences are all merges of such lists, one for each
rule that decides a character by what two sets say of it. A merge ascends if both lists do (`pairwise_merge`).
-/

namespace MemoryPlan.Text

/-- A set of characters. -/
structure CharSet where
  /-- The places where membership changes; before the first one nothing belongs to the set. -/
  edges : List Nat
  /-- The places ascend. -/
  ascending : edges.Pairwise (· < ·)
  deriving DecidableEq, Repr

namespace CharSet

/-- The place of a character among all characters: its code point without the gap of the surrogates. -/
def placeOf (c : Char) : Nat := if c.toNat < 0xD800 then c.toNat else c.toNat - 0x800

/-- The character at a place. -/
def charAt (place : Nat) : Char := Char.ofNat (if place < 0xD800 then place else place + 0x800)

/-- How many characters there are. -/
def count : Nat := 0x10F800

/-- Whether a place is inside, when it is told before which places that changes. -/
def crossed (inside : Bool) (place : Nat) : List Nat → Bool
  | [] => inside
  | edge :: later => if edge ≤ place then crossed (!inside) place later else inside

/-- Whether a character belongs to the set. -/
def contains (set : CharSet) (c : Char) : Bool := crossed false (placeOf c) set.edges

/-- Puts a place before later changes, if something changes there. -/
def change (place : Nat) (before after : Bool) (later : List Nat) : List Nat :=
  if before = after then later else place :: later

/-- The changes of what a rule says of two memberships. -/
def merge (rule : Bool → Bool → Bool) (inFirst inSecond : Bool) : List Nat → List Nat → List Nat
  | [], [] => []
  | a :: as, [] => change a (rule inFirst inSecond) (rule (!inFirst) inSecond)
      (merge rule (!inFirst) inSecond as [])
  | [], b :: bs => change b (rule inFirst inSecond) (rule inFirst (!inSecond))
      (merge rule inFirst (!inSecond) [] bs)
  | a :: as, b :: bs =>
    if a < b then change a (rule inFirst inSecond) (rule (!inFirst) inSecond)
      (merge rule (!inFirst) inSecond as (b :: bs))
    else if b < a then change b (rule inFirst inSecond) (rule inFirst (!inSecond))
      (merge rule inFirst (!inSecond) (a :: as) bs)
    else change a (rule inFirst inSecond) (rule (!inFirst) (!inSecond))
      (merge rule (!inFirst) (!inSecond) as bs)
  termination_by as bs => as.length + bs.length

theorem mem_of_mem_change {x place : Nat} {before after : Bool} {later : List Nat}
    (h : x ∈ change place before after later) : x = place ∨ x ∈ later := by
  unfold change at h
  split at h
  · exact Or.inr h
  · exact List.mem_cons.mp h

/-- What comes before all changes of both lists comes before all changes of the merge. -/
theorem lt_of_mem_merge {rule : Bool → Bool → Bool} {inFirst inSecond : Bool} {as bs : List Nat} {n : Nat}
    (has : ∀ x ∈ as, n < x) (hbs : ∀ x ∈ bs, n < x) :
    ∀ x ∈ merge rule inFirst inSecond as bs, n < x := by
  fun_induction merge rule inFirst inSecond as bs <;> grind [→ mem_of_mem_change]

theorem pairwise_change {place : Nat} {before after : Bool} {later : List Nat}
    (hplace : ∀ x ∈ later, place < x) (hlater : later.Pairwise (· < ·)) :
    (change place before after later).Pairwise (· < ·) := by
  unfold change
  split
  · exact hlater
  · exact List.pairwise_cons.mpr ⟨hplace, hlater⟩

theorem pairwise_merge (rule : Bool → Bool → Bool) (inFirst inSecond : Bool) (as bs : List Nat)
    (has : as.Pairwise (· < ·)) (hbs : bs.Pairwise (· < ·)) :
    (merge rule inFirst inSecond as bs).Pairwise (· < ·) := by
  fun_induction merge rule inFirst inSecond as bs <;>
    grind [pairwise_change, lt_of_mem_merge, List.pairwise_cons]

/-- The characters of which a rule holds by their membership in two sets; of those in neither it is taken
not to hold. -/
def combine (rule : Bool → Bool → Bool) (s t : CharSet) : CharSet :=
  ⟨merge rule false false s.edges t.edges,
    pairwise_merge rule false false s.edges t.edges s.ascending t.ascending⟩

/-- No character. -/
def none : CharSet := ⟨[], List.Pairwise.nil⟩

/-- The characters between two, both included. -/
def range (first last : Char) : CharSet :=
  if h : placeOf first ≤ placeOf last then
    ⟨[placeOf first, placeOf last + 1], List.pairwise_pair.mpr (Nat.lt_succ_of_le h)⟩
  else none

/-- One character only. -/
def single (c : Char) : CharSet := range c c

/-- Every character. -/
def all : CharSet := ⟨[0, count], by decide⟩

/-- Whether no character belongs to the set. -/
def isEmpty (set : CharSet) : Bool := set.edges.isEmpty

/-- The character of a set that has no other. -/
def only? (set : CharSet) : Option Char :=
  match set.edges with
  | [first, behind] => if behind = first + 1 then some (charAt first) else .none
  | _ => .none

/-- The characters of one set or another. -/
def union : CharSet → CharSet → CharSet := combine or

/-- The characters of one set that are in another as well. -/
def inter : CharSet → CharSet → CharSet := combine and

/-- The characters of one set that are not in another. -/
def diff : CharSet → CharSet → CharSet := combine fun s t => s && !t

/-- The characters of exactly one of two sets. -/
def symmDiff : CharSet → CharSet → CharSet := combine bne

/-- All characters that are not in a set. -/
def complement (set : CharSet) : CharSet := all.diff set

/-- The characters of some sets. -/
def unionAll (sets : List CharSet) : CharSet := sets.foldl union none

/-- The characters of some ranges. -/
def ofRanges (ranges : List (Char × Char)) : CharSet :=
  unionAll (ranges.map fun (first, last) => range first last)

/-- Some characters. -/
def ofChars (cs : List Char) : CharSet := unionAll (cs.map single)

/-- A letter of ASCII in its other case. -/
def otherCase (c : Char) : Char := if c.isUpper then c.toLower else c.toUpper

/-- The letters of ASCII. -/
def letters : List Char := "ABCDEFGHIJKLMNOPQRSTUVWXYZabcdefghijklmnopqrstuvwxyz".toList

/-- The set together with the other case of its ASCII letters. -/
def withBothCases (set : CharSet) : CharSet := set.union (ofChars ((letters.filter set.contains).map otherCase))

/-- The ASCII characters. -/
def ascii : CharSet := range '\x00' '\x7f'

/-- The ASCII letters. -/
def alpha : CharSet := ofRanges [('A', 'Z'), ('a', 'z')]

/-- The ASCII digits. -/
def digit : CharSet := range '0' '9'

/-- The ASCII letters and digits. -/
def alnum : CharSet := alpha.union digit

/-- The ASCII letters and digits and the low line. -/
def word : CharSet := alnum.union (single '_')

/-- The ASCII blanks. -/
def space : CharSet := (range '\t' '\r').union (single ' ')

/-- The visible ASCII characters. -/
def graph : CharSet := range '!' '~'

/-- A set of ASCII characters by its customary name. -/
def named? : String → Option CharSet
  | "alnum" => some alnum
  | "alpha" => some alpha
  | "ascii" => some ascii
  | "blank" => some (ofChars ['\t', ' '])
  | "cntrl" => some (ascii.diff (range ' ' '~'))
  | "digit" => some digit
  | "graph" => some graph
  | "lower" => some (range 'a' 'z')
  | "print" => some (range ' ' '~')
  | "punct" => some (graph.diff alnum)
  | "space" => some space
  | "upper" => some (range 'A' 'Z')
  | "word" => some word
  | "xdigit" => some (ofRanges [('0', '9'), ('A', 'F'), ('a', 'f')])
  | _ => .none

end CharSet
end MemoryPlan.Text
