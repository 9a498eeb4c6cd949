import MemoryPlan.Text.CharSet
/-!
# Patterns

Regular expressions over characters. Of two ways to read a text the first by preference counts, so it
matters how an expression is put together: the constructors `sequence`, `alternatives`, `oneOf` and
`repetition` bring what they build into a simple form, in which neighbouring texts are one text, choices
between characters are sets, and what all choices begin with stands before them.
-/

namespace MemoryPlan.Text

/-- What can be asked of a place between two bytes of a text. -/
inductive Assertion where
  /-- The text starts here. -/
  | textStart
  /-- The text ends here. -/
  | textEnd
  /-- A line starts here. -/
  | lineStart
  /-- A line ends here. -/
  | lineEnd
  /-- A line starts here, where carriage returns end lines as well. -/
  | anyLineStart
  /-- A line ends here, where carriage returns end lines as well. -/
  | anyLineEnd
  /-- A word starts or ends here. -/
  | wordEdge
  /-- No word starts or ends here. -/
  | noWordEdge
  /-- A word starts here. -/
  | wordStart
  /-- A word ends here. -/
  | wordEnd
  deriving DecidableEq, Repr

/-- How often something may be repeated. -/
inductive Times where
  /-- Once or not at all. -/
  | atMostOnce
  /-- Any number of times. -/
  | any
  /-- Once or more often. -/
  | atLeastOnce
  deriving DecidableEq, Repr

/-- Why a pattern is refused. -/
inductive PatternFault where
  /-- It cannot be read. -/
  | unreadable
  /-- It asks for words beyond ASCII. -/
  | wideWords
  deriving DecidableEq, Repr

/-- A regular expression. -/
inductive Pattern where
  /-- The empty text. -/
  | empty
  /-- These characters. -/
  | text (cs : List Char)
  /-- One character of a set; a set that was written for ASCII text only is not the same as another. -/
  | one (set : CharSet) (isForAscii : Bool)
  /-- The empty text where an assertion holds. -/
  | check (assertion : Assertion)
  /-- Two patterns, one after the other. -/
  | seq (first second : Pattern)
  /-- One of two patterns, the first by preference. -/
  | choice (first second : Pattern)
  /-- A pattern in numbered parentheses. -/
  | group (number : Nat) (body : Pattern)
  /-- Repetitions of a pattern, many by preference or few. -/
  | repeated (body : Pattern) (times : Times) (many : Bool)
  deriving DecidableEq, Repr

namespace Pattern

/-- The pattern of no text. -/
def nothing : Pattern := one .none true

/-- The parts of a sequence, one after the other. -/
def parts : Pattern → List Pattern
  | seq first second => first :: parts second
  | empty => []
  | other => [other]

/-- The choices of a pattern, the preferred one first. -/
def choices : Pattern → List Pattern
  | choice first second => first :: choices second
  | other => [other]

/-- Parts one after the other. -/
def ofParts : List Pattern → Pattern
  | [] => empty
  | [part] => part
  | part :: rest => seq part (ofParts rest)

/-- Choices, the preferred one first. -/
def ofChoices : List Pattern → Pattern
  | [] => nothing
  | [p] => p
  | p :: rest => choice p (ofChoices rest)

/-- Puts a part before others; two texts become one. -/
def joined (part : Pattern) (rest : List Pattern) : List Pattern :=
  match part, rest with
  | text cs, text ds :: others => text (cs ++ ds) :: others
  | part, rest => part :: rest

/-- Patterns one after the other. -/
def sequence (ps : List Pattern) : Pattern := ofParts ((ps.flatMap parts).foldr joined [])

/-- One character of a set. -/
def oneOf (set : CharSet) (isForAscii : Bool) : Pattern :=
  if set.isEmpty then nothing
  else match set.only? with
    | some c => text [c]
    | none => one set isForAscii

/-- The character of a pattern for one character. -/
def char? : Pattern → Option Char
  | text [c] => some c
  | _ => none

/-- The set of a pattern for one character of a set. -/
def set? : Pattern → Option CharSet
  | one set _ => some set
  | _ => none

/-- The choices between characters or between sets as one set. -/
def asSet? (ps : List Pattern) : Option CharSet :=
  match ps.mapM char? with
  | some cs => some (.ofChars cs)
  | none => (ps.mapM set?).map .unionAll

/-- What two lists begin with. -/
def sharedStart {α : Type} [DecidableEq α] : List α → List α → List α
  | a :: as, b :: bs => if a = b then a :: sharedStart as bs else []
  | _, _ => []

/-- Whether a pattern is a sequence. -/
def isSequence : Pattern → Bool
  | seq _ _ => true
  | _ => false

/-- The parts that all patterns begin with, if all of them are sequences. -/
def sharedParts (ps : List Pattern) : List Pattern :=
  if ps.all isSequence then
    match ps.map parts with
    | [] => []
    | first :: others => others.foldl sharedStart first
  else []

/-- What is left of a sequence without its first parts. -/
def dropParts (n : Nat) (p : Pattern) : Pattern := ofParts ((parts p).drop n)

/-- Sequences without the parts that all of them begin with. -/
def dropShared (ps : List Pattern) : List Pattern := ps.map (dropParts (sharedParts ps).length)

/-- The choices of all patterns of a list. -/
def allChoices (ps : List Pattern) : List Pattern := ps.flatMap choices

/-- The number of constructors in a pattern. -/
def size : Pattern → Nat
  | seq first second | choice first second => first.size + second.size + 1
  | group _ body | repeated body _ _ => body.size + 1
  | _ => 1

/-- The number of constructors in all patterns of a list. -/
def totalSize (ps : List Pattern) : Nat := (ps.map size).foldr (· + ·) 0

theorem size_pos (p : Pattern) : 0 < p.size := by
  cases p <;> simp [size]

theorem totalSize_choices_le (p : Pattern) : totalSize p.choices ≤ p.size := by
  fun_induction choices p with
  | case1 first second ih =>
    simp only [totalSize, List.map_cons, List.foldr_cons, size] at ih ⊢
    omega
  | case2 => simp [totalSize]

theorem totalSize_append (ps qs : List Pattern) : totalSize (ps ++ qs) = totalSize ps + totalSize qs := by
  induction ps with
  | nil => simp [totalSize]
  | cons p rest ih =>
    simp only [totalSize, List.cons_append, List.map_cons, List.foldr_cons] at ih ⊢
    omega

theorem totalSize_allChoices_le (ps : List Pattern) : totalSize (allChoices ps) ≤ totalSize ps := by
  induction ps with
  | nil => simp [allChoices, totalSize]
  | cons p rest ih =>
    have hp := totalSize_choices_le p
    have hcons : totalSize (p :: rest) = p.size + totalSize rest := rfl
    rw [allChoices, List.flatMap_cons, totalSize_append, hcons]
    exact Nat.add_le_add hp ih

theorem size_ofParts_tail_le (ps : List Pattern) : (ofParts ps.tail).size ≤ (ofParts ps).size := by
  match ps with
  | [] => simp
  | [p] => exact size_pos p
  | p :: q :: rest => simp only [List.tail_cons, ofParts, size]; omega

theorem size_ofParts_drop_le (n : Nat) (ps : List Pattern) :
    (ofParts (ps.drop n)).size ≤ (ofParts ps).size := by
  induction n generalizing ps with
  | zero => simp
  | succ n ih =>
    rw [← List.drop_tail]
    exact Nat.le_trans (ih ps.tail) (size_ofParts_tail_le ps)

theorem size_ofParts_parts_le (p : Pattern) : (ofParts p.parts).size ≤ p.size := by
  fun_induction parts p with
  | case1 first second ih =>
    cases h : parts second with
    | nil => simp [ofParts, size]; omega
    | cons q rest => rw [h] at ih; simp only [ofParts, size] at ih ⊢; omega
  | case2 => simp [ofParts]
  | case3 => simp [ofParts]

/-- A sequence becomes smaller without its first parts. -/
theorem size_dropParts_lt {p : Pattern} {n : Nat} (hp : p.isSequence = true) (hn : 0 < n) :
    (dropParts n p).size < p.size := by
  match p, n with
  | seq first second, n + 1 =>
    have hdrop := size_ofParts_drop_le n second.parts
    have hsecond := size_ofParts_parts_le second
    simp only [dropParts, parts, List.drop_succ_cons, size]
    omega

/-- Sequences that share parts are smaller without them. -/
theorem totalSize_dropShared_lt {ps : List Pattern} (h : sharedParts ps ≠ []) :
    totalSize (dropShared ps) < totalSize ps := by
  unfold dropShared
  have hn : 0 < (sharedParts ps).length := List.length_pos_iff.mpr h
  have hall : ps.all isSequence = true := by
    unfold sharedParts at h
    split at h <;> simp_all
  have hps : ps ≠ [] := by
    rintro rfl
    simp [sharedParts] at h
  generalize (sharedParts ps).length = n at hn
  clear h
  induction ps with
  | nil => exact absurd rfl hps
  | cons p rest ih =>
    obtain ⟨hp, hrest⟩ := by simpa using hall
    have hlt := size_dropParts_lt hp hn
    by_cases hnil : rest = []
    · subst hnil
      simpa [totalSize] using hlt
    · have := ih (by simpa using hrest) hnil
      simp only [totalSize, List.map_cons, List.foldr_cons] at this ⊢
      omega

/-- One of some patterns, the first ones by preference. -/
def alternatives (ps : List Pattern) : Pattern :=
  let all := allChoices ps
  match all, asSet? all with
  | [], _ => nothing
  | [p], _ => p
  | _, some set => oneOf set false
  | _, none =>
    if _h : sharedParts all = [] then ofChoices all
    else sequence (sharedParts all ++ [alternatives (dropShared all)])
  termination_by totalSize ps
  decreasing_by
    exact Nat.lt_of_lt_of_le (totalSize_dropShared_lt _h) (totalSize_allChoices_le ps)

/-- The length of the shortest text of a pattern in characters; unknown where a part has no text at all. -/
def minLength? : Pattern → Option Nat
  | empty | check _ => some 0
  | text cs => some cs.length
  | one set _ => if set.isEmpty then none else some 1
  | seq first second => (minLength? first).bind fun m => (minLength? second).map (m + ·)
  | choice first second => (minLength? first).bind fun m => (minLength? second).map (min m)
  | group _ body => minLength? body
  | repeated body times _ => (minLength? body).map fun n => if times = .atLeastOnce then n else 0

/-- Whether it is known that a pattern takes a character at least. -/
def takesSome (p : Pattern) : Bool := p.minLength?.any (0 < ·)

/-- Whether it is known that a pattern takes no character. -/
def takesNone : Pattern → Bool
  | empty | check _ => true
  | text cs => cs.isEmpty
  | one _ _ => false
  | seq first second | choice first second => takesNone first && takesNone second
  | group _ body => takesNone body
  | repeated body times _ => times == .atMostOnce && takesNone body

/-- Repetitions of a pattern; more than one of what takes no character would change nothing. -/
def repetition (p : Pattern) (times : Times) (many : Bool) : Pattern :=
  if !p.takesNone then repeated p times many
  else if times = .atLeastOnce then p else repeated p .atMostOnce many

end Pattern
end MemoryPlan.Text
