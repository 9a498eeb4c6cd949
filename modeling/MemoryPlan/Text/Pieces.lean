/-!
# Pieces of text

A text is cut at every separator; the lines of a text are cut at every line feed. Places inside a text can
also be counted in bytes of its UTF-8 form.
-/

namespace MemoryPlan.Text

/-- The pieces of a list between separators. -/
def pieces (separator : Char) : List Char → List (List Char)
  | [] => [[]]
  | c :: rest =>
    match pieces separator rest with
    | [] => [[c]]
    | piece :: others => if c = separator then [] :: piece :: others else (c :: piece) :: others

/-- The pieces of a text between separators. -/
def split (separator : Char) (s : String) : List String :=
  (pieces separator s.toList).map String.ofList

/-- The lines of a text; what follows its last line feed is a line only if it is not empty. -/
def lines (s : String) : List String :=
  let all := split '\n' s
  if all.getLast? = some "" then all.dropLast else all

/-- The number of bytes of characters. -/
def byteLength (cs : List Char) : Nat := (cs.map Char.utf8Size).foldr (· + ·) 0

/-- The characters that lie within so many bytes. -/
def takeBytes (n : Nat) : List Char → List Char
  | [] => []
  | c :: rest => if c.utf8Size ≤ n then c :: takeBytes (n - c.utf8Size) rest else []

/-- The characters that start behind so many bytes. -/
def dropBytes (n : Nat) : List Char → List Char
  | [] => []
  | c :: rest => if n = 0 then c :: rest else dropBytes (n - c.utf8Size) rest

end MemoryPlan.Text
