/-!
# Documents

A structured document, as configurations are kept and exchanged: texts, integers, lists and maps. Numbers
that are not written as integers are kept by their text.
-/

namespace MemoryPlan

/-- A structured document. -/
inductive Document where
  /-- The empty value. -/
  | null
  /-- A truth value. -/
  | bool (value : Bool)
  /-- A number written as an integer. -/
  | integer (value : Int)
  /-- A number written with a fraction or an exponent, by its text. -/
  | fraction (written : String)
  /-- A text. -/
  | text (value : String)
  /-- A list of documents. -/
  | list (items : List Document)
  /-- A map from names to documents; of two entries of one name the later counts. -/
  | fields (entries : List (String × Document))
  deriving Inhabited

namespace Document

/-- The entry of a name in a map's entries. -/
def lookup? (entries : List (String × Document)) (name : String) : Option Document :=
  entries.reverse.lookup name

/-- The entry of a name; null if there is none, or if the document is not a map. -/
def field (document : Document) (name : String) : Document :=
  match document with
  | fields entries => (lookup? entries name).getD null
  | _ => null

/-- An integer in the range `[low, high)`. -/
def integerIn? (low high : Int) : Document → Option Int
  | integer n => if low ≤ n ∧ n < high then some n else none
  | _ => none

end Document
end MemoryPlan
