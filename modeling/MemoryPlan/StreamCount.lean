import MemoryPlan.Word
import MemoryPlan.Fault
import MemoryPlan.Text.Blank
import MemoryPlan.Text.Numeral
/-!
# Stream counts

How many requests a caller wants to run side by side: a fixed positive number, or as many as fit.
-/

namespace MemoryPlan

/-- A requested number of concurrent requests. -/
inductive StreamCount where
  /-- As many as memory and device allow. -/
  | auto
  /-- At most this many; the number is positive and fits a word. -/
  | fixed (count : Nat) (positive : 0 < count) (fits : count < Word.limit)
  deriving Repr

namespace StreamCount

instance : Inhabited StreamCount := ⟨auto⟩

/-- The word that stands for `auto`. -/
def autoToken : String := "AUTO"

/-- The fixed count of that number; zero is refused. -/
def ofNat? (count : Nat) : Except PlanError StreamCount :=
  if positive : 0 < count then
    if fits : count < Word.limit then .ok (fixed count positive fits)
    else .error (.invalidConfiguration (.streams (toString count)))
  else .error (.invalidConfiguration .zeroStreams)

/-- The requested number, if there is one. -/
def requested : StreamCount → Option Nat
  | auto => none
  | fixed count _ _ => some count

theorem requested_inj {a b : StreamCount} : a.requested = b.requested ↔ a = b := by
  cases a <;> cases b <;> simp [requested]

instance : DecidableEq StreamCount := fun _ _ => decidable_of_iff _ requested_inj

/-- The count as settings write it. -/
def text : StreamCount → String
  | auto => autoToken
  | fixed count _ _ => toString count

/-- Reads a count: blanks around it and the case of the token do not matter. -/
def ofText? (s : String) : Except PlanError StreamCount :=
  let trimmed := Text.trim s
  if Text.lowerAscii trimmed = Text.lowerAscii autoToken then .ok auto
  else match Text.unsigned? Word.limit trimmed with
    | some count => ofNat? count
    | none => .error (.invalidConfiguration (.streams trimmed))

end StreamCount
end MemoryPlan
