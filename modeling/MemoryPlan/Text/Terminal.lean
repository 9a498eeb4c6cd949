import MemoryPlan.Text.Numeral
/-!
# Text for terminals

Some control characters can steer a terminal. Text that a terminal shows writes them by number; line
feeds, tabs, carriage returns and all other characters stay as they are.
-/

namespace MemoryPlan.Text

/-- The control characters of one byte that can steer a terminal: escape, bell, backspace, form feed and
delete. -/
def steeringBytes : List Char := ['\x1b', '\x07', '\x08', '\x0c', '\x7f']

/-- One character as a terminal is given it. -/
def disarmedChar (c : Char) : String :=
  if c ∈ steeringBytes then
    (if c.toNat < 0x10 then "\\x0" else "\\x") ++ hexadecimal c.toNat
  else if 0x80 ≤ c.toNat ∧ c.toNat ≤ 0x9F then "\\u\x7b" ++ hexadecimal c.toNat ++ "\x7d"
  else c.toString

/-- The text as a terminal is given it. -/
def disarmed (s : String) : String := String.join (s.toList.map disarmedChar)

end MemoryPlan.Text
