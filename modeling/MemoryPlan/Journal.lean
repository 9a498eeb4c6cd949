import MemoryPlan.Event
/-!
# Journals

A journal holds what was reported, in the order in which it was reported (`Journal.toList`): events, and the
bounds of compilations. It is kept from its latest entry on, so that a report does not depend on how much was
reported before.
-/

namespace MemoryPlan

/-- One entry of a journal: an event, or the bounds of a network's compilation. -/
inductive Record where
  /-- An event was reported. -/
  | event (event : Event)
  /-- An event was reported by another caller than the one whose journal this is. -/
  | elsewhere (event : Event)
  /-- The compilation of a network begins. -/
  | enter (network : String)
  /-- The compilation of a network ends. -/
  | leave (network : String)
  deriving DecidableEq, Repr

namespace Record

/-- The event of an entry, if it is one of this caller. -/
def event? : Record → Option Event
  | event e => some e
  | _ => none

/-- The entry in the journal of another caller; the bounds of a compilation are of no concern there. -/
def byOther? : Record → Option Record
  | event e => some (elsewhere e)
  | elsewhere e => some (elsewhere e)
  | _ => none

/-- Whether another caller reported the entry. -/
def isElsewhere : Record → Bool
  | elsewhere _ => true
  | _ => false

end Record

/-- What was reported so far. -/
structure Journal where
  /-- The entries, the latest one first. -/
  latest : List Record := []
  deriving DecidableEq, Repr, Inhabited

namespace Journal

/-- The entries, the oldest one first. -/
def toList (journal : Journal) : List Record := journal.latest.reverse

/-- A journal with one more entry. -/
def push (journal : Journal) (record : Record) : Journal := ⟨record :: journal.latest⟩

/-- A journal with further entries, given in order. -/
def append (journal : Journal) (records : List Record) : Journal := ⟨records.reverseAux journal.latest⟩

/-- A journal of events, given in order. -/
def ofEvents (events : List Event) : Journal := append {} (events.map .event)

/-- What another caller reported is appended as such. -/
def appendOther (journal other : Journal) : Journal :=
  ⟨other.latest.filterMap Record.byOther? ++ journal.latest⟩

@[simp] theorem toList_empty : toList {} = [] := rfl

@[simp] theorem toList_append (journal : Journal) (records : List Record) :
    (journal.append records).toList = journal.toList ++ records := by
  simp [append, toList, List.reverseAux_eq]

@[simp] theorem toList_appendOther (journal other : Journal) :
    (journal.appendOther other).toList = journal.toList ++ other.toList.filterMap Record.byOther? := by
  simp [appendOther, toList]

end Journal
end MemoryPlan
