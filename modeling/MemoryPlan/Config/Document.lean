import MemoryPlan.Config
import MemoryPlan.Document
/-!
# Configurations as documents

A configuration can be kept as a structured document: a map of its fields, or a list of their values in
order. Reading fills absent fields with defaults and does not validate.
-/

namespace MemoryPlan

namespace PlanConfig

/-- Reads a device ordinal. -/
def deviceOfDocument? : Document → Option Int :=
  Document.integerIn? (-(deviceBound : Int)) deviceBound

/-- Reads a stream count. -/
def streamsOfDocument? : Document → Option StreamCount
  | .text s => (StreamCount.ofText? s).toOption
  | _ => none

/-- Reads an alignment. -/
def alignmentOfDocument? (document : Document) : Option Nat :=
  (document.integerIn? 0 Word.limit).map Int.toNat

/-- Reads a value, or keeps its default if it is absent. -/
def valueOr {α : Type} (read : Document → Option α) (absent : α) : Option Document → Option α
  | none => some absent
  | some document => read document

/-- The configuration of three values that may be absent. -/
def ofValues? (deviceId streams alignment : Option Document) : Option PlanConfig := do
  let deviceId ← valueOr deviceOfDocument? standard.deviceId deviceId
  let streams ← valueOr streamsOfDocument? standard.streams streams
  let alignment ← valueOr alignmentOfDocument? standard.alignment alignment
  return ⟨deviceId, streams, alignment⟩

/-- Reads a configuration from a map, whose unknown fields are passed over, or from a list of at most
three values. -/
def ofDocument? : Document → Option PlanConfig
  | .fields entries =>
    ofValues? (Document.lookup? entries "device_id") (Document.lookup? entries "throughput_streams")
      (Document.lookup? entries "alignment")
  | .list items =>
    if items.length ≤ 3 then ofValues? items[0]? items[1]? items[2]? else none
  | _ => none

/-- The configuration as a map of all its fields. -/
def toDocument (config : PlanConfig) : Document :=
  .fields [("device_id", .integer config.deviceId), ("throughput_streams", .text config.streams.text),
    ("alignment", .integer config.alignment)]

end PlanConfig
end MemoryPlan
