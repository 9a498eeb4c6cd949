import MemoryPlan.Log.Directive
/-!
# Log filters

A filter is a list of directives. Outside spans, those decide that do not look into spans: among them the
one with the longest target, and of two with the same target the later one. Inside a span also passes what
a directive about this span lets pass. What no directive applies to is not logged. The only spans are those
of compilations, each with the network's name as its field.
-/

namespace MemoryPlan

/-- The directives in the order in which they were written. -/
structure LogFilter where
  /-- The directives. -/
  directives : List Directive
  deriving DecidableEq, Repr

namespace Directive

/-- The name of the span of a compilation. -/
def compilationSpan : String := "compile"

/-- The field of the span of a compilation. -/
def networkField : String := "network"

/-- The field of an event. -/
def messageField : String := "message"

/-- Whether the directive can decide about the events of a target without looking into spans. -/
def decidesEvents (d : Directive) (target : String) : Bool :=
  d.isStatic && d.covers target && d.field.all fun condition => condition.name == messageField

/-- Whether the directive can decide about spans without looking into them. -/
def decidesSpans (d : Directive) : Bool := d.isStatic && d.covers Part.compilation.target

/-- Whether the directive looks into the spans of compilations. -/
def watches (d : Directive) : Bool :=
  d.isDynamic && d.covers Part.compilation.target && d.span.all (· == compilationSpan) &&
    d.field.all fun condition => condition.name == networkField

/-- Whether the span of a network's compilation meets the directive's conditions. -/
def meets (d : Directive) (network : String) : Bool :=
  d.watches && d.field.all fun condition => condition.admits network

/-- Whether one directive yields to another that can decide as well: to one with a longer target, then to
one with a condition on a field, then to one with a later name of the field, and else to a later one. -/
def yieldsTo (d other : Directive) : Bool :=
  if d.target.length ≠ other.target.length then d.target.length < other.target.length
  else match d.field, other.field with
    | none, _ => true
    | some _, none => false
    | some mine, some others => mine.name ≤ others.name

end Directive

namespace LogFilter

/-- The filter with one level for all targets. -/
def ofLevel (level : Level) : LogFilter := ⟨[{ target := "", level := some level }]⟩

/-- Reads a filter: directives separated by commas. Without any directive nothing is logged. -/
def ofText? (s : String) : Except LogError LogFilter :=
  (((Text.split ',' s).filter fun piece => !piece.isEmpty).mapM Directive.ofText?).map LogFilter.mk

/-- The better of two directives that can decide. -/
def prefer (best : Option Directive) (d : Directive) : Option Directive :=
  match best with
  | none => some d
  | some b => if b.yieldsTo d then some d else some b

/-- Whether a level passes by the best of the directives that can decide. -/
def allowed (filter : LogFilter) (decides : Directive → Bool) (level : Level) : Bool :=
  ((filter.directives.filter decides).foldl prefer none).any fun d => d.allows level

/-- Whether a level is logged for a target outside spans. -/
def passes (filter : LogFilter) (level : Level) (target : String) : Bool :=
  filter.allowed (fun d => d.decidesEvents target) level

/-- The directives that are not repealed by a later one with the same conditions. -/
def inForce : List Directive → List Directive
  | [] => []
  | d :: rest => if rest.any d.sameConditions then inForce rest else d :: inForce rest

/-- How many levels pass, for any target, inside the compilation of a network by the directives about it. -/
def rankInside (filter : LogFilter) (network : String) : Nat :=
  (((inForce filter.directives).filter fun d => d.meets network).map Directive.rank).foldl max 0

/-- Whether a level is logged for a target, in the compilation of a network if one is given. -/
def passesIn (filter : LogFilter) (network : Option String) (level : Level) (target : String) : Bool :=
  network.any (fun name => level.rank ≤ filter.rankInside name) || filter.passes level target

/-- How many levels could pass at all; a condition on the value of a field leaves all of them possible. -/
def reach (filter : LogFilter) : Nat :=
  if filter.directives.any fun d => (d.field.bind FieldCondition.value).isSome then Level.trace.rank
  else (filter.directives.map Directive.rank).foldl max 0

/-- The level of the spans of compilations. -/
def spanLevel : Level := .info

/-- Whether the spans of compilations are kept: those that a directive looks into, as far as their level
could pass at all, and those that pass like an event. -/
def keepsSpans (filter : LogFilter) : Bool :=
  (filter.directives.any Directive.watches && spanLevel.rank ≤ filter.reach) ||
    filter.allowed Directive.decidesSpans spanLevel

end LogFilter
end MemoryPlan
