import MemoryPlan.Assignment
import MemoryPlan.Proofs.Outcome
/-!
# Growing assignments

The walk over a graph only adds to an assignment: buffers keep their number, size, data and start, and live
at least as long as before; nodes and tensors keep their buffers. What was once settled about a tensor
therefore holds of the finished assignment too.
-/

namespace MemoryPlan

/-- A buffer's content later in the walk: the same, except that a transient may live longer. -/
inductive BufferContent.Grows : BufferContent → BufferContent → Prop where
  /-- Constant data stay. -/
  | constant (data : Bytes) : Grows (.constant data) (.constant data)
  /-- A transient keeps its start. -/
  | transient (start : Nat) {finish later : Nat} (h : finish ≤ later) :
      Grows (.transient start finish) (.transient start later)

namespace BufferContent.Grows

variable {x y z : BufferContent}

theorem refl (x : BufferContent) : x.Grows x := by
  cases x with
  | constant data => exact .constant data
  | transient start finish => exact .transient start (Nat.le_refl finish)

theorem trans (hxy : x.Grows y) (hyz : y.Grows z) : x.Grows z := by
  cases hxy with
  | constant data => exact hyz
  | transient start h =>
    cases hyz with
    | transient _ h' => exact .transient start (Nat.le_trans h h')

end BufferContent.Grows

namespace AssignedBuffer

/-- A buffer later in the walk. -/
structure Grows (x y : AssignedBuffer) : Prop where
  /-- The number stays. -/
  id : y.id = x.id
  /-- The size stays. -/
  size : y.size = x.size
  /-- The content grows. -/
  content : x.content.Grows y.content

variable {x y z : AssignedBuffer}

theorem Grows.refl (x : AssignedBuffer) : x.Grows x := ⟨rfl, rfl, .refl _⟩

theorem Grows.trans (hxy : x.Grows y) (hyz : y.Grows z) : x.Grows z :=
  ⟨hyz.id.trans hxy.id, hyz.size.trans hxy.size, hxy.content.trans hyz.content⟩

/-- A later reader changes nothing about constant data. -/
theorem extended_of_constant {position : Nat} {data : Bytes} (h : x.content = .constant data) :
    x.extended position = x := by
  unfold extended
  rw [h]

/-- A later reader moves the end of a lifespan and nothing else. -/
theorem extended_of_transient {position start finish : Nat} (h : x.content = .transient start finish) :
    x.extended position = { x with content := .transient start (max finish position) } := by
  unfold extended
  rw [h]

/-- A buffer only grows when its lifespan is extended. -/
theorem grows_extended (position : Nat) (x : AssignedBuffer) : x.Grows (x.extended position) := by
  obtain ⟨id, size, content⟩ := x
  cases content with
  | constant data => exact .refl _
  | transient start finish => exact ⟨rfl, rfl, .transient start (Nat.le_max_left _ _)⟩

end AssignedBuffer

namespace Assignment

/-- An assignment later in the walk. -/
structure Extends (a b : Assignment) : Prop where
  /-- Every buffer is still there. -/
  buffers : ∀ {id : BufferId} {x : AssignedBuffer}, a.buffer? id = some x →
    ∃ y, b.buffer? id = some y ∧ x.Grows y
  /-- Every node keeps its buffers. -/
  nodes : ∀ {position : Nat} {x : OperationBuffers}, a.nodes[position]? = some x → b.nodes[position]? = some x
  /-- Every tensor keeps its buffer. -/
  tensors : ∀ {t : TensorId} {id : BufferId}, a.bufferOf? t = some id → b.bufferOf? t = some id

variable {a b c : Assignment}

theorem Extends.refl (a : Assignment) : a.Extends a :=
  ⟨fun h => ⟨_, h, .refl _⟩, fun h => h, fun h => h⟩

theorem Extends.trans (hab : a.Extends b) (hbc : b.Extends c) : a.Extends c := by
  refine ⟨?_, fun h => hbc.nodes (hab.nodes h), fun h => hbc.tensors (hab.tensors h)⟩
  intro id x hx
  obtain ⟨y, hy, hxy⟩ := hab.buffers hx
  obtain ⟨z, hz, hyz⟩ := hbc.buffers hy
  exact ⟨z, hz, hxy.trans hyz⟩

/-- Each listed buffer is there, with the listed size. -/
def Sized (a : Assignment) (entries : List (BufferId × Nat)) : Prop :=
  ∀ entry ∈ entries, ∃ x, a.buffer? entry.1 = some x ∧ x.size = entry.2

/-- A buffer keeps its size. -/
theorem Extends.sized (h : a.Extends b) {entries : List (BufferId × Nat)} (hsized : a.Sized entries) :
    b.Sized entries := by
  intro entry hentry
  obtain ⟨x, hx, hsize⟩ := hsized entry hentry
  obtain ⟨y, hy, hgrows⟩ := h.buffers hx
  exact ⟨y, hy, hgrows.size.trans hsize⟩

/-- The buffer of a tensor depends on the bindings of tensors alone. -/
theorem bufferOf?_congr (h : b.tensors = a.tensors) (t : TensorId) : b.bufferOf? t = a.bufferOf? t := by
  unfold bufferOf?
  rw [h]

/-- What a list holds stays in place when the list gets longer at its end. -/
theorem getElem?_append_of_some {α : Type} {items : List α} {i : Nat} {x : α} (h : items[i]? = some x)
    (more : List α) : (items ++ more)[i]? = some x := by
  obtain ⟨hi, -⟩ := List.getElem?_eq_some_iff.mp h
  rw [List.getElem?_append_left hi]
  exact h

/-- A new buffer leaves those that are known. -/
theorem buffer?_push {id : BufferId} {x : AssignedBuffer} (size : Nat) (content : BufferContent)
    (h : a.buffer? id = some x) : (a.push size content).2.buffer? id = some x :=
  getElem?_append_of_some h _

/-- A new buffer takes nothing away. -/
theorem extends_push (a : Assignment) (size : Nat) (content : BufferContent) :
    a.Extends (a.push size content).2 :=
  ⟨fun h => ⟨_, buffer?_push size content h, .refl _⟩, fun h => h, fun h => h⟩

/-- Extending one buffer leaves all others, and each keeps its number. -/
theorem buffer?_extend (a : Assignment) (id other : BufferId) (position : Nat) :
    (a.extend id position).buffer? other =
      if id = other then (a.buffer? other).map (AssignedBuffer.extended position) else a.buffer? other := by
  unfold extend buffer?
  dsimp only
  rw [List.getElem?_modify]
  obtain ⟨i⟩ := id
  obtain ⟨j⟩ := other
  by_cases h : i = j <;> simp [h]

/-- Extending a lifespan takes nothing away. -/
theorem extends_extend (a : Assignment) (id : BufferId) (position : Nat) :
    a.Extends (a.extend id position) := by
  refine ⟨?_, fun h => h, fun h => h⟩
  intro other x hx
  rw [buffer?_extend, hx]
  by_cases h : id = other
  · rw [if_pos h]
    exact ⟨_, rfl, x.grows_extended position⟩
  · rw [if_neg h]
    exact ⟨x, rfl, .refl x⟩

/-- A tensor gets a buffer once. -/
theorem extends_bind {t : TensorId} (h : a.bufferOf? t = none) (id : BufferId) :
    a.Extends (a.bind t id) := by
  refine ⟨fun h => ⟨_, h, .refl _⟩, fun h => h, ?_⟩
  intro other known hknown
  have hne : other ≠ t := by
    rintro rfl
    rw [h] at hknown
    cases hknown
  change ((t, id) :: a.tensors).lookup other = some known
  rw [List.lookup_cons, beq_false_of_ne hne]
  exact hknown

/-- Listing the buffers of a node changes no buffer. -/
theorem extends_addNode (a : Assignment) (inputs outputs : List (BufferId × Nat)) :
    a.Extends (a.addNode inputs outputs) :=
  ⟨fun h => ⟨_, h, .refl _⟩, fun h => getElem?_append_of_some h _, fun h => h⟩

/-- A transient buffer with its lifespan. -/
def Spans (a : Assignment) (id : BufferId) (start finish : Nat) : Prop :=
  ∃ x, a.buffer? id = some x ∧ x.content = .transient start finish

/-- A constant buffer with its data. -/
def Keeps (a : Assignment) (id : BufferId) (data : Bytes) : Prop :=
  ∃ x, a.buffer? id = some x ∧ x.content = .constant data

variable {id : BufferId} {start finish : Nat}

/-- A lifespan stays, and its end only moves back. -/
theorem Extends.spans (h : a.Extends b) (hs : a.Spans id start finish) :
    ∃ later, b.Spans id start later ∧ finish ≤ later := by
  obtain ⟨x, hx, hcontent⟩ := hs
  obtain ⟨y, hy, hgrows⟩ := h.buffers hx
  have hc := hgrows.content
  rw [hcontent] at hc
  generalize hcontent' : y.content = content at hc
  cases hc with
  | transient _ hle => exact ⟨_, ⟨y, hy, hcontent'⟩, hle⟩

/-- A constant buffer keeps its data. -/
theorem Extends.keeps (h : a.Extends b) {data : Bytes} (hk : a.Keeps id data) : b.Keeps id data := by
  obtain ⟨x, hx, hcontent⟩ := hk
  obtain ⟨y, hy, hgrows⟩ := h.buffers hx
  have hc := hgrows.content
  rw [hcontent] at hc
  generalize hcontent' : y.content = content at hc
  cases hc with
  | constant _ => exact ⟨y, hy, hcontent'⟩

/-- A transient that was there before had the same start and ended no later. -/
theorem Extends.spans_of_spans (h : a.Extends b) {x : AssignedBuffer} (hx : a.buffer? id = some x)
    (hs : b.Spans id start finish) : ∃ earlier, a.Spans id start earlier ∧ earlier ≤ finish := by
  obtain ⟨y, hy, hgrows⟩ := h.buffers hx
  obtain ⟨z, hz, hcontent⟩ := hs
  rw [hy] at hz
  obtain rfl := Option.some.inj hz
  have hc := hgrows.content
  rw [hcontent] at hc
  generalize hcontent' : x.content = content at hc
  cases hc with
  | transient _ hle => exact ⟨_, ⟨x, hx, hcontent'⟩, hle⟩

/-- A buffer has one lifespan. -/
theorem Spans.unique {start' finish' : Nat} (h : a.Spans id start finish)
    (h' : a.Spans id start' finish') : start = start' ∧ finish = finish' := by
  obtain ⟨x, hx, hcontent⟩ := h
  obtain ⟨y, hy, hcontent'⟩ := h'
  rw [hx] at hy
  obtain rfl := Option.some.inj hy
  rw [hcontent] at hcontent'
  exact BufferContent.transient.inj hcontent'

/-- A buffer of constant data has no lifespan. -/
theorem Keeps.not_spans {data : Bytes} (h : a.Keeps id data) : ¬a.Spans id start finish := by
  rintro ⟨y, hy, hcontent'⟩
  obtain ⟨x, hx, hcontent⟩ := h
  rw [hx] at hy
  obtain rfl := Option.some.inj hy
  rw [hcontent] at hcontent'
  cases hcontent'

end Assignment
end MemoryPlan
