import Mathlib.Data.List.Nodup
import MemoryPlan.Proofs.Assignment.Walk
/-!
# Questions to an assignment

An assignment answers about a buffer by its content: it has data exactly when it is constant, a lifespan
exactly when it is transient, and it is listed accordingly.
-/

namespace MemoryPlan

namespace Assignment

variable {graph : Graph} {position : Nat} {a : Assignment} {id : BufferId}

/-- A buffer is found exactly if it is known. -/
theorem find_eq_ok {x : AssignedBuffer} : a.find id = .ok x ↔ a.buffer? id = some x := by
  unfold find
  constructor
  · intro h
    split at h
    · next buffer hbuffer =>
      rw [hbuffer]
      exact congrArg some (Except.ok.inj h)
    · cases h
  · intro h
    rw [h]

/-- The size is that of the known buffer. -/
theorem bufferSize_eq_ok {size : Nat} :
    a.bufferSize id = .ok size ↔ ∃ x, a.buffer? id = some x ∧ x.size = size := by
  unfold bufferSize
  rw [Except.map_eq_ok]
  simp only [find_eq_ok]

/-- Data are found exactly for a buffer that keeps them. -/
theorem constantData_eq_ok {data : Bytes} : a.constantData id = .ok data ↔ a.Keeps id data := by
  unfold constantData Keeps
  rw [Except.bind_eq_ok]
  constructor
  · rintro ⟨x, hx, h⟩
    refine ⟨x, find_eq_ok.mp hx, ?_⟩
    split at h
    · next other hcontent =>
      rw [hcontent, Except.ok.inj h]
    · cases h
  · rintro ⟨x, hx, hcontent⟩
    refine ⟨x, find_eq_ok.mpr hx, ?_⟩
    rw [hcontent]

/-- A lifespan is found exactly for a buffer that has it. -/
theorem lifespan_eq_ok {start finish : Nat} :
    a.lifespan id = .ok (start, finish) ↔ a.Spans id start finish := by
  unfold lifespan Spans
  rw [Except.bind_eq_ok]
  constructor
  · rintro ⟨x, hx, h⟩
    refine ⟨x, find_eq_ok.mp hx, ?_⟩
    split at h
    · next start' finish' hcontent =>
      obtain ⟨rfl, rfl⟩ := Prod.mk.inj (Except.ok.inj h)
      exact hcontent
    · cases h
  · rintro ⟨x, hx, hcontent⟩
    refine ⟨x, find_eq_ok.mpr hx, ?_⟩
    rw [hcontent]

/-- No two buffers have the same number. -/
theorem Orderly.nodup_ids (ho : Orderly graph position a) (p : AssignedBuffer → Bool) :
    ((a.buffers.filter p).map AssignedBuffer.id).Nodup := by
  have hall : (a.buffers.map AssignedBuffer.id).Nodup := by
    rw [List.nodup_iff_getElem?_ne_getElem?]
    intro i j hij hj heq
    rw [List.length_map] at hj
    have hself : ∀ k (hk : k < a.buffers.length), (a.buffers.map AssignedBuffer.id)[k]? = some ⟨k⟩ := by
      intro k hk
      rw [List.getElem?_map, List.getElem?_eq_getElem hk]
      exact congrArg some (ho.numbered (List.getElem?_eq_getElem (l := a.buffers) hk))
    rw [hself i (by omega), hself j hj] at heq
    have hindex := congrArg BufferId.index (Option.some.inj heq)
    dsimp only at hindex
    omega
  exact hall.sublist (List.filter_sublist.map AssignedBuffer.id)

/-- A list of the buffers of some content holds the numbers of these buffers. -/
theorem mem_ids_iff (ho : Orderly graph position a) {p : AssignedBuffer → Bool} :
    id ∈ (a.buffers.filter p).map AssignedBuffer.id ↔ ∃ x, a.buffer? id = some x ∧ p x = true := by
  rw [List.mem_map]
  constructor
  · rintro ⟨x, hx, rfl⟩
    obtain ⟨hmem, hp⟩ := List.mem_filter.mp hx
    obtain ⟨i, hi, rfl⟩ := List.getElem_of_mem hmem
    have hbuffer : a.buffer? ⟨i⟩ = some a.buffers[i] := List.getElem?_eq_getElem hi
    exact ⟨_, (congrArg a.buffer? (ho.numbered hbuffer)).trans hbuffer, hp⟩
  · rintro ⟨x, hx, hp⟩
    exact ⟨x, List.mem_filter.mpr ⟨List.mem_of_getElem? hx, hp⟩, ho.numbered hx⟩

/-- The buffers listed as constant are those with data. -/
theorem mem_constantIds_iff (ho : Orderly graph position a) :
    id ∈ a.constantIds ↔ ∃ data, a.Keeps id data := by
  unfold constantIds Keeps
  rw [mem_ids_iff ho]
  constructor
  · rintro ⟨x, hx, hconstant⟩
    cases hcontent : x.content with
    | constant data => exact ⟨data, x, hx, hcontent⟩
    | transient start finish => simp [AssignedBuffer.isConstant, hcontent] at hconstant
  · rintro ⟨data, x, hx, hcontent⟩
    exact ⟨x, hx, by simp [AssignedBuffer.isConstant, hcontent]⟩

/-- The buffers listed as transient are those with a lifespan. -/
theorem mem_transientIds_iff (ho : Orderly graph position a) :
    id ∈ a.transientIds ↔ ∃ start finish, a.Spans id start finish := by
  unfold transientIds Spans
  rw [mem_ids_iff ho]
  constructor
  · rintro ⟨x, hx, htransient⟩
    cases hcontent : x.content with
    | constant data => simp [AssignedBuffer.isConstant, hcontent] at htransient
    | transient start finish => exact ⟨start, finish, x, hx, hcontent⟩
  · rintro ⟨start, finish, x, hx, hcontent⟩
    exact ⟨x, hx, by simp [AssignedBuffer.isConstant, hcontent]⟩

end Assignment
end MemoryPlan
