import Mathlib.Data.List.Perm.Basic
import MemoryPlan.Proofs.Transient.Plain
/-!
# Orders of adding

Buffers can be added in any order. A set takes in several buffers exactly if it is valid with all of them, and
validity speaks of the buffers only, not of their order: in particular the rounded sizes, which are checked at each
step, never exceed their sum. Buffers of distinct ids stand in one order of placement, so the layout is the
same too.
-/

namespace MemoryPlan.TransientSet

variable {set other : TransientSet}

/-- A set that is valid with more buffers takes them in one by one. -/
theorem addAll_of_valid {alignment : Alignment} {first more : List Transient}
    (valid : Valid { alignment, buffers := first ++ more }) :
    (addAll { alignment, buffers := first } more).result = .ok { alignment, buffers := first ++ more } := by
  unfold addAll
  rw [Progress.result_walk]
  induction more generalizing first with
  | nil => rw [List.append_nil]; rfl
  | cons t rest ih =>
    have hmem : t ∈ first ++ t :: rest := List.mem_append_right _ List.mem_cons_self
    have hnew : ∀ u ∈ first, u.id ≠ t.id := by
      have hdistinct := valid.distinct
      rw [List.map_append, List.nodup_append] at hdistinct
      intro u hu
      exact hdistinct.2.2 u.id (List.mem_map_of_mem hu) t.id (List.mem_map_of_mem List.mem_cons_self)
    have hroom : reserved { alignment, buffers := first } + alignment.up t.size + alignment.bytes < Word.limit := by
      have htotal := valid.room
      have hsum : reserved { alignment, buffers := first ++ t :: rest } =
          reserved { alignment, buffers := first } + Placement.roundedSize alignment (t :: rest) :=
        Placement.roundedSize_append alignment first (t :: rest)
      rw [hsum, Placement.roundedSize_cons] at htotal
      dsimp only at htotal
      omega
    have hadd : add { alignment, buffers := first } t = .ok { alignment, buffers := first ++ [t] } :=
      add_eq_ok.mpr ⟨valid.ordered t hmem, hnew, valid.sizes t hmem, hroom, rfl⟩
    rw [List.append_cons] at valid ⊢
    rw [List.foldlM_cons, hadd]
    exact ih valid

/-- Validity does not depend on the order of the buffers. -/
theorem Valid.perm (valid : Valid set) (halignment : other.alignment = set.alignment)
    (hperm : other.buffers.Perm set.buffers) : Valid other := by
  have hreserved : other.reserved = set.reserved := by
    unfold reserved
    rw [halignment]
    exact (hperm.map _).foldr_eq' (fun x _ y _ z => Nat.add_left_comm y x z) 0
  refine ⟨(hperm.map _).nodup_iff.mpr valid.distinct, ?_, ?_, ?_⟩
  · intro t ht
    exact valid.ordered t (hperm.mem_iff.mp ht)
  · intro t ht
    rw [halignment]
    exact valid.sizes t (hperm.mem_iff.mp ht)
  · rw [hreserved, halignment]
    exact valid.room

/-- The same buffers stand in the same order of placement. -/
theorem Valid.ordered_eq (valid : Valid set) (valid' : Valid other) (hperm : other.buffers.Perm set.buffers) :
    other.ordered = set.ordered := by
  apply List.Perm.eq_of_pairwise _ valid'.ordered_precedes valid.ordered_precedes
    ((other.ordered_perm.trans hperm).trans set.ordered_perm.symm)
  intro t u _ _ htu hut
  unfold Transient.Precedes at htu hut
  omega

/-- The same buffers have the same layout, in whatever order they were added. -/
theorem Valid.layout_eq (valid : Valid set) (valid' : Valid other) (halignment : other.alignment = set.alignment)
    (hperm : other.buffers.Perm set.buffers) : other.layout = set.layout := by
  have hplacements : other.placements = set.placements := by
    unfold placements
    rw [halignment, valid.ordered_eq valid' hperm]
  unfold layout
  rw [hplacements]

/-- Buffers that are all accepted in one order are all accepted in every order, and the layout is the same. -/
theorem layout_of_perm (alignment : Alignment) {buffers others : List Transient} {set : TransientSet}
    (h : (addAll { alignment } buffers).result = .ok set) (hperm : others.Perm buffers) :
    ∃ other, (addAll { alignment } others).result = .ok other ∧ other.layout = set.layout := by
  obtain ⟨valid, rfl⟩ := (valid_empty alignment).addAll h
  have valid' : Valid { alignment, buffers := [] ++ others } := valid.perm rfl hperm
  exact ⟨_, addAll_of_valid valid', valid.layout_eq valid' rfl hperm⟩

/-- Buffers 1 and 2 start together, and buffer 2 is the larger one. In either order it lies behind buffer 1, at a
multiple of 64. -/
theorem layout_of_perm_swapped :
    let alignment : Alignment := ⟨64, by decide, by decide⟩
    let buffers : List Transient := [⟨⟨1⟩, 0, 2, 20⟩, ⟨⟨2⟩, 0, 1, 70⟩, ⟨⟨3⟩, 2, 3, 40⟩]
    let others : List Transient := [⟨⟨3⟩, 2, 3, 40⟩, ⟨⟨2⟩, 0, 1, 70⟩, ⟨⟨1⟩, 0, 2, 20⟩]
    (addAll { alignment } buffers).result = .ok { alignment, buffers } ∧ others.Perm buffers ∧
      ∃ other, (addAll { alignment } others).result = .ok other ∧
        other.layout = ⟨134, [(⟨1⟩, 0), (⟨2⟩, 64), (⟨3⟩, 64)]⟩ := by
  intro alignment buffers others
  have valid : Valid { alignment, buffers := [] ++ buffers } :=
    ⟨by decide, by decide, by decide, by decide +kernel⟩
  have h : (addAll { alignment } buffers).result = .ok { alignment, buffers } := addAll_of_valid valid
  have hperm : others.Perm buffers := by decide
  have hlayout : layout { alignment, buffers } = ⟨134, [(⟨1⟩, 0), (⟨2⟩, 64), (⟨3⟩, 64)]⟩ := by
    unfold layout
    rw [placements_eq (by decide)]
    decide +kernel
  rw [← hlayout]
  exact ⟨h, hperm, layout_of_perm alignment h hperm⟩

end MemoryPlan.TransientSet
