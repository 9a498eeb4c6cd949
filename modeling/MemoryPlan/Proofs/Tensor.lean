import Mathlib.Algebra.Group.Nat.Defs
import Mathlib.Data.List.TakeWhile
import MemoryPlan.Tensor
/-!
# Sizes of tensors

The number of elements is multiplied up from the left, and every product on the way has to fit a word. The
products grow up to the first length of zero, so that the largest one is the product of the lengths in front of it
(`Tensor.peak`). A static tensor whose peak fits has the exact product as its number of elements. A tensor
without elements may still lack a number, if its other dimensions are large and stand in front of the zero
(`Tensor.Overshoots`); in all other cases only the product counts, and not the order of the dimensions.
-/

namespace MemoryPlan

namespace Word

variable {lengths : List Nat} {count : Nat}

/-- The lengths in front of the first zero have a positive product. -/
theorem prod_takeWhile_pos (lengths : List Nat) : 0 < (lengths.takeWhile (· ≠ 0)).prod := by
  rw [List.prod_pos_iff_forall_pos_nat]
  intro n hn
  have hne := List.mem_takeWhile_imp hn
  exact Nat.pos_of_ne_zero (by simpa using hne)

/-- Without a zero all lengths stand in front of the first one. -/
theorem prod_takeWhile_eq (hzero : 0 ∉ lengths) : (lengths.takeWhile (· ≠ 0)).prod = lengths.prod := by
  congr 1
  rw [List.takeWhile_eq_self_iff]
  intro n hn
  have hne : n ≠ 0 := ne_of_mem_of_not_mem hn hzero
  simpa using hne

/-- The lengths in front of the first zero are among those that are not zero. -/
theorem prod_takeWhile_le (lengths : List Nat) :
    (lengths.takeWhile (· ≠ 0)).prod ≤ (lengths.filter (· ≠ 0)).prod := by
  induction lengths with
  | nil => exact Nat.le_refl _
  | cons n rest ih =>
    by_cases hn : n = 0
    · rw [List.takeWhile_cons_of_neg (by simpa using hn), List.prod_nil]
      exact List.prod_pos_iff_forall_pos_nat.mpr (by simp [Nat.pos_iff_ne_zero])
    · rw [List.takeWhile_cons_of_pos (by simpa using hn), List.filter_cons_of_pos (by simpa using hn),
        List.prod_cons, List.prod_cons]
      exact Nat.mul_le_mul_left n ih

/-- A product that is checked at each step is exact, if it fits where it is largest. -/
theorem foldlM_mul?_eq (hcount : count < limit) :
    lengths.foldlM mul? count =
      if count * (lengths.takeWhile (· ≠ 0)).prod < limit then some (count * lengths.prod) else none := by
  induction lengths generalizing count with
  | nil => simp [hcount]
  | cons n rest ih =>
    rw [List.foldlM_cons]
    obtain rfl | hn := Nat.eq_zero_or_pos n
    · -- from a zero on nothing overflows
      have hzero : (0 : Nat) < limit := by decide
      have hmul : mul? count 0 = some 0 := mul?_eq_some.mpr ⟨hzero, rfl⟩
      rw [hmul]
      change rest.foldlM mul? 0 = _
      rw [ih hzero]
      simp [hzero, hcount]
    · have hne : n ≠ 0 := Nat.ne_of_gt hn
      rw [List.takeWhile_cons_of_pos (by simpa using hne), List.prod_cons, List.prod_cons,
        ← Nat.mul_assoc, ← Nat.mul_assoc]
      by_cases hstep : count * n < limit
      · have hmul : mul? count n = some (count * n) := mul?_eq_some.mpr ⟨hstep, rfl⟩
        rw [hmul]
        exact ih hstep
      · have hmul : mul? count n = none := mul?_eq_none.mpr (Nat.le_of_not_lt hstep)
        have hover : ¬ count * n * (rest.takeWhile (· ≠ 0)).prod < limit := by
          have hle := Nat.le_mul_of_pos_right (count * n) (prod_takeWhile_pos rest)
          omega
        rw [hmul, if_neg hover]
        rfl

end Word

namespace Tensor

variable {t u : Tensor}

/-- The lengths of the fixed dimensions, outermost first. -/
def lengths (t : Tensor) : List Nat := t.shape.filterMap Dimension.length?

/-- The largest product on the way to the number of elements. -/
def peak (t : Tensor) : Nat := (t.lengths.takeWhile (· ≠ 0)).prod

/-- A static tensor without elements whose number of elements is not found. -/
structure Overshoots (t : Tensor) : Prop where
  /-- Every dimension is fixed. -/
  static : t.isStatic = true
  /-- Some dimension has no length. -/
  empty : 0 ∈ t.lengths
  /-- The dimensions in front of the first one without length leave the word range. -/
  peak : Word.limit ≤ t.peak

/-- The dimensions of a static tensor are its lengths. -/
theorem map_lengths (hstatic : t.isStatic = true) : t.lengths.map .fixed = t.shape := by
  unfold isStatic at hstatic
  unfold lengths
  generalize t.shape = shape at hstatic ⊢
  induction shape with
  | nil => rfl
  | cons d rest ih =>
    rw [List.all_cons, Bool.and_eq_true] at hstatic
    cases d with
    | fixed n => exact congrArg (Dimension.fixed n :: ·) (ih hstatic.2)
    | dynamic => cases hstatic.1

/-- A dynamic dimension stops the product, if an overflow has not stopped it before. -/
theorem elementCount_of_dynamic (hdynamic : t.isStatic = false) : t.elementCount = none := by
  have hmem : Dimension.dynamic ∈ t.shape := by
    obtain ⟨d, hd, hnone⟩ := List.all_eq_false.mp hdynamic
    cases d with
    | fixed n => exact (hnone rfl).elim
    | dynamic => exact hd
  obtain ⟨before, behind, hshape⟩ := List.append_of_mem hmem
  unfold elementCount
  rw [hshape, List.foldlM_append]
  cases before.foldlM (fun count d => d.length?.bind (Word.mul? count)) 1 <;> rfl

/-- The number of elements is the product of the lengths, if they are all known and their peak fits. -/
theorem elementCount_eq (t : Tensor) :
    t.elementCount = if t.isStatic = true ∧ t.peak < Word.limit then some t.lengths.prod else none := by
  cases hstatic : t.isStatic with
  | false => simp [elementCount_of_dynamic hstatic]
  | true =>
    have hfold : t.elementCount = t.lengths.foldlM Word.mul? 1 := by
      unfold elementCount
      rw [← map_lengths hstatic, List.foldlM_map]
      rfl
    rw [hfold, Word.foldlM_mul?_eq (by decide)]
    simp [peak]

/-- The number of bytes is known if no dimension is dynamic, and neither the product of the lengths
on the way nor the bytes leave the word range. -/
theorem byteSize_eq (t : Tensor) :
    t.byteSize =
      if t.isStatic = true ∧ t.peak < Word.limit ∧ t.lengths.prod * t.element.bytes < Word.limit then
        some (t.lengths.prod * t.element.bytes)
      else none := by
  unfold byteSize
  rw [elementCount_eq]
  by_cases hcount : t.isStatic = true ∧ t.peak < Word.limit
  · rw [if_pos hcount]
    change Word.mul? _ _ = _
    simp [Word.mul?, hcount]
  · rw [if_neg hcount, if_neg fun h => hcount ⟨h.1, h.2.1⟩]
    rfl

/-- A tensor with a zero among its lengths has no elements. -/
theorem prod_eq_zero (hempty : 0 ∈ t.lengths) : t.lengths.prod = 0 :=
  List.prod_eq_zero_iff_exists_zero_nat.mpr ⟨0, hempty, rfl⟩

/-- Unless a tensor overshoots, its peak fits exactly if its product does. -/
theorem peak_lt_iff (h : ¬ t.Overshoots) (hstatic : t.isStatic = true) :
    t.peak < Word.limit ↔ t.lengths.prod < Word.limit := by
  by_cases hempty : 0 ∈ t.lengths
  · rw [prod_eq_zero hempty]
    exact iff_of_true (Nat.lt_of_not_le fun hover => h ⟨hstatic, hempty, hover⟩) (by decide)
  · rw [peak, Word.prod_takeWhile_eq hempty]

/-- An element has at least one byte, so that the elements fit if their bytes do. -/
theorem prod_lt_of_bytes_lt (hbytes : t.lengths.prod * t.element.bytes < Word.limit) :
    t.lengths.prod < Word.limit := by
  have hpos : 0 < t.element.bytes := by cases t.element <;> decide
  exact Nat.lt_of_le_of_lt (Nat.le_mul_of_pos_right _ hpos) hbytes

/-- Unless a tensor overshoots, its sizes are the exact products, as far as these are words. -/
theorem sizes_of_not_overshoots (h : ¬ t.Overshoots) :
    t.elementCount = (if t.isStatic = true ∧ t.lengths.prod < Word.limit then some t.lengths.prod else none) ∧
      t.byteSize =
        if t.isStatic = true ∧ t.lengths.prod * t.element.bytes < Word.limit then
          some (t.lengths.prod * t.element.bytes)
        else none := by
  have hcount : t.isStatic = true ∧ t.peak < Word.limit ↔ t.isStatic = true ∧ t.lengths.prod < Word.limit :=
    and_congr_right (peak_lt_iff h)
  have hsize : (t.isStatic = true ∧ t.peak < Word.limit ∧ t.lengths.prod * t.element.bytes < Word.limit) ↔
      t.isStatic = true ∧ t.lengths.prod * t.element.bytes < Word.limit := by
    rw [← and_assoc, hcount, and_assoc]
    exact and_congr_right fun _ => and_iff_right_of_imp prod_lt_of_bytes_lt
  rw [elementCount_eq, byteSize_eq]
  exact ⟨if_congr hcount rfl rfl, if_congr hsize rfl rfl⟩

/-- Where the lengths in front of a zero overshoot, the tensor is empty but neither number is known.
-/
theorem Overshoots.sizes (h : t.Overshoots) :
    t.lengths.prod = 0 ∧ t.elementCount = none ∧ t.byteSize = none := by
  have hpeak : ¬ t.peak < Word.limit := Nat.not_lt.mpr h.peak
  refine ⟨prod_eq_zero h.empty, ?_, ?_⟩
  · rw [elementCount_eq, if_neg fun hcount => hpeak hcount.2]
  · rw [byteSize_eq, if_neg fun hsize => hpeak hsize.2.1]

/-! ### Orders of the dimensions -/

/-- The order of the dimensions makes no difference to whether one is dynamic. -/
theorem isStatic_of_perm (hperm : u.shape.Perm t.shape) : u.isStatic = t.isStatic := hperm.all_eq

/-- The lengths are permuted with the dimensions. -/
theorem lengths_of_perm (hperm : u.shape.Perm t.shape) : u.lengths.Perm t.lengths := hperm.filterMap _

/-- The tensor with the same elements in fixed dimensions of other lengths. -/
def withLengths (t : Tensor) (lengths : List Nat) : Tensor := { t with shape := lengths.map .fixed }

theorem lengths_withLengths (t : Tensor) (lengths : List Nat) : (t.withLengths lengths).lengths = lengths := by
  induction lengths with
  | nil => rfl
  | cons n rest ih => exact congrArg (n :: ·) ih

theorem isStatic_withLengths (t : Tensor) (lengths : List Nat) : (t.withLengths lengths).isStatic = true := by
  simp [withLengths, isStatic, Dimension.length?]

/-- The lengths of a static tensor in another order are another order of its dimensions. -/
theorem perm_withLengths {lengths : List Nat} (hstatic : t.isStatic = true) (hperm : lengths.Perm t.lengths) :
    (t.withLengths lengths).shape.Perm t.shape := by
  have hshape : (lengths.map Dimension.fixed).Perm (t.lengths.map .fixed) := hperm.map _
  rwa [map_lengths hstatic] at hshape

/-- Some order of the dimensions overshoots exactly if a dimension has no length and the others together leave the
word range: the zeros may stand behind them. -/
theorem exists_overshoots_iff :
    (∃ u : Tensor, u.shape.Perm t.shape ∧ u.Overshoots) ↔
      t.isStatic = true ∧ 0 ∈ t.lengths ∧ Word.limit ≤ (t.lengths.filter (· ≠ 0)).prod := by
  constructor
  · rintro ⟨u, hperm, hover⟩
    have hlengths := lengths_of_perm hperm
    refine ⟨(isStatic_of_perm hperm).symm.trans hover.static, hlengths.mem_iff.mp hover.empty, ?_⟩
    have hprod : (u.lengths.filter (· ≠ 0)).prod = (t.lengths.filter (· ≠ 0)).prod := (hlengths.filter _).prod_nat
    have hpeak : u.peak ≤ (u.lengths.filter (· ≠ 0)).prod := Word.prod_takeWhile_le u.lengths
    have hlimit := hover.peak
    omega
  · rintro ⟨hstatic, hempty, hlimit⟩
    let zerosLast := t.lengths.filter (· ≠ 0) ++ t.lengths.filter fun n => !decide (n ≠ 0)
    have hperm : zerosLast.Perm t.lengths := List.filter_append_perm _ _
    refine ⟨t.withLengths zerosLast, perm_withLengths hstatic hperm, isStatic_withLengths t _, ?_, ?_⟩
    · rw [lengths_withLengths]
      exact hperm.mem_iff.mpr hempty
    · have hfront : ∀ n ∈ t.lengths.filter (· ≠ 0), decide (n ≠ 0) = true := fun n hn => (List.mem_filter.mp hn).2
      rw [peak, lengths_withLengths, List.takeWhile_append_of_pos hfront, List.prod_append_nat]
      exact Nat.le_trans hlimit (Nat.le_mul_of_pos_right _ (Word.prod_takeWhile_pos _))

/-- With a zero in front, a static tensor has no elements and always a number. -/
theorem elementCount_zero_first (t : Tensor) (lengths : List Nat) :
    (t.withLengths (0 :: lengths)).elementCount = some 0 := by
  rw [elementCount_eq, peak, lengths_withLengths, if_pos ⟨isStatic_withLengths t _, by simp; decide⟩]
  simp

/-- The number of elements and the number of bytes are the exact products of the lengths, as far as these are words,
and missing if a dimension is dynamic. The one exception are static tensors without elements whose dimensions in front
of the first zero leave the word range: their sizes are missing. So the sizes depend on the order of the dimensions
exactly where some order is such an exception. -/
theorem sizes_are_products (t : Tensor) :
    (¬ t.Overshoots →
      t.elementCount = (if t.isStatic = true ∧ t.lengths.prod < Word.limit then some t.lengths.prod else none) ∧
        t.byteSize =
          if t.isStatic = true ∧ t.lengths.prod * t.element.bytes < Word.limit then
            some (t.lengths.prod * t.element.bytes)
          else none) ∧
      (t.Overshoots → t.lengths.prod = 0 ∧ t.elementCount = none ∧ t.byteSize = none) ∧
      ((∀ u : Tensor, u.element = t.element → u.shape.Perm t.shape →
          u.elementCount = t.elementCount ∧ u.byteSize = t.byteSize) ↔
        ¬ (t.isStatic = true ∧ 0 ∈ t.lengths ∧ Word.limit ≤ (t.lengths.filter (· ≠ 0)).prod)) := by
  refine ⟨sizes_of_not_overshoots, Overshoots.sizes, ?_⟩
  rw [← exists_overshoots_iff]
  constructor
  · rintro hsame ⟨u, hperm, hover⟩
    have hstatic : t.isStatic = true := (isStatic_of_perm hperm).symm.trans hover.static
    have hempty : 0 ∈ t.lengths := (lengths_of_perm hperm).mem_iff.mp hover.empty
    have hmissing : t.elementCount = none := by
      have hu : ({ u with element := t.element } : Tensor).Overshoots := ⟨hover.static, hover.empty, hover.peak⟩
      rw [← (hsame { u with element := t.element } rfl hperm).1]
      exact hu.sizes.2.1
    have hfirst := (hsame (t.withLengths (0 :: t.lengths.erase 0)) rfl
      (perm_withLengths hstatic (List.perm_cons_erase hempty).symm)).1
    rw [elementCount_zero_first, hmissing] at hfirst
    cases hfirst
  · intro hnone u helement hperm
    have hself : ¬ t.Overshoots := fun hover => hnone ⟨t, List.Perm.refl _, hover⟩
    have hother : ¬ u.Overshoots := fun hover => hnone ⟨u, hperm, hover⟩
    obtain ⟨hcount, hsize⟩ := sizes_of_not_overshoots hself
    obtain ⟨hcount', hsize'⟩ := sizes_of_not_overshoots hother
    rw [hcount, hsize, hcount', hsize', isStatic_of_perm hperm, (lengths_of_perm hperm).prod_nat, helement]
    exact ⟨rfl, rfl⟩

/-- A static tensor of zero bytes has no size, if the zero stands behind the large dimensions. With the zero in front
it has one. -/
theorem zero_behind_large :
    let t : Tensor := { shape := [.fixed (2 ^ 40), .fixed (2 ^ 40), .fixed 0], element := .f32 }
    let u : Tensor := { shape := [.fixed 0, .fixed (2 ^ 40), .fixed (2 ^ 40)], element := .f32 }
    t.isStatic = true ∧ t.lengths.prod * t.element.bytes = 0 ∧ t.byteSize = none ∧
      u.shape.Perm t.shape ∧ u.byteSize = some 0 := by
  decide

/-- With the zero in front, the size is the exact product; it is still one that depends on the order. -/
theorem sizes_are_products_zeroFirst :
    let t : Tensor := { shape := [.fixed 0, .fixed (2 ^ 40), .fixed (2 ^ 40)], element := .f32 }
    ¬ t.Overshoots ∧ t.byteSize = some 0 ∧
      ¬ ∀ u : Tensor, u.element = t.element → u.shape.Perm t.shape →
        u.elementCount = t.elementCount ∧ u.byteSize = t.byteSize := by
  intro t
  obtain ⟨hproduct, -, horder⟩ := sizes_are_products t
  have hfits : ¬ t.Overshoots := fun hover => absurd hover.peak (by decide)
  refine ⟨hfits, (hproduct hfits).2, fun hsame => horder.mp hsame ⟨by decide, by decide, by decide⟩⟩

end Tensor
end MemoryPlan
