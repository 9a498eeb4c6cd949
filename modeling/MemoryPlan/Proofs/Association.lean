import Mathlib.Data.List.Nodup
/-!
# Association lists

Offsets, tensors and inputs are kept as lists of keys with values. Where each key occurs once, looking a key
up is the same as finding the pair in the list.
-/

namespace MemoryPlan.Association

variable {κ ν : Type} [BEq κ] [LawfulBEq κ] {entries : List (κ × ν)} {key : κ} {value : ν}

/-- What is looked up is an entry. -/
theorem mem_of_lookup (h : entries.lookup key = some value) : (key, value) ∈ entries := by
  obtain ⟨before, behind, rfl, -⟩ := List.lookup_eq_some_iff.mp h
  exact List.mem_append_right before List.mem_cons_self

/-- Under distinct names, exactly the entries are looked up. -/
theorem lookup_eq_some_iff_mem (hn : (entries.map Prod.fst).Nodup) :
    entries.lookup key = some value ↔ (key, value) ∈ entries := by
  refine ⟨mem_of_lookup, ?_⟩
  intro hm
  obtain ⟨before, behind, rfl⟩ := List.append_of_mem hm
  rw [List.map_append, List.map_cons] at hn
  apply List.lookup_eq_some_iff.mpr
  refine ⟨before, behind, rfl, ?_⟩
  intro pair hp
  have hne : pair.1 ≠ key := by
    intro he
    have hk : key ∈ before.map Prod.fst := he ▸ List.mem_map_of_mem hp
    exact (List.nodup_append.mp hn).2.2 key hk key List.mem_cons_self rfl
  exact bne_iff_ne.mpr (Ne.symm hne)

/-- What is left without a key, and what the key stands for, are all entries. -/
theorem perm_cons_filter [DecidableEq κ] (hn : (entries.map Prod.fst).Nodup)
    (h : entries.lookup key = some value) :
    entries.Perm ((key, value) :: entries.filter fun pair => pair.1 ≠ key) := by
  obtain ⟨before, behind, rfl, -⟩ := List.lookup_eq_some_iff.mp h
  rw [List.map_append, List.map_cons, List.nodup_middle, ← List.map_append, List.nodup_cons] at hn
  have hrest : (before ++ behind).filter (fun pair => pair.1 ≠ key) = before ++ behind := by
    apply List.filter_eq_self.mpr
    intro pair hpair
    apply decide_eq_true
    intro heq
    have hmem : pair.1 ∈ (before ++ behind).map Prod.fst := List.mem_map_of_mem hpair
    rw [heq] at hmem
    exact hn.1 hmem
  rw [List.filter_append] at hrest ⊢
  rw [List.filter_cons_of_neg (by simp), hrest]
  exact List.perm_middle

/-- Looking up in the entries of some keys. -/
theorem lookup_filter (entries : List (κ × ν)) (kept : κ → Bool) (key : κ) :
    (entries.filter fun pair => kept pair.1).lookup key = if kept key = true then entries.lookup key else none := by
  induction entries with
  | nil => simp
  | cons pair rest ih =>
    obtain ⟨name, value⟩ := pair
    by_cases hname : key = name
    · subst hname
      by_cases hkept : kept key = true <;> simp [hkept, ih]
    · have hother : (key == name) = false := by simpa using hname
      by_cases hkept : kept name = true <;> simp [hkept, ih, List.lookup_cons, hother]

end MemoryPlan.Association
