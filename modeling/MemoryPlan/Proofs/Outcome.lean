import Mathlib.Data.List.Forall2
import MemoryPlan.Device
import MemoryPlan.Progress
/-!
# Outcomes

What a good outcome of a computation says about its parts, for the three kinds of computations: those that
may fail, those that also report events, and those that also work on a device. For the first two kinds also
which part an error comes from.
-/

namespace MemoryPlan

namespace Except

variable {ε σ τ α β : Type}

/-- A good outcome comes from a good outcome of the first part. -/
theorem bind_eq_ok {first : Except ε α} {next : α → Except ε β} {b : β} :
    (first >>= next) = .ok b ↔ ∃ a, first = .ok a ∧ next a = .ok b := by
  constructor
  · intro h
    cases first with
    | error e => cases h
    | ok a => exact ⟨a, rfl, h⟩
  · rintro ⟨a, rfl, h⟩
    exact h

theorem map_eq_ok {result : Except ε α} {f : α → β} {b : β} :
    result.map f = .ok b ↔ ∃ a, result = .ok a ∧ f a = b := by
  constructor
  · intro h
    cases result with
    | error e => cases h
    | ok a => exact ⟨a, rfl, Except.ok.inj h⟩
  · rintro ⟨a, rfl, rfl⟩
    rfl

theorem pure_eq_ok {a b : α} : (pure a : Except ε α) = .ok b ↔ a = b := by
  constructor
  · intro h
    exact Except.ok.inj h
  · rintro rfl
    rfl

/-- An error comes from the first part, or from the second one after a good outcome of the first. -/
theorem bind_eq_error {first : Except ε α} {next : α → Except ε β} {e : ε} :
    (first >>= next) = .error e ↔ first = .error e ∨ ∃ a, first = .ok a ∧ next a = .error e := by
  cases first with
  | error other =>
    change (Except.error other : Except ε β) = .error e ↔ _
    simp
  | ok a =>
    change next a = .error e ↔ _
    simp

/-- An outcome that has a value is this value. -/
theorem eq_ok_get {result : Except ε α} (h : result.toOption.isSome) :
    result = .ok (result.toOption.get h) := by
  cases result with
  | ok a => rfl
  | error e => cases h

/-- A walk along a list has a good outcome exactly when each of its steps has one. -/
theorem mapM_eq_ok {f : α → Except ε β} {items : List α} {results : List β} :
    items.mapM f = .ok results ↔ List.Forall₂ (fun a b => f a = .ok b) items results := by
  induction items generalizing results with
  | nil =>
    rw [List.mapM_nil, pure_eq_ok, List.forall₂_nil_left_iff, eq_comm]
  | cons a rest ih =>
    rw [List.mapM_cons, bind_eq_ok]
    constructor
    · rintro ⟨b, hb, hrest⟩
      obtain ⟨others, hothers, hcons⟩ := bind_eq_ok.mp hrest
      rw [← pure_eq_ok.mp hcons]
      exact List.Forall₂.cons hb (ih.mp hothers)
    · intro h
      cases h with
      | @cons _ b _ others hb hothers =>
        exact ⟨b, hb, bind_eq_ok.mpr ⟨others, ih.mpr hothers, rfl⟩⟩

/-- Each result of a walk comes from an item, and each item has its result. -/
theorem mem_of_mapM_eq_ok {f : α → Except ε β} {items : List α} {results : List β}
    (h : items.mapM f = .ok results) :
    (∀ a ∈ items, ∃ b ∈ results, f a = .ok b) ∧ ∀ b ∈ results, ∃ a ∈ items, f a = .ok b := by
  have hall := mapM_eq_ok.mp h
  clear h
  induction hall with
  | nil => simp
  | cons hab _ ih =>
    constructor
    · intro x hx
      rcases List.mem_cons.mp hx with rfl | hx
      · exact ⟨_, List.mem_cons_self .., hab⟩
      · obtain ⟨y, hy, hxy⟩ := ih.1 x hx
        exact ⟨y, List.mem_cons_of_mem _ hy, hxy⟩
    · intro y hy
      rcases List.mem_cons.mp hy with rfl | hy
      · exact ⟨_, List.mem_cons_self .., hab⟩
      · obtain ⟨x, hx, hxy⟩ := ih.2 y hy
        exact ⟨x, List.mem_cons_of_mem _ hx, hxy⟩

/-- A walk that fails does so at one of its items. -/
theorem exists_of_mapM_eq_error {f : α → Except ε β} {items : List α} {e : ε} (h : items.mapM f = .error e) :
    ∃ a ∈ items, f a = .error e := by
  induction items with
  | nil => cases h
  | cons a rest ih =>
    rw [List.mapM_cons, bind_eq_error] at h
    obtain hself | ⟨b, -, h⟩ := h
    · exact ⟨a, List.mem_cons_self .., hself⟩
    · obtain hrest | ⟨others, -, h⟩ := bind_eq_error.mp h
      · obtain ⟨c, hc, hself⟩ := ih hrest
        exact ⟨c, List.mem_cons_of_mem a hc, hself⟩
      · cases h

/-- A walk whose steps all have good outcomes has one. -/
theorem exists_mapM_eq_ok {f : α → Except ε β} {items : List α} (h : ∀ a ∈ items, ∃ b, f a = .ok b) :
    ∃ results, items.mapM f = .ok results := by
  cases hresults : items.mapM f with
  | ok results => exact ⟨results, rfl⟩
  | error e =>
    obtain ⟨a, ha, hfault⟩ := exists_of_mapM_eq_error hresults
    obtain ⟨b, hgood⟩ := h a ha
    cases hgood.symm.trans hfault

/-- A walk whose results tell their items has these items. -/
theorem map_of_mapM_eq_ok {f : α → Except ε β} {g : β → α} (hg : ∀ a b, f a = .ok b → g b = a) {items : List α}
    {results : List β} (h : items.mapM f = .ok results) : results.map g = items := by
  have hall := mapM_eq_ok.mp h
  clear h
  induction hall with
  | nil => rfl
  | cons hab _ ih => rw [List.map_cons, hg _ _ hab, ih]

/-- A check of several items fails at one of them. -/
theorem exists_of_forM_eq_error {f : α → Except ε Unit} {items : List α} {e : ε} (h : items.forM f = .error e) :
    ∃ a ∈ items, f a = .error e := by
  induction items with
  | nil => cases h
  | cons a rest ih =>
    rw [List.forM_eq_forM, List.forM_cons, bind_eq_error] at h
    obtain hself | ⟨-, -, hrest⟩ := h
    · exact ⟨a, List.mem_cons_self .., hself⟩
    · obtain ⟨c, hc, hself⟩ := ih hrest
      exact ⟨c, List.mem_cons_of_mem a hc, hself⟩

/-- A check of several items passes if each of them does. -/
theorem forM_eq_ok {f : α → Except ε Unit} {items : List α} :
    items.forM f = .ok () ↔ ∀ a ∈ items, f a = .ok () := by
  induction items with
  | nil => exact ⟨fun _ a ha => (List.not_mem_nil ha).elim, fun _ => rfl⟩
  | cons a rest ih =>
    rw [List.forM_eq_forM, List.forM_cons, bind_eq_ok, List.forall_mem_cons, ← ih]
    constructor
    · rintro ⟨_, ha, hrest⟩
      exact ⟨ha, hrest⟩
    · rintro ⟨ha, hrest⟩
      exact ⟨(), ha, hrest⟩

/-- A walk that fails has good steps up to an item, and fails there. -/
theorem exists_of_foldlM_eq_error {f : σ → α → Except ε σ} {items : List α} {s : σ} {e : ε}
    (h : items.foldlM f s = .error e) :
    ∃ before a after t, items = before ++ a :: after ∧ before.foldlM f s = .ok t ∧ f t a = .error e := by
  induction items generalizing s with
  | nil => cases h
  | cons a rest ih =>
    rw [List.foldlM_cons, bind_eq_error] at h
    obtain hself | ⟨between, hgood, hrest⟩ := h
    · exact ⟨[], a, rest, s, rfl, rfl, hself⟩
    · obtain ⟨before, b, after, t, rfl, hbefore, hself⟩ := ih hrest
      exact ⟨a :: before, b, after, t, rfl, bind_eq_ok.mpr ⟨between, hgood, hbefore⟩, hself⟩

/-- A good walk has good steps up to each of its items, and a good one there. -/
theorem exists_of_foldlM_eq_ok {f : σ → α → Except ε σ} {before after : List α} {a : α} {s s' : σ}
    (h : (before ++ a :: after).foldlM f s = .ok s') :
    ∃ t t', before.foldlM f s = .ok t ∧ f t a = .ok t' := by
  rw [List.foldlM_append, bind_eq_ok] at h
  obtain ⟨t, ht, h⟩ := h
  rw [List.foldlM_cons, bind_eq_ok] at h
  obtain ⟨t', ht', -⟩ := h
  exact ⟨t, t', ht, ht'⟩

/-- A relation of two walks along one list that each step keeps holds at their ends. -/
theorem foldlM_induction {f : σ → α → Except ε σ} {g : τ → α → Except ε τ} {items : List α}
    {motive : Nat → σ → τ → Prop}
    (hstep : ∀ i a s t s' t', items[i]? = some a → f s a = .ok s' → g t a = .ok t' → motive i s t →
      motive (i + 1) s' t')
    {s s' : σ} {t t' : τ} (hf : items.foldlM f s = .ok s') (hg : items.foldlM g t = .ok t')
    (hstart : motive 0 s t) : motive items.length s' t' := by
  induction items generalizing motive s t with
  | nil =>
    rw [List.foldlM_nil] at hf hg
    rw [← pure_eq_ok.mp hf, ← pure_eq_ok.mp hg]
    exact hstart
  | cons a rest ih =>
    rw [List.foldlM_cons, bind_eq_ok] at hf hg
    obtain ⟨s₁, hs, hf⟩ := hf
    obtain ⟨t₁, ht, hg⟩ := hg
    have hnext : motive 1 s₁ t₁ := hstep 0 a s t s₁ t₁ rfl hs ht hstart
    have hrest : ∀ i b s t s' t', rest[i]? = some b → f s b = .ok s' → g t b = .ok t' →
        motive (i + 1) s t → motive (i + 1 + 1) s' t' := by
      intro i b s t s' t' hi
      exact hstep (i + 1) b s t s' t' (by rw [List.getElem?_cons_succ]; exact hi)
    exact ih hrest hf hg hnext

end Except

namespace Progress

variable {σ α ε : Type}

/-- A walk that was stopped has a good walk before it, and a fault behind that. -/
theorem exists_of_result_walk_eq_error {step : σ → α → Except ε σ} {state : σ} {items : List α} {e : ε}
    (h : (walk step state items).result = .error e) :
    ∃ before a after reached, items = before ++ a :: after ∧ (walk step state before).result = .ok reached ∧
      step reached a = .error e := by
  rw [result_walk] at h
  obtain ⟨before, a, after, reached, hsplit, hbefore, hfault⟩ := Except.exists_of_foldlM_eq_error h
  exact ⟨before, a, after, reached, hsplit, (result_walk ..).trans hbefore, hfault⟩

end Progress

namespace Noted

variable {ε α β : Type}

/-- A good result comes from a good result of the first part. -/
theorem result_bind_eq_ok {first : Noted ε α} {next : α → Noted ε β} {b : β} :
    (first >>= next).result = .ok b ↔ ∃ a, first.result = .ok a ∧ (next a).result = .ok b := by
  rw [result_bind]
  exact Except.bind_eq_ok

/-- An error comes from the first part, or from the second one after a good result of the first. -/
theorem result_bind_eq_error {first : Noted ε α} {next : α → Noted ε β} {e : ε} :
    (first >>= next).result = .error e ↔
      first.result = .error e ∨ ∃ a, first.result = .ok a ∧ (next a).result = .error e := by
  rw [result_bind]
  exact Except.bind_eq_error

end Noted

namespace Act

variable {δ ε φ α β : Type} {site after : Site δ}

/-- A good outcome comes from a good outcome of the first part. -/
theorem bind_eq_ok {first : Act δ ε α} {next : α → Act δ ε β} {b : β} :
    (first >>= next) site = (.ok b, after) ↔
      ∃ a between, first site = (.ok a, between) ∧ next a between = (.ok b, after) := by
  rw [bind_apply]
  constructor
  · intro h
    match hfirst : first site with
    | (.ok a, between) =>
      rw [hfirst] at h
      exact ⟨a, between, rfl, h⟩
    | (.error halt, between) =>
      rw [hfirst] at h
      cases h
  · rintro ⟨a, between, hfirst, hnext⟩
    rw [hfirst]
    exact hnext

theorem pure_eq_ok {a b : α} : (pure a : Act δ ε α) site = (.ok b, after) ↔ a = b ∧ site = after := by
  rw [pure_apply, Prod.mk.injEq, Except.ok.injEq]

theorem ofExcept_eq_ok {result : Except ε α} {a : α} :
    (ofExcept result : Act δ ε α) site = (.ok a, after) ↔ result = .ok a ∧ site = after := by
  cases result with
  | ok b => exact pure_eq_ok.trans (by rw [Except.ok.injEq])
  | error cause =>
    constructor
    · intro h
      cases h
    · rintro ⟨h, -⟩
      cases h

/-- Other words for a fault do not change a good end. -/
theorem mapError_eq_ok {f : ε → φ} {act : Act δ ε α} {a : α} :
    act.mapError f site = (.ok a, after) ↔ act site = (.ok a, after) := by
  unfold mapError
  constructor
  · intro h
    match hact : act site with
    | (.ok b, between) =>
      rw [hact] at h
      cases h
      rfl
    | (.error halt, between) =>
      rw [hact] at h
      cases h
  · intro h
    rw [h]

/-- What would be undone does not change a good end. -/
theorem orUndo_eq_ok {act : Act δ ε α} {undo : Site δ → Site δ} {a : α} :
    act.orUndo undo site = (.ok a, after) ↔ act site = (.ok a, after) := by
  unfold orUndo
  constructor
  · intro h
    match hact : act site with
    | (.ok b, between) =>
      rw [hact] at h
      exact h
    | (.error halt, between) =>
      rw [hact] at h
      cases h
  · intro h
    rw [h]

end Act
end MemoryPlan
