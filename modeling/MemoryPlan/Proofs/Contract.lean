import MemoryPlan.Device
/-!
# Contracts

What a computation on a device leaves behind, said for both of its ends: for the value it yields and for its
early end. Each way of composing computations has one rule.
-/

namespace MemoryPlan.Act

variable {δ ε φ α β : Type} {site : Site δ} {good : α → Site δ → Prop} {bad : Halt ε → Site δ → Prop}

/-- From that site the computation yields a value with the one property or ends early with the other one. -/
def Ensures (act : Act δ ε α) (good : α → Site δ → Prop) (bad : Halt ε → Site δ → Prop) (site : Site δ) :
    Prop :=
  match act site with
  | (.ok a, after) => good a after
  | (.error halt, after) => bad halt after

/-- A computation has two ends, and each of them is to be looked at. -/
theorem Ensures.intro {act : Act δ ε α} (hgood : ∀ a after, act site = (.ok a, after) → good a after)
    (hbad : ∀ halt after, act site = (.error halt, after) → bad halt after) : act.Ensures good bad site := by
  unfold Ensures
  match hact : act site with
  | (.ok a, after) => exact hgood a after hact
  | (.error halt, after) => exact hbad halt after hact

/-- What is ensured of a good end holds of this one. -/
theorem Ensures.of_ok {act : Act δ ε α} {a : α} {after : Site δ} (h : act.Ensures good bad site)
    (hact : act site = (.ok a, after)) : good a after := by
  unfold Ensures at h
  rw [hact] at h
  exact h

/-- What is ensured of an early end holds of this one. -/
theorem Ensures.of_error {act : Act δ ε α} {halt : Halt ε} {after : Site δ} (h : act.Ensures good bad site)
    (hact : act site = (.error halt, after)) : bad halt after := by
  unfold Ensures at h
  rw [hact] at h
  exact h

/-- Without a way to end early there is a value. -/
theorem Ensures.exists_ok {act : Act δ ε α} (h : act.Ensures good bad site)
    (hbad : ∀ halt after, ¬bad halt after) : ∃ a after, act site = (.ok a, after) := by
  match hact : act site with
  | (.ok a, after) => exact ⟨a, after, rfl⟩
  | (.error halt, after) => exact absurd (h.of_error hact) (hbad halt after)

theorem ensures_of_ok {act : Act δ ε α} {a : α} {after : Site δ} (hact : act site = (.ok a, after))
    (h : good a after) : act.Ensures good bad site := by
  unfold Ensures
  rw [hact]
  exact h

/-- A computation ensures whatever follows from what it ensures. -/
theorem Ensures.mono {act : Act δ ε α} {good' : α → Site δ → Prop} {bad' : Halt ε → Site δ → Prop}
    (h : act.Ensures good bad site) (hgood : ∀ a after, good a after → good' a after)
    (hbad : ∀ halt after, bad halt after → bad' halt after) : act.Ensures good' bad' site := by
  apply Ensures.intro
  · intro a after hact
    exact hgood a after (h.of_ok hact)
  · intro halt after hact
    exact hbad halt after (h.of_error hact)

/-- Two things that are ensured are ensured together. -/
theorem Ensures.and {act : Act δ ε α} {good' : α → Site δ → Prop} {bad' : Halt ε → Site δ → Prop}
    (h : act.Ensures good bad site) (h' : act.Ensures good' bad' site) :
    act.Ensures (fun a after => good a after ∧ good' a after)
      (fun halt after => bad halt after ∧ bad' halt after) site := by
  apply Ensures.intro
  · intro a after hact
    exact ⟨h.of_ok hact, h'.of_ok hact⟩
  · intro halt after hact
    exact ⟨h.of_error hact, h'.of_error hact⟩

theorem ensures_pure {a : α} (h : good a site) : (pure a : Act δ ε α).Ensures good bad site := h

theorem ensures_fail {cause : ε} (h : bad (.error cause) site) :
    (fail cause : Act δ ε α).Ensures good bad site := h

theorem ensures_device {good : δ → Site δ → Prop} (h : good site.device site) :
    (device : Act δ ε δ).Ensures good bad site := h

/-- A report does not fail. -/
theorem ensures_note {event : Event} {good : Unit → Site δ → Prop} (h : good () (site.note event)) :
    (note event : Act δ ε Unit).Ensures good bad site := h

/-- What a report comes to is ensured with whatever it adds to the journal. -/
theorem ensures_ofNoted {noted : Noted ε α}
    (hgood : ∀ a journal, noted.result = .ok a → good a { site with journal })
    (hbad : ∀ cause journal, noted.result = .error cause → bad (.error cause) { site with journal }) :
    (ofNoted noted).Ensures good bad site := by
  unfold Ensures ofNoted
  rw [bind_apply]
  match hresult : noted.result with
  | .ok a => exact hgood a _ hresult
  | .error cause => exact hbad cause _ hresult

/-- A device operation changes nothing but the device. -/
theorem ensures_call {operation : δ → Except (Halt ε) α × δ}
    (hgood : ∀ a device, operation site.device = (.ok a, device) → good a { site with device })
    (hbad : ∀ halt device, operation site.device = (.error halt, device) → bad halt { site with device }) :
    (call operation).Ensures good bad site := by
  unfold Ensures call
  match hop : operation site.device with
  | (.ok a, device) => exact hgood a device hop
  | (.error halt, device) => exact hbad halt device hop

/-- The second computation starts where the first one ends. -/
theorem ensures_bind {first : Act δ ε α} {next : α → Act δ ε β} {good : β → Site δ → Prop}
    (h : first.Ensures (fun a after => (next a).Ensures good bad after) bad site) :
    (first >>= next).Ensures good bad site := by
  unfold Ensures
  rw [bind_apply]
  match hfirst : first site with
  | (.ok a, after) => exact h.of_ok hfirst
  | (.error halt, after) => exact h.of_error hfirst

/-- Other words for a fault change what is ensured of it only by these words. -/
theorem ensures_mapError {act : Act δ ε α} {f : ε → φ} {bad : Halt φ → Site δ → Prop}
    (h : act.Ensures good (fun halt => bad (halt.map f)) site) : (act.mapError f).Ensures good bad site := by
  unfold Ensures mapError
  match hact : act site with
  | (.ok a, after) => exact h.of_ok hact
  | (.error halt, after) => exact h.of_error hact

/-- After an early end the site is the one that the cleanup leaves. -/
theorem ensures_orUndo {act : Act δ ε α} {undo : Site δ → Site δ}
    (h : act.Ensures good (fun halt after => bad halt (undo after)) site) :
    (act.orUndo undo).Ensures good bad site := by
  unfold Ensures orUndo
  match hact : act site with
  | (.ok a, after) => exact h.of_ok hact
  | (.error halt, after) => exact h.of_error hact

end MemoryPlan.Act
