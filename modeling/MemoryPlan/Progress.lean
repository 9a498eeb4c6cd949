/-!
# Progress along a list

A walk over a list changes a state item by item until a step fails. `Progress` keeps the state that was
reached beside the fault that stopped the walk, so that reports can still speak of the good steps;
`Progress.result_walk` says that the result is that of the plain monadic fold.
-/

namespace MemoryPlan

/-- How far a walk came. -/
structure Progress (σ ε : Type) where
  /-- The state after the last good step. -/
  reached : σ
  /-- The fault that stopped the walk, if one did. -/
  fault : Option ε

namespace Progress

variable {σ α ε : Type}

/-- Changes the state item by item until a step fails. -/
def walk (step : σ → α → Except ε σ) : σ → List α → Progress σ ε
  | state, [] => ⟨state, none⟩
  | state, item :: rest =>
    match step state item with
    | .ok next => walk step next rest
    | .error fault => ⟨state, some fault⟩

/-- The state at the end of the walk, or the fault that stopped it. -/
def result (progress : Progress σ ε) : Except ε σ :=
  match progress.fault with
  | none => .ok progress.reached
  | some fault => .error fault

theorem result_walk (step : σ → α → Except ε σ) (state : σ) (items : List α) :
    (walk step state items).result = items.foldlM step state := by
  induction items generalizing state with
  | nil => rfl
  | cons item rest ih =>
    cases h : step state item with
    | ok next => simpa [walk, h, List.foldlM_cons, bind, Except.bind] using ih next
    | error fault => simp [walk, h, result, List.foldlM_cons, bind, Except.bind]

end Progress
end MemoryPlan
