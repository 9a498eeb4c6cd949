import Mathlib.Data.List.Infix
/-!
# Histories

The history of a list of calls says for each call where it was made, what was answered and where it led. A
reply can end the history. What holds before the first call and is kept by every turn holds wherever a part
of the history leads (`Turn.history_induction`).
-/

namespace MemoryPlan

/-- One call of a history. -/
structure Turn (σ κ ρ : Type) where
  /-- The state in which the call was made. -/
  before : σ
  /-- What was asked. -/
  call : κ
  /-- What was answered. -/
  reply : ρ
  /-- The state that the call led to. -/
  after : σ

namespace Turn

variable {σ κ ρ : Type}

/-- The turn of a call that is made in a state. -/
def make (step : σ → κ → ρ × σ) (state : σ) (call : κ) : Turn σ κ ρ :=
  ⟨state, call, (step state call).1, (step state call).2⟩

/-- The turns of several calls, one after the other, up to the first reply that ends the history. -/
def history (step : σ → κ → ρ × σ) (ends : ρ → Bool) : σ → List κ → List (Turn σ κ ρ)
  | _, [] => []
  | state, call :: rest =>
    make step state call ::
      if ends (make step state call).reply then []
      else history step ends (make step state call).after rest

/-- The state that some turns lead to. -/
def reached (state : σ) : List (Turn σ κ ρ) → σ
  | [] => state
  | turn :: rest => reached turn.after rest

/-- The last turn leads to the state after it. -/
@[simp] theorem reached_concat (state : σ) (earlier : List (Turn σ κ ρ)) (turn : Turn σ κ ρ) :
    reached state (earlier ++ [turn]) = turn.after := by
  induction earlier generalizing state with
  | nil => rfl
  | cons first rest ih => exact ih first.after

variable {step : σ → κ → ρ × σ} {ends : ρ → Bool} {state : σ} {calls : List κ}
  {earlier later : List (Turn σ κ ρ)} {turn : Turn σ κ ρ}

/-- Each turn of a history is made where the turns before it lead, and answered as the step says. -/
theorem eq_of_history (h : history step ends state calls = earlier ++ turn :: later) :
    turn.before = reached state earlier ∧ step turn.before turn.call = (turn.reply, turn.after) := by
  induction calls generalizing state earlier with
  | nil => simp [history] at h
  | cons call rest ih =>
    rw [history] at h
    cases earlier with
    | nil =>
      obtain ⟨rfl, -⟩ := List.cons.inj h
      exact ⟨rfl, rfl⟩
    | cons first others =>
      obtain ⟨rfl, hrest⟩ := List.cons.inj h
      split at hrest
      · simp at hrest
      · change turn.before = reached (make step state call).after others ∧ _
        exact ih hrest

/-- A history is one of its calls, in order. -/
theorem map_call_history (step : σ → κ → ρ × σ) (ends : ρ → Bool) (state : σ) (calls : List κ) :
    (history step ends state calls).map call <+: calls := by
  induction calls generalizing state with
  | nil => exact List.prefix_rfl
  | cons call rest ih =>
    rw [history, List.map_cons]
    refine (List.prefix_cons_inj call).mpr ?_
    split
    · exact List.nil_prefix
    · exact ih _

/-- What holds at the start and is kept by every turn holds wherever the first turns of a history lead. -/
theorem history_induction {motive : List (Turn σ κ ρ) → σ → Prop} (hstart : motive [] state)
    (hstep : ∀ earlier turn, earlier ++ [turn] <+: history step ends state calls →
      step turn.before turn.call = (turn.reply, turn.after) →
      motive earlier turn.before → motive (earlier ++ [turn]) turn.after)
    (h : earlier <+: history step ends state calls) : motive earlier (reached state earlier) := by
  induction earlier using List.reverseRecOn with
  | nil => exact hstart
  | append_singleton others turn ih =>
    obtain ⟨later, hsplit⟩ := id h
    rw [List.append_assoc] at hsplit
    obtain ⟨hbefore, hanswer⟩ := eq_of_history hsplit.symm
    have hkept := ih ((List.prefix_append others [turn]).trans h)
    rw [← hbefore] at hkept
    rw [reached_concat]
    exact hstep others turn h hanswer hkept

/-- What holds of some turns and of one more. -/
theorem forall_concat {P : Turn σ κ ρ → Prop} (hearlier : ∀ past ∈ earlier, P past) (hturn : P turn) :
    ∀ past ∈ earlier ++ [turn], P past :=
  List.forall_mem_append.mpr ⟨hearlier, List.forall_mem_singleton.mpr hturn⟩

theorem exists_concat {P : Turn σ κ ρ → Prop} :
    (∃ past ∈ earlier, P past) → ∃ past ∈ earlier ++ [turn], P past :=
  fun ⟨past, hpast, h⟩ => ⟨past, List.mem_append_left [turn] hpast, h⟩

theorem exists_concat_self {P : Turn σ κ ρ → Prop} (h : P turn) : ∃ past ∈ earlier ++ [turn], P past :=
  ⟨turn, List.mem_append_right earlier (List.mem_singleton_self turn), h⟩

end Turn
end MemoryPlan
