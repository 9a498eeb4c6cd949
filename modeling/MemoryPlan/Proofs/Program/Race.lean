import Mathlib.Data.List.Induction
import MemoryPlan.Proofs.Program.Confinement
/-!
# Races

Several programs that take turns on one device, one access at a time, in any order (`Race.play`). When no
program writes what another one may touch, each of them goes on as it would alone: this is the invariant
`Race.Agrees`, kept by every turn.
-/

namespace MemoryPlan

namespace Program

variable {α δ : Type}

/-- How a program has ended, if it has. -/
def ended? : Program α → Option (Except (Halt PlanError) α)
  | done value => some (.ok value)
  | stop halt => some (.error halt)
  | _ => none

/-- Performs one access or report of a program; a program that has ended stays as it is. -/
def advance [Device δ] : Program α → Site δ → Program α × Site δ
  | done value, site => (done value, site)
  | stop halt, site => (stop halt, site)
  | read address length next, site =>
    let (outcome, device) := Device.copyOut site.device address length
    match seen outcome with
    | .ok result => (next result, { site with device })
    | .error reason => (stop (.crash reason), { site with device })
  | write address data next, site =>
    let (outcome, device) := Device.copyIn site.device address data
    match seen outcome with
    | .ok result => (next result, { site with device })
    | .error reason => (stop (.crash reason), { site with device })
  | note event next, site => (next, site.note event)

/-- To run a program is to perform its first step and then to run the rest. -/
theorem run_advance [Device δ] (program : Program α) (site : Site δ) :
    (program.advance site).1.run (program.advance site).2 = program.run site := by
  cases program with
  | done value => rfl
  | stop halt => rfl
  | read address length next =>
    simp only [advance, run]
    cases seen (Device.copyOut site.device address length).1 <;> rfl
  | write address data next =>
    simp only [advance, run]
    cases seen (Device.copyIn site.device address data).1 <;> rfl
  | note event next => rfl

/-- How many steps a program takes on memory in which every access succeeds. -/
def turns : Program α → Memory → Nat
  | done _, _ => 0
  | stop _, _ => 0
  | read address length next, m => turns (next (.ok (m.bytes address length))) m + 1
  | write address data next, m => turns (next (.ok ())) (m.write address data) + 1
  | note _ next, m => turns next m + 1

/-- A program that ended evaluates to its outcome and leaves the memory. -/
theorem evaluate_of_ended {program : Program α} {outcome : Except (Halt PlanError) α}
    (h : program.ended? = some outcome) (m : Memory) : program.evaluate m = (outcome, m) := by
  cases program with
  | done value => rw [← Option.some.inj h]; rfl
  | stop halt => rw [← Option.some.inj h]; rfl
  | read address length next => cases h
  | write address data next => cases h
  | note event next => cases h

/-- A program without further steps has ended. -/
theorem isSome_ended?_of_turns {program : Program α} {m : Memory} (h : program.turns m = 0) :
    program.ended?.isSome := by
  cases program with
  | done value => rfl
  | stop halt => rfl
  | read address length next => cases h
  | write address data next => cases h
  | note event next => cases h

variable {reads writes : List TensorPlace} {program : Program α}

/-- A confined program takes as many steps on any memory with the same bytes to read. -/
theorem Within.turns_congr (h : program.Within reads writes) {m n : Memory}
    (hagree : ∀ p ∈ reads, ∀ x, p.Has x → m x = n x) : program.turns m = program.turns n := by
  induction program generalizing m n with
  | done value => rfl
  | stop halt => rfl
  | read address length next ih =>
    have hgranted := h.1
    have hbytes : m.bytes address length = n.bytes address length := hgranted.bytes_congr hagree
    rw [turns, turns, ← hbytes, ih _ (h.2 _ (Memory.length_bytes m address length)) hagree]
  | write address data next ih =>
    have hwrite : ∀ p ∈ reads, ∀ x, p.Has x → m.write address data x = n.write address data x :=
      fun p hp x hx => Memory.write_congr address data (hagree p hp x hx)
    rw [turns, turns, ih _ h.2 hwrite]
  | note event next ih => rw [turns, turns, ih h hagree]

/-- What one step of a confined program does on a sound device. -/
structure Advances (reads writes : List TensorPlace) (program : Program α) (site : Site HostDevice)
    (next : Program α) (after : Site HostDevice) : Prop where
  /-- The rest is confined as well. -/
  within : next.Within reads writes
  /-- The live allocations stay. -/
  alike : after.device.Alike site.device
  /-- No byte outside the places to write changes. -/
  outside : ∀ x, (∀ p ∈ writes, ¬p.Has x) → after.device.memory x = site.device.memory x
  /-- The rest ends as the program would have. -/
  evaluate : next.evaluate after.device.memory = program.evaluate site.device.memory
  /-- One step fewer is left. -/
  turns : next.turns after.device.memory = program.turns site.device.memory - 1

/-- A step of a confined program changes only what it may write, and leaves one step fewer. -/
theorem Within.advances (h : program.Within reads writes) {site : Site HostDevice} (hs : site.device.Sound)
    (hr : TensorPlace.Held reads site.device.extents) (hw : TensorPlace.Held writes site.device.extents) :
    Advances reads writes program site (program.advance site).1 (program.advance site).2 := by
  cases program with
  | done value => exact ⟨h, .refl _, fun _ _ => rfl, rfl, rfl⟩
  | stop halt => exact ⟨h, .refl _, fun _ _ => rfl, rfl, rfl⟩
  | read address length next =>
    obtain ⟨q, hq, -, hcovers⟩ := h.1.mono hr
    have hop := hs.copyOut_eq hq hcovers
    have hstep : (read address length next).advance site =
        (next (.ok (site.device.memory.bytes address length)), site) := by
      simp only [advance, Device.copyOut, hop, seen]
    rw [hstep]
    exact ⟨h.2 _ (Memory.length_bytes _ _ _), .refl _, fun _ _ => rfl, rfl, rfl⟩
  | write address data next =>
    obtain ⟨q, hq, -, hcovers⟩ := h.1.mono hw
    obtain ⟨after, hop, hmemory, halike⟩ := hs.copyIn_eq hq hcovers
    have hstep : (write address data next).advance site = (next (.ok ()), { site with device := after }) := by
      simp only [advance, Device.copyIn, hop, seen, Except.map, HostDevice.settle]
    rw [hstep]
    refine ⟨h.2, halike, ?_, ?_, ?_⟩
    · intro x hx
      change after.memory x = _
      rw [hmemory]
      exact h.1.write_outside hx
    · change Program.evaluate _ after.memory = _
      rw [hmemory]
      rfl
    · change Program.turns _ after.memory = _
      rw [hmemory]
      rfl
  | note event next => exact ⟨h, .refl _, fun _ _ => rfl, rfl, rfl⟩

end Program

/-- Programs that take turns on one device; what has been done of a program is gone. -/
structure Race (δ α : Type) where
  /-- The device. -/
  site : Site δ
  /-- What is left of each program. -/
  programs : List (Program α)

namespace Race

variable {δ α : Type}

/-- The program of a number takes a turn; a number without a program changes nothing. -/
def turn [Device δ] (race : Race δ α) (i : Nat) : Race δ α :=
  match race.programs[i]? with
  | none => race
  | some program =>
    { site := (program.advance race.site).2, programs := race.programs.set i (program.advance race.site).1 }

/-- The programs take turns in the order of a schedule. -/
def play [Device δ] (race : Race δ α) (schedule : List Nat) : Race δ α := schedule.foldl turn race

/-- The programs of a race are confined, to live places, and none writes what another one may touch. -/
structure Separate (race : Race HostDevice α) (reads writes : Nat → List TensorPlace) : Prop where
  /-- The device is sound. -/
  sound : race.site.device.Sound
  /-- Each program is confined. -/
  within : ∀ (i : Nat) (program : Program α), race.programs[i]? = some program →
    program.Within (reads i) (writes i)
  /-- What it may touch is live. -/
  held : ∀ i < race.programs.length, TensorPlace.Held (reads i) race.site.device.extents ∧
    TensorPlace.Held (writes i) race.site.device.extents
  /-- What it may write, no other program may touch. -/
  apart : ∀ i < race.programs.length, ∀ j < race.programs.length, i ≠ j →
    ∀ p ∈ writes i, ∀ q ∈ reads j ++ writes j, p.Apart q

/-- What is left of a program ends, on the memory of now, as the whole program would have alone. -/
structure Continues (reads writes : List TensorPlace) (whole : Program α) (start : Memory) (used : Nat)
    (rest : Program α) (now : Memory) : Prop where
  /-- It is confined. -/
  within : rest.Within reads writes
  /-- It ends with the same outcome. -/
  outcome : (rest.evaluate now).1 = (whole.evaluate start).1
  /-- It leaves the same bytes. -/
  bytes : ∀ p ∈ reads ++ writes, ∀ x, p.Has x → (rest.evaluate now).2 x = (whole.evaluate start).2 x
  /-- Its steps so far are done. -/
  turns : rest.turns now = whole.turns start - used

/-- After a schedule the programs of a race go on as each would alone. -/
structure Agrees (start : Race HostDevice α) (reads writes : Nat → List TensorPlace) (schedule : List Nat)
    (now : Race HostDevice α) : Prop where
  /-- The live allocations are the same. -/
  alike : now.site.device.Alike start.site.device
  /-- No byte changed that no program may write. -/
  outside : ∀ x, (∀ i < start.programs.length, ∀ p ∈ writes i, ¬p.Has x) →
    now.site.device.memory x = start.site.device.memory x
  /-- There are as many programs. -/
  length : now.programs.length = start.programs.length
  /-- Each program goes on as it would alone. -/
  programs : ∀ (i : Nat) (whole : Program α), start.programs[i]? = some whole →
    ∃ rest, now.programs[i]? = some rest ∧
      Continues (reads i) (writes i) whole start.site.device.memory (schedule.count i) rest
        now.site.device.memory

variable {start now : Race HostDevice α} {reads writes : Nat → List TensorPlace} {schedule : List Nat}

/-- Requests that are kept separate agree at the start. -/
theorem Separate.agrees (h : start.Separate reads writes) : Agrees start reads writes [] start := by
  refine ⟨.refl _, fun _ _ => rfl, rfl, ?_⟩
  intro i whole hwhole
  exact ⟨whole, hwhole, h.within i whole hwhole, rfl, fun _ _ _ _ => rfl, rfl⟩

/-- A program does not notice the turn of another one. -/
theorem Continues.frame {reads writes : List TensorPlace} {whole rest : Program α} {start now next : Memory}
    {used : Nat} (h : Continues reads writes whole start used rest now)
    (hsame : ∀ p ∈ reads ++ writes, ∀ x, p.Has x → next x = now x) :
    Continues reads writes whole start used rest next := by
  have hreads : ∀ p ∈ reads, ∀ x, p.Has x → next x = now x := fun p hp =>
    hsame p (List.mem_append_left _ hp)
  have hcongr := h.within.evaluate_congr hreads
  refine ⟨h.within, hcongr.1.trans h.outcome, ?_, (h.within.turns_congr hreads).trans h.turns⟩
  intro p hp x hx
  rw [hcongr.2 x (hsame p hp x hx)]
  exact h.bytes p hp x hx

/-- Its own turn takes a program one step on. -/
theorem Continues.turn {reads writes : List TensorPlace} {whole rest : Program α} {start : Memory}
    {used : Nat} {site after : Site HostDevice} {next : Program α}
    (h : Continues reads writes whole start used rest site.device.memory)
    (hadvances : Program.Advances reads writes rest site next after) :
    Continues reads writes whole start (used + 1) next after.device.memory := by
  refine ⟨hadvances.within, ?_, ?_, ?_⟩
  · rw [hadvances.evaluate]
    exact h.outcome
  · rw [hadvances.evaluate]
    exact h.bytes
  · rw [hadvances.turns, h.turns]
    omega

/-- A program that has had enough turns has ended. -/
theorem Continues.isSome_ended? {reads writes : List TensorPlace} {whole rest : Program α}
    {start now : Memory} {used : Nat} (h : Continues reads writes whole start used rest now)
    (hused : whole.turns start ≤ used) : rest.ended?.isSome := by
  apply Program.isSome_ended?_of_turns
  rw [h.turns]
  exact Nat.sub_eq_zero_of_le hused

/-- A program that has ended has the outcome, and leaves the bytes, of the whole program alone. -/
theorem Continues.of_ended {reads writes : List TensorPlace} {whole rest : Program α} {start now : Memory}
    {used : Nat} (h : Continues reads writes whole start used rest now)
    {outcome : Except (Halt PlanError) α} (hended : rest.ended? = some outcome) :
    outcome = (whole.evaluate start).1 ∧
      ∀ p ∈ reads ++ writes, ∀ x, p.Has x → now x = (whole.evaluate start).2 x := by
  have hevaluate := Program.evaluate_of_ended hended now
  have houtcome := h.outcome
  have hbytes := h.bytes
  rw [hevaluate] at houtcome hbytes
  exact ⟨houtcome, hbytes⟩

/-- Every turn keeps the invariant. -/
theorem Agrees.turn (hseparate : start.Separate reads writes) (h : Agrees start reads writes schedule now)
    (i : Nat) : Agrees start reads writes (schedule ++ [i]) (now.turn i) := by
  have hcount : ∀ j, (schedule ++ [i]).count j = schedule.count j + if i = j then 1 else 0 := by
    intro j
    rw [List.count_append, List.count_singleton]
    simp only [beq_iff_eq]
  unfold Race.turn
  split
  · next hnone =>
    refine ⟨h.alike, h.outside, h.length, ?_⟩
    intro j whole hwhole
    obtain ⟨rest, hrest, hcontinues⟩ := h.programs j whole hwhole
    have hne : i ≠ j := by
      rintro rfl
      rw [hrest] at hnone
      cases hnone
    rw [hcount, if_neg hne]
    exact ⟨rest, hrest, hcontinues⟩
  · next program hprogram =>
    have hlt : i < start.programs.length := by
      rw [← h.length]
      exact (List.getElem?_eq_some_iff.mp hprogram).1
    obtain ⟨own, hown, hcontinues⟩ := h.programs i _ (List.getElem?_eq_getElem hlt)
    rw [hprogram] at hown
    obtain rfl := Option.some.inj hown
    have hheld := hseparate.held i hlt
    rw [← h.alike.1] at hheld
    have hadvances := hcontinues.within.advances (h.alike.sound hseparate.sound) hheld.1 hheld.2
    refine ⟨hadvances.alike.trans h.alike, ?_, ?_, ?_⟩
    · intro x hx
      exact (hadvances.outside x (hx i hlt)).trans (h.outside x hx)
    · exact (List.length_set ..).trans h.length
    · intro j whole hwhole
      obtain ⟨rest, hrest, hcontinues'⟩ := h.programs j whole hwhole
      rw [hcount]
      by_cases heq : i = j
      · subst heq
        rw [hprogram] at hrest
        obtain rfl := Option.some.inj hrest
        have hlen : i < now.programs.length := (List.getElem?_eq_some_iff.mp hprogram).1
        rw [if_pos rfl]
        exact ⟨_, List.getElem?_set_self hlen, hcontinues'.turn hadvances⟩
      · rw [if_neg heq, Nat.add_zero]
        refine ⟨rest, (List.getElem?_set_ne heq).trans hrest, hcontinues'.frame ?_⟩
        intro q hq x hx
        apply hadvances.outside
        intro p hp hhas
        have hlt' : j < start.programs.length := (List.getElem?_eq_some_iff.mp hwhole).1
        exact hseparate.apart i hlt j hlt' heq p hp q hq x hhas hx

/-- In every order of turns each program goes on as it would alone. -/
theorem Separate.play_agrees (h : start.Separate reads writes) (schedule : List Nat) :
    Agrees start reads writes schedule (start.play schedule) := by
  induction schedule using List.reverseRecOn with
  | nil => exact h.agrees
  | append_singleton schedule i ih =>
    have hplay : start.play (schedule ++ [i]) = (start.play schedule).turn i :=
      List.foldl_concat ..
    rw [hplay]
    exact ih.turn h i

end Race
end MemoryPlan
