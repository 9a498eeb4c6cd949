import Mathlib.Order.Bounds.Basic
import MemoryPlan.Budget
import MemoryPlan.Proofs.Outcome
/-!
# The largest number of regions

A number of regions is allowed if the device runs as many requests at once, if no more were asked for, and if
the regions fit into the free bytes beside the constant block (`Budget.Allows`). A budget works with truncated
differences and quotients. It still grants the largest number that is allowed, and fails exactly where not a
single region fits or where a region has no bytes. More room and higher limits never lower the number.
-/

namespace MemoryPlan

/-- A request is bounded wherever another one is, and not by more. -/
def StreamCount.AsksNoMore (requested other : StreamCount) : Prop :=
  ∀ count, other.requested = some count → ∃ fewer, requested.requested = some fewer ∧ fewer ≤ count

namespace Budget

variable {budget : Budget} {requested : StreamCount} {streams n bound : Nat}

/-- How many regions fit beside the block. -/
def fitting (budget : Budget) : Nat := (budget.free - budget.constants) / budget.region

/-- A number of regions that the device, the request and the free bytes allow. -/
structure Allows (budget : Budget) (requested : StreamCount) (n : Nat) : Prop where
  /-- The device runs as many requests at once. -/
  device : n ≤ budget.deviceLimit
  /-- No more were asked for. -/
  request : ∀ count, requested.requested = some count → n ≤ count
  /-- The regions fit beside the block. -/
  memory : budget.constants + n * budget.region ≤ budget.free

/-- What a granted number of regions says about the budget. -/
structure Grants (budget : Budget) (requested : StreamCount) (streams : Nat) : Prop where
  /-- A region has bytes. -/
  region : 0 < budget.region
  /-- The number is bounded by the device, by the request and by the free bytes. -/
  streams_eq : streams = match requested.requested with
    | none => min budget.deviceLimit budget.fitting
    | some count => min (min budget.deviceLimit count) budget.fitting
  /-- At least one region is granted. -/
  pos : 0 < streams
  /-- The block and the regions fit into the free bytes. -/
  fits : budget.constants + streams * budget.region ≤ budget.free

/-- The report does not change the number. -/
theorem result_notedStreams (budget : Budget) (requested : StreamCount) :
    (budget.notedStreams requested).result = budget.streams requested := by
  unfold notedStreams streams
  rw [Noted.result_bind, Noted.result_ofExcept]
  cases budget.memoryBound <;> rfl

/-- The truncated difference does no harm: a positive number of regions fits beside the block only if the block
itself fits. -/
theorem le_fitting_iff (hregion : 0 < budget.region) (hn : 0 < n) :
    n ≤ budget.fitting ↔ budget.constants + n * budget.region ≤ budget.free := by
  have hbytes : 0 < n * budget.region := Nat.mul_pos hn hregion
  unfold fitting
  rw [Nat.le_div_iff_mul_le hregion]
  omega

/-- A number is granted if the device allows it, the wish does, and the bound does. -/
theorem le_grant_iff :
    n ≤ budget.grant requested bound ↔
      n ≤ budget.deviceLimit ∧ (∀ count, requested.requested = some count → n ≤ count) ∧ n ≤ bound := by
  cases requested with
  | auto => simp [grant, StreamCount.requested]
  | fixed asked _ _ => simp [grant, StreamCount.requested]

/-! ### The three outcomes -/

/-- Without a region there is nothing to run on. -/
theorem streams_of_empty (hempty : budget.region = 0) : budget.streams requested = .error .modelNotLoaded := by
  unfold streams memoryBound
  rw [if_pos hempty]
  rfl

/-- A region that does not fit beside the constants is refused, with all three amounts. -/
theorem streams_of_crowded (hregion : 0 < budget.region) (hcrowded : budget.free < budget.constants + budget.region) :
    budget.streams requested = .error (.insufficientMemory budget.free budget.constants budget.region) := by
  have hnone : budget.fitting = 0 := by
    by_contra hsome
    have hone := (le_fitting_iff hregion Nat.one_pos).mp (Nat.one_le_iff_ne_zero.mpr hsome)
    omega
  have hbound : budget.memoryBound =
      .error (.insufficientMemory budget.free budget.constants budget.region) := by
    unfold memoryBound
    rw [if_neg (Nat.ne_of_gt hregion)]
    exact if_pos hnone
  unfold streams
  rw [hbound]
  rfl

/-- A region that fits is granted as often as it fits and is wished for. -/
theorem streams_of_room (hregion : 0 < budget.region) (hroom : budget.constants + budget.region ≤ budget.free) :
    budget.streams requested = .ok (budget.grant requested budget.fitting) := by
  have hone : 1 ≤ budget.fitting := by
    rw [le_fitting_iff hregion Nat.one_pos, Nat.one_mul]
    exact hroom
  have hbound : budget.memoryBound = .ok budget.fitting := by
    unfold memoryBound
    rw [if_neg (Nat.ne_of_gt hregion)]
    exact if_neg (Nat.ne_of_gt hone)
  unfold streams
  rw [hbound]
  rfl

/-- A number of regions is granted only if one of them fits beside the block. -/
theorem room_of_streams (h : budget.streams requested = .ok streams) :
    0 < budget.region ∧ budget.constants + budget.region ≤ budget.free ∧
      streams = budget.grant requested budget.fitting := by
  obtain hempty | hregion := Nat.eq_zero_or_pos budget.region
  · cases (streams_of_empty hempty).symm.trans h
  · obtain hcrowded | hroom := Nat.lt_or_ge budget.free (budget.constants + budget.region)
    · cases (streams_of_crowded hregion hcrowded).symm.trans h
    · exact ⟨hregion, hroom, (Except.ok.inj ((streams_of_room hregion hroom).symm.trans h)).symm⟩

/-- The one cause of an unloaded model is a region without bytes. -/
theorem streams_eq_modelNotLoaded_iff :
    budget.streams requested = .error .modelNotLoaded ↔ budget.region = 0 := by
  refine ⟨fun h => ?_, streams_of_empty⟩
  by_contra hsome
  have hregion : 0 < budget.region := Nat.pos_of_ne_zero hsome
  obtain hcrowded | hroom := Nat.lt_or_ge budget.free (budget.constants + budget.region)
  · cases (streams_of_crowded hregion hcrowded).symm.trans h
  · cases (streams_of_room hregion hroom).symm.trans h

/-- Memory is insufficient exactly if not even one region fits beside the constants. -/
theorem streams_eq_insufficientMemory_iff :
    budget.streams requested = .error (.insufficientMemory budget.free budget.constants budget.region) ↔
      0 < budget.region ∧ budget.free < budget.constants + budget.region := by
  refine ⟨fun h => ?_, fun ⟨hregion, hcrowded⟩ => streams_of_crowded hregion hcrowded⟩
  obtain hempty | hregion := Nat.eq_zero_or_pos budget.region
  · cases (streams_of_empty hempty).symm.trans h
  · refine ⟨hregion, Nat.lt_of_not_le fun hroom => ?_⟩
    cases (streams_of_room hregion hroom).symm.trans h

/-! ### The number that is granted -/

/-- A positive number is granted. -/
theorem grant_pos (hlimit : 0 < budget.deviceLimit) (hregion : 0 < budget.region)
    (hroom : budget.constants + budget.region ≤ budget.free) :
    0 < budget.grant requested budget.fitting := by
  refine le_grant_iff.mpr ⟨hlimit, ?_, ?_⟩
  · intro count hcount
    cases requested with
    | auto => cases hcount
    | fixed asked positive _ =>
      cases hcount
      exact positive
  · rw [le_fitting_iff hregion Nat.one_pos, Nat.one_mul]
    exact hroom

/-- The number that is granted is allowed, and every number that is allowed is at most as large. -/
theorem isGreatest_grant (hlimit : 0 < budget.deviceLimit) (hregion : 0 < budget.region)
    (hroom : budget.constants + budget.region ≤ budget.free) :
    IsGreatest {n | budget.Allows requested n} (budget.grant requested budget.fitting) := by
  constructor
  · obtain ⟨hdevice, hrequest, hfits⟩ := le_grant_iff.mp (Nat.le_refl (budget.grant requested budget.fitting))
    exact ⟨hdevice, hrequest, (le_fitting_iff hregion (grant_pos hlimit hregion hroom)).mp hfits⟩
  · intro n hn
    obtain rfl | hpos := Nat.eq_zero_or_pos n
    · exact Nat.zero_le _
    · exact le_grant_iff.mpr ⟨hn.device, hn.request, (le_fitting_iff hregion hpos).mpr hn.memory⟩

/-- The number of regions is positive and fits. -/
theorem streams_eq_ok (hlimit : 0 < budget.deviceLimit) (h : budget.streams requested = .ok streams) :
    budget.Grants requested streams := by
  obtain ⟨hregion, hroom, rfl⟩ := room_of_streams h
  refine ⟨hregion, ?_, grant_pos hlimit hregion hroom, (isGreatest_grant hlimit hregion hroom).1.memory⟩
  cases requested <;> rfl

/-- What is allowed stays allowed with more free bytes, with less to store and with higher limits. -/
theorem Allows.mono {other : Budget} {further : StreamCount} (h : budget.Allows requested n)
    (hfree : budget.free ≤ other.free) (hconstants : other.constants ≤ budget.constants)
    (hregion : other.region ≤ budget.region) (hlimit : budget.deviceLimit ≤ other.deviceLimit)
    (hrequest : requested.AsksNoMore further) : other.Allows further n where
  device := Nat.le_trans h.device hlimit
  request := by
    intro count hcount
    obtain ⟨fewer, hfewer, hle⟩ := hrequest count hcount
    exact Nat.le_trans (h.request fewer hfewer) hle
  memory := by
    have hregions : n * other.region ≤ n * budget.region := Nat.mul_le_mul_left n hregion
    have hmemory := h.memory
    omega

/-- The number of regions is the largest one that the device, the request and the free bytes allow, and it is
positive; without bytes in a region or without room for one the budget fails, and only then. More free bytes, a
higher limit and a larger request never lower the number, nor do a smaller block and a smaller region. -/
theorem streams_largest (free constants region limit : Nat) (requested : StreamCount) :
    let answer := ((withDeviceLimit { free, constants, region } limit).notedStreams requested).result
    (answer = .error .modelNotLoaded ↔ region = 0) ∧
      (answer = .error (.insufficientMemory free constants region) ↔
        0 < region ∧ free < constants + region) ∧
      (0 < region → constants + region ≤ free → ∃ n, answer = .ok n ∧ 1 ≤ n ∧
        IsGreatest {n | n ≤ max 1 limit ∧ (∀ count, requested.requested = some count → n ≤ count) ∧
          constants + n * region ≤ free} n) ∧
      ∀ n free' constants' region' limit' requested', answer = .ok n → free ≤ free' → constants' ≤ constants →
        0 < region' → region' ≤ region → limit ≤ limit' → requested.AsksNoMore requested' →
        ∃ n', ((withDeviceLimit ⟨free', constants', region', 1⟩ limit').notedStreams requested').result = .ok n' ∧
          n ≤ n' := by
  intro answer
  have hanswer : answer = (withDeviceLimit { free, constants, region } limit).streams requested :=
    result_notedStreams _ _
  have hlimit : ∀ most, 0 < max most 1 := fun most => Nat.le_max_right most 1
  rw [hanswer]
  refine ⟨streams_eq_modelNotLoaded_iff, streams_eq_insufficientMemory_iff, ?_, ?_⟩
  · intro hregion hroom
    refine ⟨_, streams_of_room hregion hroom, grant_pos (hlimit limit) hregion hroom, ?_⟩
    have hgreatest : IsGreatest {n | (withDeviceLimit { free, constants, region } limit).Allows requested n} _ :=
      isGreatest_grant (hlimit limit) hregion hroom
    convert hgreatest using 2
    ext n
    rw [Nat.max_comm]
    exact ⟨fun ⟨hdevice, hrequest, hmemory⟩ => ⟨hdevice, hrequest, hmemory⟩,
      fun h => ⟨h.device, h.request, h.memory⟩⟩
  · intro n free' constants' region' limit' requested' hn hfree hconstants hregion' hregion hdevice hrequest
    obtain ⟨hpos, hroom, rfl⟩ := room_of_streams hn
    have hroom' : constants' + region' ≤ free' := by
      simp only [withDeviceLimit] at hroom
      omega
    rw [result_notedStreams]
    refine ⟨_, streams_of_room hregion' hroom', (isGreatest_grant (hlimit limit') hregion' hroom').2 ?_⟩
    exact (isGreatest_grant (hlimit limit) hpos hroom).1.mono hfree hconstants hregion
      (by simp only [withDeviceLimit]; omega) hrequest

/-- Six regions fit beside the block where ten requests may run. With one byte of constants less there are at
least as many, also if seven are asked for. -/
theorem streams_largest_sixFit :
    IsGreatest {n | n ≤ max 1 10 ∧ (∀ count, some 6 = some count → n ≤ count) ∧ 100 + n * 150 ≤ 1000} 6 ∧
      ∃ n, ((withDeviceLimit ⟨1000, 99, 150, 1⟩ 10).notedStreams (.fixed 7 (by decide) (by decide))).result = .ok n ∧
        6 ≤ n := by
  obtain ⟨-, -, hgreatest, hmono⟩ := streams_largest 1000 100 150 10 (.fixed 6 (by decide) (by decide))
  have hsix : ((withDeviceLimit ⟨1000, 100, 150, 1⟩ 10).notedStreams
      (.fixed 6 (by decide) (by decide))).result = .ok 6 := by
    decide
  constructor
  · obtain ⟨n, hn, -, hmost⟩ := hgreatest (by decide) (by decide)
    obtain rfl : 6 = n := Except.ok.inj (hsix.symm.trans hn)
    exact hmost
  · refine hmono 6 _ _ _ _ _ hsix (Nat.le_refl _) (by decide) (by decide) (Nat.le_refl _) (Nat.le_refl _) ?_
    intro count hcount
    obtain rfl : 7 = count := Option.some.inj hcount
    exact ⟨6, rfl, by decide⟩

end Budget
end MemoryPlan
