import MemoryPlan.Proofs.Text
import MemoryPlan.StreamCount
/-!
# Written stream counts

The texts that stand for a stream count are described by a small grammar (`StreamCount.Written`): between blanks,
the token in any case of its letters, or a numeral of a positive word. Reading accepts exactly these texts, each
for the count that it stands for, and refuses all others as settings. What is written is one of them, so that
writing and reading again changes no count.
-/

namespace MemoryPlan.StreamCount

open Text

variable {s : String} {core letters : List Char} {count : StreamCount} {c : Char} {n : Nat}

/-- The letters are those of the token, each in either case. -/
def IsToken (letters : List Char) : Prop :=
  List.Forall₂ (fun c capital => c = capital ∨ c = capital.toLower) letters autoToken.toList

/-- The forms of a count without blanks. -/
inductive Spells : List Char → StreamCount → Prop
  /-- The token stands for as many as possible. -/
  | auto {letters : List Char} (h : IsToken letters) : Spells letters .auto
  /-- A numeral stands for its value. -/
  | fixed {digits : List Char} {n : Nat} {positive : 0 < n} {fits : n < Word.limit} (h : Numeral digits n) :
    Spells digits (.fixed n positive fits)

/-- The text stands for the count: it is one of its forms between blanks. -/
def Written (s : String) (count : StreamCount) : Prop := ∃ core, Framed s.toList core ∧ Spells core count

/-! ### The token -/

theorem isUpper_of_mem_autoToken : ∀ capital ∈ autoToken.toList, capital.isUpper = true := List.all_eq_true.mp rfl

/-- The token may be written in any case. -/
theorem isToken_iff : IsToken letters ↔ letters.map Char.toLower = autoToken.toList.map Char.toLower :=
  (map_toLower_eq_iff isUpper_of_mem_autoToken).symm

/-- Folding the case finds the token, however it is written. -/
theorem lowerAscii_eq_iff : lowerAscii (String.ofList letters) = lowerAscii autoToken ↔ IsToken letters := by
  unfold lowerAscii
  rw [String.ofList_inj, String.toList_ofList, isToken_iff]

/-- The token has ASCII letters only. -/
theorem IsToken.toNat_mem (h : IsToken letters) (hc : c ∈ letters) : 65 ≤ c.toNat ∧ c.toNat ≤ 122 := by
  have hsmall : c.toLower ∈ autoToken.toList.map Char.toLower := isToken_iff.mp h ▸ List.mem_map_of_mem hc
  obtain ⟨capital, hcapital, hsame⟩ := List.mem_map.mp hsmall
  have hupper := isUpper_of_mem_autoToken capital hcapital
  have hrange := isUpper_iff_toNat.mp hupper
  obtain rfl | rfl := (toLower_eq_iff hupper).mp hsame.symm
  · omega
  · rw [toNat_toLower, if_pos hupper]
    omega

/-- A numeral has a digit, and the token has none. -/
theorem IsToken.not_numeral (h : IsToken letters) : ¬ Numeral letters n := by
  rintro ⟨sign, digits, rfl, -, hsome, hdigits, -⟩
  obtain ⟨c, hc⟩ := List.exists_mem_of_ne_nil digits hsome
  have hletter := h.toNat_mem (List.mem_append_right sign hc)
  have hdigit : c.toNat ≤ 57 := (Char.isDigit_iff_toNat.mp (hdigits c hc)).2
  omega

/-- What spells a number of streams has no blanks in it. -/
theorem Spells.isBlank (h : Spells core count) : ∀ c ∈ core, isBlank c = false := by
  cases h with
  | auto h =>
    intro c hc
    have hletter := h.toNat_mem hc
    exact isBlank_of_ascii (by omega) (by omega)
  | fixed h => exact h.isBlank

/-! ### Reading -/

/-- Every positive word is a number of streams, and no other number is. -/
theorem ofNat?_eq_ok_iff :
    ofNat? n = .ok count ↔ ∃ (positive : 0 < n) (fits : n < Word.limit), count = .fixed n positive fits := by
  unfold ofNat?
  split
  · next positive =>
    split
    · next fits => simp [positive, fits, eq_comm]
    · next hover => simp [hover]
  · next hzero => simp [hzero]

/-- Every text of the grammar is read. -/
theorem ofText?_of_written (h : Written s count) : ofText? s = .ok count := by
  obtain ⟨core, hframed, hspells⟩ := h
  have htrim : trim s = String.ofList core := by
    rw [trim, trimBlanks_of_framed hframed hspells.isBlank]
  unfold ofText?
  dsimp only
  rw [htrim]
  cases hspells with
  | auto h => exact if_pos (lowerAscii_eq_iff.mpr h)
  | @fixed n positive fits h =>
    have hread : unsigned? Word.limit (String.ofList core) = some n :=
      unsigned?_eq_some_iff.mpr ⟨by rwa [String.toList_ofList], fits⟩
    rw [if_neg fun htoken => (lowerAscii_eq_iff.mp htoken).not_numeral h, hread]
    exact ofNat?_eq_ok_iff.mpr ⟨positive, fits, rfl⟩

/-- Only texts of the grammar are read. -/
theorem written_of_ofText? (h : ofText? s = .ok count) : Written s count := by
  refine ⟨trimBlanks s.toList, framed_trimBlanks _, ?_⟩
  unfold ofText? trim at h
  dsimp only at h
  split at h
  · next htoken =>
    obtain rfl := Except.ok.inj h
    exact .auto (lowerAscii_eq_iff.mp htoken)
  · split at h
    · next n hread =>
      obtain ⟨positive, fits, rfl⟩ := ofNat?_eq_ok_iff.mp h
      have hnumeral := (unsigned?_eq_some_iff.mp hread).1
      rw [String.toList_ofList] at hnumeral
      exact .fixed hnumeral
    · cases h

/-- A text is refused as a setting: as a count of zero, or by what it holds between its blanks. -/
theorem ofText?_eq_error {e : PlanError} (h : ofText? s = .error e) :
    e = .invalidConfiguration .zeroStreams ∨ e = .invalidConfiguration (.streams (trim s)) := by
  unfold ofText? at h
  dsimp only at h
  split at h
  · cases h
  · split at h
    · next n hread =>
      have hfits := (unsigned?_eq_some_iff.mp hread).2
      simp only [ofNat?, hfits, ↓reduceDIte] at h
      split at h
      · cases h
      · exact Or.inl (Except.error.inj h).symm
    · exact Or.inr (Except.error.inj h).symm

/-- What is written for a count is one of its forms. -/
theorem written_text (count : StreamCount) : Written count.text count := by
  refine ⟨count.text.toList, framed_self _, ?_⟩
  cases count with
  | auto => exact .auto (isToken_iff.mpr rfl)
  | fixed n positive fits => exact .fixed (numeral_toString n)

/-- Reading accepts exactly the texts of the grammar, each for the count that it stands for, and refuses every other
text as a setting. It gives back every count from its own text, and the count of every text that it accepts from
the text of that count. -/
theorem ofText?_accepts_written :
    (∀ s count, ofText? s = .ok count ↔ Written s count) ∧
      (∀ s, (¬ ∃ count, Written s count) → ∃ cause, ofText? s = .error (.invalidConfiguration cause)) ∧
      (∀ count, ofText? (text count) = .ok count) ∧
      ∀ s count, ofText? s = .ok count → ofText? (text count) = .ok count := by
  have hwritten : ∀ count, ofText? (text count) = .ok count := fun count => ofText?_of_written (written_text count)
  refine ⟨fun s count => ⟨written_of_ofText?, ofText?_of_written⟩, ?_, hwritten, fun s count _ => hwritten count⟩
  intro s hnone
  cases hread : ofText? s with
  | ok count => exact (hnone ⟨count, written_of_ofText? hread⟩).elim
  | error e =>
    obtain rfl | rfl := ofText?_eq_error hread <;> exact ⟨_, rfl⟩

/-- Blanks, a sign and leading zeros do not count. The number behind the largest word is refused. -/
theorem ofText?_accepts_written_edges :
    ofText? " +007\t" = .ok (.fixed 7 (by decide) (by decide)) ∧
      ofText? (text (.fixed 7 (by decide) (by decide))) = .ok (.fixed 7 (by decide) (by decide)) ∧
      ∃ cause, ofText? "18446744073709551616" = .error (.invalidConfiguration cause) := by
  obtain ⟨haccepts, hrefuses, -, hagain⟩ := ofText?_accepts_written
  have hframed : Framed " +007\t".toList ['+', '0', '0', '7'] :=
    ⟨[' '], ['\t'], rfl, List.all_eq_true.mp rfl, List.all_eq_true.mp rfl⟩
  have hnumeral : Numeral ['+', '0', '0', '7'] 7 :=
    ⟨['+'], ['0', '0', '7'], rfl, Or.inr rfl, List.cons_ne_nil _ _, List.all_eq_true.mp rfl, rfl⟩
  have hseven : ofText? " +007\t" = .ok (.fixed 7 (by decide) (by decide)) :=
    (haccepts _ _).mpr ⟨_, hframed, .fixed hnumeral⟩
  refine ⟨hseven, hagain _ _ hseven, hrefuses _ ?_⟩
  rintro ⟨count, hwritten⟩
  have hnone : (ofText? "18446744073709551616").toOption = none := by decide
  rw [(haccepts _ _).mpr hwritten] at hnone
  cases hnone

end MemoryPlan.StreamCount
