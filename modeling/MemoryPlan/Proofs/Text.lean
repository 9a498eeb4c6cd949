import Mathlib.Data.List.Forall2
import Mathlib.Data.List.TakeWhile
import MemoryPlan.Text.Blank
import MemoryPlan.Text.Numeral
/-!
# Blanks, letters and numerals

What the readers of settings accept, said without the readers: a core between blanks (`Text.Framed`), a word in
any case of its letters, and a decimal numeral with its value (`Text.Numeral`). Written numbers are numerals, and
reading gives them back.
-/

namespace MemoryPlan.Text

variable {cs core digits word : List Char} {c capital : Char} {value bound n : Nat}

/-! ### Blanks -/

/-- The characters are a core with blanks before and behind it. -/
def Framed (cs core : List Char) : Prop :=
  ∃ before behind, cs = before ++ core ++ behind ∧ (∀ c ∈ before, isBlank c = true) ∧
    ∀ c ∈ behind, isBlank c = true

theorem framed_self (core : List Char) : Framed core core :=
  ⟨[], [], (List.append_nil core).symm, by simp, by simp⟩

/-- Visible ASCII characters are no blanks. -/
theorem isBlank_of_ascii (hlow : 0x20 < c.toNat) (hhigh : c.toNat < 0x7F) : isBlank c = false := by
  simp [isBlank, blankRanges]
  omega

/-- Trimming leaves out blanks only. -/
theorem framed_trimBlanks (cs : List Char) : Framed cs (trimBlanks cs) := by
  let tail := cs.dropWhile isBlank
  refine ⟨cs.takeWhile isBlank, (tail.reverse.takeWhile isBlank).reverse, ?_, ?_, ?_⟩
  · have htail : trimBlanks cs ++ (tail.reverse.takeWhile isBlank).reverse = tail := by
      rw [trimBlanks, ← List.reverse_append, List.takeWhile_append_dropWhile, List.reverse_reverse]
    rw [List.append_assoc, htail, List.takeWhile_append_dropWhile]
  · exact fun c hc => List.mem_takeWhile_imp hc
  · exact fun c hc => List.mem_takeWhile_imp (List.mem_reverse.mp hc)

/-- Blanks are left out up to the first character that is none. -/
theorem dropWhile_blanks {blanks : List Char} (hblanks : ∀ c ∈ blanks, isBlank c = true)
    (hcore : ∀ c ∈ core.head?, isBlank c = false) : (blanks ++ core).dropWhile isBlank = core := by
  rw [List.dropWhile_append_of_pos hblanks]
  cases core with
  | nil => rfl
  | cons c cs => rw [List.dropWhile_cons_of_neg (by simp [hcore c rfl])]

/-- Trimming finds a core that has no blanks. -/
theorem trimBlanks_of_framed (h : Framed cs core) (hcore : ∀ c ∈ core, isBlank c = false) :
    trimBlanks cs = core := by
  obtain ⟨before, behind, rfl, hbefore, hbehind⟩ := h
  have hlast : ∀ c ∈ core.reverse.head?, isBlank c = false :=
    fun c hc => hcore c (List.mem_reverse.mp (List.mem_of_mem_head? hc))
  have hback : ((core ++ behind).reverse.dropWhile isBlank).reverse = core := by
    rw [List.reverse_append, dropWhile_blanks (fun c hc => hbehind c (List.mem_reverse.mp hc)) hlast,
      List.reverse_reverse]
  unfold trimBlanks
  cases core with
  | nil =>
    have hall : ∀ c ∈ before ++ [] ++ behind, isBlank c = true := by
      simpa [or_imp, forall_and] using ⟨hbefore, hbehind⟩
    rw [List.dropWhile_eq_nil_iff.mpr hall]
    rfl
  | cons c rest =>
    have hfirst : ∀ d ∈ (c :: rest ++ behind).head?, isBlank d = false := by
      intro d hd
      exact hcore d (by simp_all)
    rw [List.append_assoc, dropWhile_blanks hbefore hfirst]
    exact hback

/-! ### Letters -/

/-- Capital letters of ASCII are those from 65 to 90. -/
theorem isUpper_iff_toNat : c.isUpper = true ↔ 65 ≤ c.toNat ∧ c.toNat ≤ 90 := by
  change decide (65 ≤ c.val ∧ c.val ≤ 90) = true ↔ _
  rw [decide_eq_true_eq, UInt32.le_iff_toNat_le, UInt32.le_iff_toNat_le]
  rfl

/-- A capital letter of ASCII moves by 32, and no other character moves. -/
theorem toNat_toLower (c : Char) : c.toLower.toNat = if c.isUpper = true then c.toNat + 32 else c.toNat := by
  unfold Char.toLower
  by_cases hc : c.isUpper = true
  · have hrange := isUpper_iff_toNat.mp hc
    rw [dif_pos (of_decide_eq_true hc), if_pos hc, Char.toNat_mk, UInt32.toNat_add]
    change (c.toNat + 32) % 2 ^ 32 = c.toNat + 32
    omega
  · rw [dif_neg (of_decide_eq_false (Bool.eq_false_iff.mpr hc)), if_neg hc]

/-- Two letters have the same small letter exactly if they are the same but for the case. -/
theorem toLower_eq_iff (hcapital : capital.isUpper = true) :
    c.toLower = capital.toLower ↔ c = capital ∨ c = capital.toLower := by
  have hlow := toNat_toLower capital
  have hrange := isUpper_iff_toNat.mp hcapital
  rw [if_pos hcapital] at hlow
  rw [← Char.toNat_inj, ← Char.toNat_inj, ← Char.toNat_inj, toNat_toLower c, hlow]
  by_cases hc : c.isUpper = true
  · have hown := isUpper_iff_toNat.mp hc
    rw [if_pos hc]
    omega
  · have hown := isUpper_iff_toNat.not.mp hc
    rw [if_neg hc]
    omega

/-- A word agrees with one of capital letters but for the case exactly if its letters do, one by one. -/
theorem map_toLower_eq_iff (hword : ∀ capital ∈ word, capital.isUpper = true) :
    cs.map Char.toLower = word.map Char.toLower ↔
      List.Forall₂ (fun c capital => c = capital ∨ c = capital.toLower) cs word := by
  induction word generalizing cs with
  | nil => simp
  | cons capital rest ih =>
    obtain ⟨hcapital, hrest⟩ := List.forall_mem_cons.mp hword
    cases cs with
    | nil => simp
    | cons c cs =>
      rw [List.map_cons, List.map_cons, List.cons.injEq, List.forall₂_cons, toLower_eq_iff hcapital, ih hrest]

/-! ### Numerals -/

/-- The characters are a decimal numeral, with or without a plus sign, of that value. -/
def Numeral (cs : List Char) (value : Nat) : Prop :=
  ∃ sign digits, cs = sign ++ digits ∧ (sign = [] ∨ sign = ['+']) ∧ digits ≠ [] ∧
    (∀ c ∈ digits, c.isDigit = true) ∧ Nat.ofDigitChars 10 digits 0 = value

theorem digit?_eq (c : Char) : digit? c = if c.isDigit = true then some (c.toNat - '0'.toNat) else none := by
  have hdigit : ('0' ≤ c ∧ c ≤ '9') ↔ c.isDigit = true := by
    simp [Char.isDigit, Char.le_def]
  unfold digit?
  exact if_congr hdigit rfl rfl

/-- Digits extend a number to the base of ten, and nothing but digits does. -/
theorem extendDecimal_eq_some_iff :
    extendDecimal n digits = some value ↔
      (∀ c ∈ digits, c.isDigit = true) ∧ Nat.ofDigitChars 10 digits n = value := by
  induction digits generalizing n with
  | nil => simp [extendDecimal, Nat.ofDigitChars]
  | cons c rest ih =>
    have hstep : extendDecimal n (c :: rest) = (digit? c).bind fun d => extendDecimal (10 * n + d) rest := rfl
    rw [hstep, digit?_eq, Nat.ofDigitChars_cons, List.forall_mem_cons]
    by_cases hc : c.isDigit = true
    · rw [if_pos hc, Option.bind_some, ih]
      simp [hc]
    · simp [hc]

/-- A decimal number consists of at least one digit, and of nothing but digits. -/
theorem decimal?_eq_some_iff :
    decimal? digits = some value ↔
      digits ≠ [] ∧ (∀ c ∈ digits, c.isDigit = true) ∧ Nat.ofDigitChars 10 digits 0 = value := by
  cases digits with
  | nil => simp [decimal?]
  | cons c rest => simp only [decimal?, extendDecimal_eq_some_iff, ne_eq, reduceCtorEq, not_false_eq_true, true_and]

/-- What is written of a natural number are digits. -/
theorem isDigit_of_mem_toDigits (hc : c ∈ Nat.toDigits 10 n) : c.isDigit = true :=
  Nat.isDigit_of_mem_toDigits (by decide) (by decide) hc

/-- Written numbers are read back. -/
theorem decimal?_toDigits (n : Nat) : decimal? (Nat.toDigits 10 n) = some n :=
  decimal?_eq_some_iff.mpr ⟨Nat.toDigits_ne_nil, fun _ hc => isDigit_of_mem_toDigits hc,
    Nat.ofDigitChars_ten_toDigits⟩

/-- A written number begins with a digit. -/
theorem exists_toDigits_cons (n : Nat) : ∃ c rest, Nat.toDigits 10 n = c :: rest ∧ c.isDigit = true := by
  cases hdigits : Nat.toDigits 10 n with
  | nil => exact (Nat.toDigits_ne_nil hdigits).elim
  | cons c rest =>
    have hc : c ∈ Nat.toDigits 10 n := hdigits ▸ List.mem_cons_self
    exact ⟨c, rest, rfl, isDigit_of_mem_toDigits hc⟩

/-- A digit is no sign, and no blank. -/
theorem ne_sign_of_isDigit (hc : c.isDigit = true) : c ≠ '+' ∧ c ≠ '-' := by
  constructor <;> rintro rfl <;> simp at hc

theorem isBlank_of_isDigit (hc : c.isDigit = true) : isBlank c = false := by
  obtain ⟨hlow, hhigh⟩ := Char.isDigit_iff_toNat.mp hc
  exact isBlank_of_ascii (Nat.lt_of_lt_of_le (by decide) hlow) (Nat.lt_of_le_of_lt hhigh (by decide))

/-- A numeral has no blanks in it. -/
theorem Numeral.isBlank (h : Numeral cs value) : ∀ c ∈ cs, isBlank c = false := by
  obtain ⟨sign, digits, rfl, hsign, -, hdigits, -⟩ := h
  intro c hc
  obtain hc | hc := List.mem_append.mp hc
  · obtain rfl | rfl := hsign
    · cases hc
    · rw [List.mem_singleton.mp hc]
      decide
  · exact isBlank_of_isDigit (hdigits c hc)

/-- Reading a numeral inside a range finds exactly the numerals of values inside it. -/
theorem unsigned?_eq_some_iff {s : String} :
    unsigned? bound s = some value ↔ Numeral s.toList value ∧ value < bound := by
  have hfilter : ∀ digits, (decimal? digits).filter (· < bound) = some value ↔
      decimal? digits = some value ∧ value < bound := by
    intro digits
    simp [Option.filter_eq_some_iff]
  unfold unsigned?
  dsimp only
  rw [hfilter]
  refine and_congr_left fun _ => ?_
  constructor
  · intro h
    split at h
    · next rest hs =>
      obtain ⟨hsome, hdigits, hvalue⟩ := decimal?_eq_some_iff.mp h
      exact ⟨['+'], rest, hs, Or.inr rfl, hsome, hdigits, hvalue⟩
    · obtain ⟨hsome, hdigits, hvalue⟩ := decimal?_eq_some_iff.mp h
      exact ⟨[], s.toList, rfl, Or.inl rfl, hsome, hdigits, hvalue⟩
  · rintro ⟨sign, digits, hs, hsign, hsome, hdigits, hvalue⟩
    have hdecimal := decimal?_eq_some_iff.mpr ⟨hsome, hdigits, hvalue⟩
    rw [hs]
    obtain rfl | rfl := hsign
    · cases digits with
      | nil => exact (hsome rfl).elim
      | cons c rest =>
        have hplus := (ne_sign_of_isDigit (hdigits c List.mem_cons_self)).1
        split
        · next heq => exact (hplus (List.cons.inj heq).1).elim
        · exact hdecimal
    · exact hdecimal

/-- A written number is a numeral of its value. -/
theorem numeral_toString (n : Nat) : Numeral (toString n).toList n := by
  obtain ⟨hsome, hdigits, hvalue⟩ := decimal?_eq_some_iff.mp (decimal?_toDigits n)
  rw [Nat.toString_eq_repr, Nat.toList_repr]
  exact ⟨[], _, rfl, Or.inl rfl, hsome, hdigits, hvalue⟩

/-- The characters of a written integer: those of its absolute value, behind a minus sign if it is negative. -/
theorem toList_toString_int (z : Int) :
    (toString z).toList = if 0 ≤ z then Nat.toDigits 10 z.toNat else '-' :: Nat.toDigits 10 (-z).toNat := by
  rw [Int.toString_eq_repr, Int.repr_eq_if]
  split
  · exact Nat.toList_repr
  · rw [String.toList_append, Nat.toList_repr]
    rfl

/-- What is written of an integer are digits and a sign. -/
theorem isDigit_or_minus {z : Int} (hc : c ∈ (toString z).toList) : c.isDigit = true ∨ c = '-' := by
  rw [toList_toString_int] at hc
  split at hc
  · exact Or.inl (isDigit_of_mem_toDigits hc)
  · obtain hminus | hc := List.mem_cons.mp hc
    · exact Or.inr hminus
    · exact Or.inl (isDigit_of_mem_toDigits hc)

/-- A written integer has no blanks in it. -/
theorem isBlank_toString_int (z : Int) : ∀ c ∈ (toString z).toList, isBlank c = false := by
  intro c hc
  obtain hdigit | rfl := isDigit_or_minus hc
  · exact isBlank_of_isDigit hdigit
  · decide

/-- A written integer is read back inside every range that it lies in. -/
theorem signed?_toString {z : Int} (hlow : -(bound : Int) ≤ z) (hhigh : z < bound) :
    signed? bound (toString z) = some z := by
  have hkept : (some z).filter (fun v => decide (-(bound : Int) ≤ v ∧ v < bound)) = some z := by
    simp [hlow, hhigh]
  unfold signed?
  rw [toList_toString_int]
  by_cases hz : 0 ≤ z
  · rw [if_pos hz]
    have hdecimal := decimal?_toDigits z.toNat
    obtain ⟨c, rest, hcs, hc⟩ := exists_toDigits_cons z.toNat
    obtain ⟨hplus, hminus⟩ := ne_sign_of_isDigit hc
    rw [hcs] at hdecimal ⊢
    split
    · next heq => exact (hminus (List.cons.inj heq).1).elim
    · next heq => exact (hplus (List.cons.inj heq).1).elim
    · rw [hdecimal]
      change (some (z.toNat : Int)).filter _ = some z
      rw [Int.toNat_of_nonneg hz]
      exact hkept
  · have hvalue : -((-z).toNat : Int) = z := by omega
    rw [if_neg hz]
    simp only [decimal?_toDigits, Option.pure_def, Option.bind_eq_bind, Option.bind_some, Option.map_some, hvalue]
    exact hkept

end MemoryPlan.Text
