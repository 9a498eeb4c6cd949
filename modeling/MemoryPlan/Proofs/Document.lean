import MemoryPlan.Document.Printer
import MemoryPlan.Document.Reader
import MemoryPlan.Proofs.Text
/-!
# Written documents

A document that is written and read again is the same one, with all texts, integers, lists and maps in it. Only
numbers that are kept by their text are left out: any text may stand in them. The reader goes along the written
characters; each part of a document is read from its own characters, whatever follows them, as long as a number
does not go on. The depth that the reader allows is enough, since every part is shorter than the whole.
-/

namespace MemoryPlan.Document

open Text

variable {d : Document} {c : Char} {cs rest : List Char} {fuel : Nat}

/-- No number of the document is kept by its text. -/
inductive Plain : Document → Prop
  | null : Plain .null
  | bool (value : Bool) : Plain (.bool value)
  | integer (value : Int) : Plain (.integer value)
  | text (value : String) : Plain (.text value)
  | list {items : List Document} (h : ∀ item ∈ items, Plain item) : Plain (.list items)
  | fields {entries : List (String × Document)} (h : ∀ entry ∈ entries, Plain entry.2) : Plain (.fields entries)

/-- The characters do not continue a number. -/
def Stops (cs : List Char) : Prop := ∀ c ∈ cs.head?, isNumberPart c = false

/-- The document is read from its characters, whatever follows them. -/
def Reads (d : Document) : Prop :=
  ∀ fuel rest, d.write.toList.length ≤ fuel → Stops rest → readValue fuel (d.write.toList ++ rest) = some (d, rest)

/-! ### Texts -/

/-- A digit to the base of sixteen is read back. -/
theorem hexDigit?_digitChar : ∀ n < 16, hexDigit? n.digitChar = some n := by decide

/-- A control character is written as four digits to the base of sixteen. -/
theorem toList_numberedEscape_ofNat : ∀ n < 0x20, (numberedEscape (Char.ofNat n)).toList =
    ['\\', 'u', '0', '0', (n / 16).digitChar, (n % 16).digitChar] := by
  decide

/-- A control character is escaped by its two digits. -/
theorem toList_numberedEscape (hc : c.toNat < 0x20) : (numberedEscape c).toList =
    ['\\', 'u', '0', '0', (c.toNat / 16).digitChar, (c.toNat % 16).digitChar] := by
  have hescape := toList_numberedEscape_ofNat c.toNat hc
  rwa [Char.ofNat_toNat] at hescape

/-- A control character is read back from its four digits. -/
theorem escaped?_control (hc : c.toNat < 0x20) (cs : List Char) :
    escaped? ('u' :: '0' :: '0' :: (c.toNat / 16).digitChar :: (c.toNat % 16).digitChar :: cs) = some (c, cs) := by
  have hhigh := hexDigit?_digitChar (c.toNat / 16) (by omega)
  have hlow := hexDigit?_digitChar (c.toNat % 16) (by omega)
  have hzero : hexDigit? '0' = some 0 := rfl
  have hunit : unit? ('0' :: '0' :: (c.toNat / 16).digitChar :: (c.toNat % 16).digitChar :: cs) =
      some (c.toNat, cs) := by
    simp only [unit?, hzero, hhigh, hlow, Option.bind_eq_bind, Option.bind_some, Option.pure_def,
      Option.some.injEq, Prod.mk.injEq, and_true]
    omega
  have hplane : ¬ (0xD800 ≤ c.toNat ∧ c.toNat < 0xDC00) := by omega
  simp only [escaped?, numbered?, hunit, Option.bind_eq_bind, Option.bind_some, if_neg hplane, Option.pure_def,
    Char.ofNat_toNat]

/-- One written character is read as one character. -/
theorem readText_writeChar (read : List Char) (c : Char) (cs : List Char) :
    readText (fuel + 1) read ((writeChar c).toList ++ cs) = readText fuel (c :: read) cs := by
  unfold writeChar
  split
  · next h =>
    rw [beq_iff_eq] at h
    rw [h]
    rfl
  · split
    · next h =>
      rw [beq_iff_eq] at h
      rw [h]
      rfl
    · split
      · next hcontrol =>
        rw [toList_numberedEscape hcontrol]
        simp only [List.cons_append, List.nil_append, readText, escaped?_control hcontrol cs]
        rfl
      · next hquote hslash _ =>
        rw [Char.toString_eq_singleton, String.toList_singleton, List.singleton_append, readText]
        simp [hquote, hslash]

/-- The characters of a text between its quotes. -/
def quoted (s : String) : List Char := s.toList.flatMap fun c => (writeChar c).toList

/-- A text is written between quotation marks. -/
theorem toList_writeText (s : String) : (writeText s).toList = '"' :: (quoted s ++ ['"']) := by
  simp [writeText, quoted, String.toList_join, List.flatMap_map]

theorem length_writeChar_pos (c : Char) : 0 < (writeChar c).toList.length := by
  unfold writeChar
  split
  · decide
  · split
    · decide
    · split
      · next hcontrol =>
        rw [toList_numberedEscape hcontrol]
        exact Nat.zero_lt_succ _
      · simp [Char.toString_eq_singleton]

/-- Escapes make a text longer, never shorter. -/
theorem length_le_flatMap (cs : List Char) : cs.length ≤ (cs.flatMap fun c => (writeChar c).toList).length := by
  induction cs with
  | nil => exact Nat.le_refl _
  | cons c cs ih =>
    have hpos := length_writeChar_pos c
    rw [List.flatMap_cons, List.length_append, List.length_cons]
    omega

/-- The characters of a text are read back up to the closing mark, given one unit of fuel for each.
-/
theorem readText_flatMap (read : List Char) (hfuel : cs.length < fuel) (rest : List Char) :
    readText fuel read ((cs.flatMap fun c => (writeChar c).toList) ++ '"' :: rest) =
      some (String.ofList (read.reverse ++ cs), rest) := by
  induction cs generalizing fuel read with
  | nil =>
    cases fuel with
    | zero => cases hfuel
    | succ fuel => simp [readText]
  | cons c cs ih =>
    cases fuel with
    | zero => cases hfuel
    | succ fuel =>
      rw [List.flatMap_cons, List.append_assoc, readText_writeChar, ih (c :: read) (Nat.lt_of_succ_lt_succ hfuel)]
      simp

/-- A written text is read up to its closing quote. -/
theorem readText_quoted (s : String) (rest : List Char) :
    readText ((quoted s ++ '"' :: rest).length + 1) [] (quoted s ++ '"' :: rest) = some (s, rest) := by
  have hlength := length_le_flatMap s.toList
  have hfuel : s.toList.length < (quoted s ++ '"' :: rest).length + 1 := by
    rw [List.length_append, quoted]
    omega
  unfold quoted at hfuel ⊢
  rw [readText_flatMap [] hfuel rest, List.reverse_nil, List.nil_append, String.ofList_toList]

/-! ### Numbers -/

theorem isNumberPart_of_isDigit (hc : c.isDigit = true) : isNumberPart c = true := by
  unfold isNumberPart
  rw [digit?_eq, if_pos hc]
  rfl

/-- A written integer consists of characters that belong to numbers. -/
theorem isNumberPart_of_mem_toString {z : Int} (hc : c ∈ (toString z).toList) : isNumberPart c = true := by
  obtain hdigit | rfl := isDigit_or_minus hc
  · exact isNumberPart_of_isDigit hdigit
  · rfl

/-- A written integer begins with a digit or a minus sign. -/
theorem exists_toString_cons (z : Int) :
    ∃ c cs, (toString z).toList = c :: cs ∧ (c.isDigit = true ∨ c = '-') := by
  rw [toList_toString_int]
  split
  · obtain ⟨c, cs, hcs, hc⟩ := exists_toDigits_cons z.toNat
    exact ⟨c, cs, hcs, Or.inl hc⟩
  · exact ⟨'-', _, rfl, Or.inr rfl⟩

/-- An integer is read back from its text. -/
theorem number?_toString (z : Int) : number? (toString z).toList = some (.integer z) := by
  unfold number?
  rw [toList_toString_int]
  by_cases hz : 0 ≤ z
  · have hdecimal := decimal?_toDigits z.toNat
    obtain ⟨c, rest, hcs, hc⟩ := exists_toDigits_cons z.toNat
    have hminus := (ne_sign_of_isDigit hc).2
    have hvalue : (z.toNat : Int) = z := Int.toNat_of_nonneg hz
    rw [if_pos hz, hcs]
    rw [hcs] at hdecimal
    dsimp only
    -- the first match is on what the second one reads
    split
    · next n hintegral =>
      split at hintegral
      · next heq => exact (hminus (List.cons.inj heq).1).elim
      · rw [hdecimal] at hintegral
        rw [← hvalue]
        exact congrArg (fun m => some (Document.integer m)) (Option.some.inj hintegral).symm
    · next hintegral =>
      split at hintegral
      · next heq => exact (hminus (List.cons.inj heq).1).elim
      · rw [hdecimal] at hintegral
        cases hintegral
  · rw [if_neg hz]
    have hvalue : -((-z).toNat : Int) = z := by omega
    have hsome : (-z).toNat ≠ 0 := by omega
    simp only [decimal?_toDigits, Option.bind_some, if_neg hsome, hvalue]

/-- A number is read up to the first character that is no part of it. -/
theorem takeWhile_isNumberPart (hcs : ∀ c ∈ cs, isNumberPart c = true) (hrest : Stops rest) :
    (cs ++ rest).takeWhile isNumberPart = cs ∧ (cs ++ rest).dropWhile isNumberPart = rest := by
  rw [List.takeWhile_append_of_pos hcs, List.dropWhile_append_of_pos hcs]
  cases rest with
  | nil => exact ⟨List.append_nil cs, rfl⟩
  | cons c rest =>
    have hc : ¬ isNumberPart c = true := by simp [hrest c rfl]
    rw [List.takeWhile_cons_of_neg hc, List.dropWhile_cons_of_neg hc]
    exact ⟨List.append_nil cs, rfl⟩

/-- A number starts with no gap and closes no list. -/
theorem isGap_of_number (hc : c.isDigit = true ∨ c = '-') : isGap c = false ∧ c ≠ ']' := by
  obtain hc | rfl := hc
  · refine ⟨?_, ?_⟩
    · have hlow := (Char.isDigit_iff_toNat.mp hc).1
      simp only [isGap, Bool.or_eq_false_iff, beq_eq_false_iff_ne]
      refine ⟨⟨⟨?_, ?_⟩, ?_⟩, ?_⟩ <;> rintro rfl <;> revert hlow <;> decide
    · rintro rfl
      simp at hc
  · decide

/-- A value that starts like a number is read as far as a number goes. -/
theorem readValue_of_number (hc : c.isDigit = true ∨ c = '-') :
    readValue (fuel + 1) (c :: cs) =
      (number? ((c :: cs).takeWhile isNumberPart)).map fun n => (n, (c :: cs).dropWhile isNumberPart) := by
  have hskip : skipGaps (c :: cs) = c :: cs := List.dropWhile_cons_of_neg (by simp [(isGap_of_number hc).1])
  have hother : c ≠ 'n' ∧ c ≠ 't' ∧ c ≠ 'f' ∧ c ≠ '"' ∧ c ≠ '[' ∧ c ≠ '\x7b' := by
    obtain hc | rfl := hc
    · refine ⟨?_, ?_, ?_, ?_, ?_, ?_⟩ <;> rintro rfl <;> simp at hc
    · decide
  obtain ⟨hn, ht, hf, hquote, hlist, hfields⟩ := hother
  rw [readValue, hskip]
  split <;> simp_all

/-- A written integer is read back, whatever follows that is no part of a number. -/
theorem reads_integer (z : Int) : Reads (.integer z) := by
  intro fuel rest hfuel hrest
  obtain ⟨c, cs, hcs, hc⟩ := exists_toString_cons z
  have hwrite : (Document.integer z).write = toString z := by rw [write]
  rw [hwrite] at hfuel ⊢
  cases fuel with
  | zero =>
    rw [hcs] at hfuel
    cases hfuel
  | succ fuel =>
    obtain ⟨htake, hdrop⟩ := takeWhile_isNumberPart (fun _ h => isNumberPart_of_mem_toString h) hrest
    have hnumber := number?_toString z
    rw [hcs] at htake hdrop hnumber ⊢
    rw [List.cons_append, readValue_of_number hc, ← List.cons_append, htake, hdrop, hnumber]
    rfl

/-! ### Lists and maps -/

/-- The characters of several parts, with commas between them. -/
def joined (parts : List String) : List Char := (String.intercalate "," parts).toList

theorem joined_singleton (part : String) : joined [part] = part.toList := by
  simp [joined]

/-- The first part stands before a comma and the others. -/
theorem joined_cons (part : String) {parts : List String} (hsome : parts ≠ []) :
    joined (part :: parts) = part.toList ++ ',' :: joined parts := by
  have hlists : parts.map String.toList ≠ [] := by simpa using hsome
  rw [joined, joined, String.toList_intercalate, String.toList_intercalate, List.map_cons,
    List.intercalate_cons_of_ne_nil hlists]
  simp

/-- The joined characters begin with those of the first part. -/
theorem exists_joined_cons (part : String) (parts : List String) :
    ∃ more, joined (part :: parts) = part.toList ++ more := by
  by_cases hlast : parts = []
  · subst hlast
    exact ⟨[], by rw [joined_singleton, List.append_nil]⟩
  · exact ⟨_, joined_cons part hlast⟩

theorem writeItems_eq (items : List Document) : writeItems items = items.map write := by
  induction items with
  | nil => rfl
  | cons item rest ih => rw [writeItems, ih, List.map_cons]

/-- The text of one entry of a map. -/
def writeEntry (entry : String × Document) : String := writeText entry.1 ++ ":" ++ entry.2.write

theorem writeEntries_eq (entries : List (String × Document)) : writeEntries entries = entries.map writeEntry := by
  induction entries with
  | nil => rfl
  | cons entry rest ih => rw [writeEntries, ih, List.map_cons, writeEntry]

theorem toList_write_list (items : List Document) :
    (Document.list items).write.toList = '[' :: (joined (items.map write) ++ [']']) := by
  rw [write, writeItems_eq, String.toList_append, String.toList_append]
  rfl

theorem toList_write_fields (entries : List (String × Document)) :
    (Document.fields entries).write.toList = '\x7b' :: (joined (entries.map writeEntry) ++ ['\x7d']) := by
  rw [write, writeEntries_eq, String.toList_append, String.toList_append]
  rfl

theorem toList_writeEntry (entry : String × Document) :
    (writeEntry entry).toList = '"' :: (quoted entry.1 ++ '"' :: ':' :: entry.2.write.toList) := by
  rw [writeEntry, String.toList_append, String.toList_append, toList_writeText]
  simp

/-- The items of a list are read one by one, up to the bracket behind them. -/
theorem readItems_joined {items : List Document} (hsome : items ≠ []) (hreads : ∀ item ∈ items, Reads item)
    (read : List Document) (hfuel : (joined (items.map write)).length < fuel) (rest : List Char) :
    readItems fuel read (joined (items.map write) ++ ']' :: rest) = some (read.reverse ++ items, rest) := by
  induction items generalizing fuel read with
  | nil => exact (hsome rfl).elim
  | cons item items ih =>
    obtain ⟨hitem, hitems⟩ := List.forall_mem_cons.mp hreads
    cases fuel with
    | zero => cases hfuel
    | succ fuel =>
      by_cases hlast : items = []
      · subst hlast
        rw [List.map_singleton, joined_singleton] at hfuel ⊢
        have hvalue := hitem fuel (']' :: rest) (by omega) (by simp [Stops, isNumberPart, digit?])
        rw [readItems, hvalue]
        simp [skipGaps, isGap]
      · have hmap : items.map write ≠ [] := by simpa using hlast
        rw [List.map_cons, joined_cons _ hmap] at hfuel ⊢
        rw [List.length_append, List.length_cons] at hfuel
        have hvalue := hitem fuel (',' :: (joined (items.map write) ++ ']' :: rest)) (by omega)
          (by simp [Stops, isNumberPart, digit?])
        have hrest := ih hlast hitems (item :: read) (show _ < fuel by omega)
        rw [List.append_assoc, List.cons_append, readItems, hvalue]
        simp [skipGaps, isGap, hrest]

/-- The first entry is read up to the comma or the brace behind it. -/
theorem readEntries_entry {entry : String × Document} {tail : List Char} (read : List (String × Document))
    (hvalue : readValue fuel (entry.2.write.toList ++ tail) = some (entry.2, tail)) :
    (∀ more, skipGaps tail = ',' :: more →
      readEntries (fuel + 1) read ((writeEntry entry).toList ++ tail) = readEntries fuel (entry :: read) more) ∧
    ∀ more, skipGaps tail = '\x7d' :: more →
      readEntries (fuel + 1) read ((writeEntry entry).toList ++ tail) = some ((entry :: read).reverse, more) := by
  have hname := readText_quoted entry.1 (':' :: (entry.2.write.toList ++ tail))
  have hquote : ∀ cs, skipGaps ('"' :: cs) = '"' :: cs := fun _ => rfl
  have hcolon : ∀ cs, skipGaps (':' :: cs) = ':' :: cs := fun _ => rfl
  rw [toList_writeEntry, List.cons_append, List.append_assoc, List.cons_append, List.cons_append, readEntries,
    hquote]
  constructor
  · intro more hmore
    simp only [hname, hcolon, hvalue, hmore]
  · intro more hmore
    simp only [hname, hcolon, hvalue, hmore]

/-- The entries of a map are read one by one, up to the brace behind them. -/
theorem readEntries_joined {entries : List (String × Document)} (hsome : entries ≠ [])
    (hreads : ∀ entry ∈ entries, Reads entry.2) (read : List (String × Document))
    (hfuel : (joined (entries.map writeEntry)).length < fuel) (rest : List Char) :
    readEntries fuel read (joined (entries.map writeEntry) ++ '\x7d' :: rest) =
      some (read.reverse ++ entries, rest) := by
  have hshorter : ∀ entry : String × Document, entry.2.write.toList.length ≤ (writeEntry entry).toList.length := by
    intro entry
    rw [toList_writeEntry, List.length_cons, List.length_append, List.length_cons, List.length_cons]
    omega
  induction entries generalizing fuel read with
  | nil => exact (hsome rfl).elim
  | cons entry entries ih =>
    obtain ⟨hentry, hentries⟩ := List.forall_mem_cons.mp hreads
    have hlength := hshorter entry
    cases fuel with
    | zero => cases hfuel
    | succ fuel =>
      by_cases hlast : entries = []
      · subst hlast
        rw [List.map_singleton, joined_singleton] at hfuel ⊢
        have hvalue := hentry fuel ('\x7d' :: rest) (by omega) (by simp [Stops, isNumberPart, digit?])
        rw [(readEntries_entry read hvalue).2 rest rfl]
        simp
      · have hmap : entries.map writeEntry ≠ [] := by simpa using hlast
        rw [List.map_cons, joined_cons _ hmap] at hfuel ⊢
        rw [List.length_append, List.length_cons] at hfuel
        have hvalue := hentry fuel (',' :: (joined (entries.map writeEntry) ++ '\x7d' :: rest)) (by omega)
          (by simp [Stops, isNumberPart, digit?])
        have hrest := ih hlast hentries (entry :: read) (show _ < fuel by omega)
        rw [List.append_assoc, List.cons_append, (readEntries_entry read hvalue).1 _ rfl, hrest]
        simp

/-- A document without numbers that are kept by their text begins neither with a gap nor with a closing bracket. -/
theorem Plain.write_cons (h : Plain d) : ∃ c cs, d.write.toList = c :: cs ∧ isGap c = false ∧ c ≠ ']' := by
  cases h with
  | null => exact ⟨'n', _, rfl, by decide, by decide⟩
  | bool value =>
    cases value
    · exact ⟨'f', _, rfl, by decide, by decide⟩
    · exact ⟨'t', _, rfl, by decide, by decide⟩
  | integer z =>
    obtain ⟨c, cs, hcs, hc⟩ := exists_toString_cons z
    exact ⟨c, cs, by rw [write]; exact hcs, isGap_of_number hc⟩
  | text s => exact ⟨'"', _, by rw [write]; exact toList_writeText s, by decide, by decide⟩
  | list _ => exact ⟨'[', _, toList_write_list _, by decide, by decide⟩
  | fields _ => exact ⟨'\x7b', _, toList_write_fields _, by decide, by decide⟩

/-- A value that starts with a quotation mark is read as a text. -/
theorem readValue_quote (rest : List Char) :
    readValue (fuel + 1) ('"' :: rest) = (readText (rest.length + 1) [] rest).map fun p => (.text p.1, p.2) := by
  rw [readValue]
  rfl

theorem readValue_bracket (rest : List Char) :
    readValue (fuel + 1) ('[' :: rest) =
      match skipGaps rest with
      | ']' :: rest => some (.list [], rest)
      | rest => (readItems fuel [] rest).map fun p => (.list p.1, p.2) := by
  rw [readValue]
  rfl

theorem readValue_brace (rest : List Char) :
    readValue (fuel + 1) ('\x7b' :: rest) =
      match skipGaps rest with
      | '\x7d' :: rest => some (.fields [], rest)
      | rest => (readEntries fuel [] rest).map fun p => (.fields p.1, p.2) := by
  rw [readValue]
  rfl

/-- A written text is read back, whatever follows. -/
theorem reads_text (s : String) : Reads (.text s) := by
  intro fuel rest hfuel _
  have hwrite : (Document.text s).write.toList ++ rest = '"' :: (quoted s ++ '"' :: rest) := by
    rw [write, toList_writeText]
    simp
  rw [hwrite]
  cases fuel with
  | zero => simp [write, toList_writeText] at hfuel
  | succ fuel =>
    rw [readValue_quote, readText_quoted]
    rfl

/-- A written list is read back if its items are. -/
theorem reads_list {items : List Document} (hplain : ∀ item ∈ items, Plain item)
    (hreads : ∀ item ∈ items, Reads item) : Reads (.list items) := by
  intro fuel rest hfuel _
  rw [toList_write_list] at hfuel ⊢
  cases fuel with
  | zero => cases hfuel
  | succ fuel =>
    cases items with
    | nil => rfl
    | cons item items =>
      obtain ⟨c, cs, hcs, hgap, hclose⟩ := (hplain item List.mem_cons_self).write_cons
      have hlength : (joined ((item :: items).map write)).length < fuel := by
        rw [List.length_cons, List.length_append, List.length_singleton] at hfuel
        omega
      have hitems := readItems_joined (List.cons_ne_nil item items) hreads [] hlength rest
      have hjoined : ∃ more, joined ((item :: items).map write) ++ ']' :: rest = c :: more := by
        obtain ⟨more, hmore⟩ := exists_joined_cons item.write (items.map write)
        exact ⟨cs ++ (more ++ ']' :: rest), by rw [List.map_cons, hmore, hcs]; simp⟩
      obtain ⟨more, hmore⟩ := hjoined
      have hfirst : skipGaps (c :: more) = c :: more := List.dropWhile_cons_of_neg (by simp [hgap])
      rw [hmore] at hitems
      rw [List.cons_append, List.append_assoc, List.singleton_append, hmore, readValue_bracket, hfirst]
      split
      · next heq => exact (hclose (List.cons.inj heq).1).elim
      · rw [hitems]
        rfl

/-- Written fields are read back if their values are. -/
theorem reads_fields {entries : List (String × Document)} (hreads : ∀ entry ∈ entries, Reads entry.2) :
    Reads (.fields entries) := by
  intro fuel rest hfuel _
  rw [toList_write_fields] at hfuel ⊢
  cases fuel with
  | zero => cases hfuel
  | succ fuel =>
    cases entries with
    | nil => rfl
    | cons entry entries =>
      have hlength : (joined ((entry :: entries).map writeEntry)).length < fuel := by
        rw [List.length_cons, List.length_append, List.length_singleton] at hfuel
        omega
      have hentries := readEntries_joined (List.cons_ne_nil entry entries) hreads [] hlength rest
      have hjoined : ∃ more, joined ((entry :: entries).map writeEntry) ++ '\x7d' :: rest = '"' :: more := by
        obtain ⟨more, hmore⟩ := exists_joined_cons (writeEntry entry) (entries.map writeEntry)
        exact ⟨_, by rw [List.map_cons, hmore, toList_writeEntry]; rfl⟩
      obtain ⟨more, hmore⟩ := hjoined
      have hquote : skipGaps ('"' :: more) = '"' :: more := rfl
      rw [hmore] at hentries
      rw [List.cons_append, List.append_assoc, List.singleton_append, hmore, readValue_brace, hquote]
      change (readEntries fuel [] ('"' :: more)).map _ = _
      rw [hentries]
      rfl

/-- Every part of a document is read from its own characters. -/
theorem Plain.reads (h : Plain d) : Reads d := by
  induction h with
  | null =>
    intro fuel rest hfuel _
    cases fuel with
    | zero => cases hfuel
    | succ fuel => rfl
  | bool value =>
    intro fuel rest hfuel _
    cases fuel with
    | zero => cases value <;> cases hfuel
    | succ fuel => cases value <;> rfl
  | integer z => exact reads_integer z
  | text s => exact reads_text s
  | list h ih => exact reads_list h ih
  | fields _ ih => exact reads_fields ih

/-- A document that is written and read again is the same. -/
theorem read?_write (h : Plain d) : read? d.write = some d := by
  have hfuel : d.write.toList.length ≤ 2 * d.write.length + 2 := by
    rw [String.length_toList]
    omega
  have hread := h.reads (2 * d.write.length + 2) [] hfuel (by simp [Stops])
  rw [List.append_nil] at hread
  rw [read?, hread]
  rfl

end MemoryPlan.Document
