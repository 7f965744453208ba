import Mathlib.Data.List.TakeWhile
import DatasetSearch.Text.Blank
import DatasetSearch.Text.Integer
import DatasetSearch.Text.Pieces

/-!
# Trimmed texts and written words

What trimming leaves of a text, and which texts denote a 32-bit word, said without the functions
that trim and read.  Texts that differ in the case of letters only agree in upper case.
-/

namespace DatasetSearch.Text

/-! ### Trimmed texts -/

/-- A text without the blanks around it: only blanks have gone, and none is left at an end. -/
structure IsTrimmed (raw text : String) : Prop where
  around : ∃ before after : String, raw = before ++ text ++ after ∧
    (∀ c ∈ before.toList, isBlank c = true) ∧ ∀ c ∈ after.toList, isBlank c = true
  first : ∀ c ∈ text.toList.head?, isBlank c = false
  last : ∀ c ∈ text.toList.getLast?, isBlank c = false

/-- Blanks are all that goes at the end. -/
theorem exists_append_trimEnd (s : List Char) :
    ∃ after, s = trimEnd s ++ after ∧ ∀ c ∈ after, isBlank c = true := by
  refine ⟨(s.reverse.takeWhile isBlank).reverse, ?_, ?_⟩
  · rw [trimEnd, ← List.reverse_append, List.takeWhile_append_dropWhile, List.reverse_reverse]
  · intro c hc
    exact List.mem_takeWhile_imp (List.mem_reverse.mp hc)

theorem isBlank_head?_dropWhile {s : List Char} {c : Char}
    (h : (s.dropWhile isBlank).head? = some c) : isBlank c = false := by
  have hhead := List.head?_dropWhile_not isBlank s
  rw [h] at hhead
  simpa using hhead

theorem isTrimmed_trim (raw : String) : IsTrimmed raw (trim raw) := by
  obtain ⟨after, hend, hafter⟩ := exists_append_trimEnd (trimStart raw.toList)
  constructor
  · refine ⟨.ofList (raw.toList.takeWhile isBlank), .ofList after, ?_, ?_, by simpa using hafter⟩
    · apply String.toList_injective
      have hraw : raw.toList = raw.toList.takeWhile isBlank ++ trimStart raw.toList :=
        (List.takeWhile_append_dropWhile).symm
      rw [hend] at hraw
      simpa [trim, trimChars] using hraw
    · intro c hc
      rw [String.toList_ofList] at hc
      exact List.mem_takeWhile_imp hc
  · intro c hc
    have hstart : (trimStart raw.toList).head? = some c := by
      rw [trim, String.toList_ofList, trimChars, Option.mem_def] at hc
      rw [hend, List.head?_append, hc]
      rfl
    exact isBlank_head?_dropWhile hstart
  · intro c hc
    rw [trim, String.toList_ofList, trimChars, trimEnd, List.getLast?_reverse, Option.mem_def] at hc
    exact isBlank_head?_dropWhile hc

theorem isTrimmed_iff {raw text : String} : IsTrimmed raw text ↔ trim raw = text := by
  constructor
  · rintro ⟨⟨before, after, rfl, hbefore, hafter⟩, hfirst, hlast⟩
    rw [trim_append_right hafter, trim_append_left hbefore, trim, trimChars_eq_self hfirst hlast,
      String.ofList_toList]
  · rintro rfl
    exact isTrimmed_trim raw

/-! ### The case of letters -/

theorem toNat_toUpper (c : Char) :
    c.toUpper.toNat = if 97 ≤ c.toNat ∧ c.toNat ≤ 122 then c.toNat - 32 else c.toNat := by
  have hsmall : 'a'.val ≤ c.val ∧ c.val ≤ 'z'.val ↔ 97 ≤ c.toNat ∧ c.toNat ≤ 122 := by
    simp only [UInt32.le_iff_toNat_le]
    rfl
  split
  · next h =>
    have hupper : c.toUpper = _ := dif_pos (hsmall.mpr h)
    rw [hupper]
    -- The difference of the cases is a negative number, which a word holds modulo `2 ^ 32`.
    change (c.val + 4294967264).toNat = c.toNat - 32
    rw [UInt32.toNat_add, Char.toNat_val]
    change (c.toNat + 4294967264) % 4294967296 = c.toNat - 32
    omega
  · next h => exact congrArg Char.toNat (dif_neg (mt hsmall.mp h))

theorem toNat_toLower (c : Char) :
    c.toLower.toNat = if 65 ≤ c.toNat ∧ c.toNat ≤ 90 then c.toNat + 32 else c.toNat := by
  have hcapital : 'A'.val ≤ c.val ∧ c.val ≤ 'Z'.val ↔ 65 ≤ c.toNat ∧ c.toNat ≤ 90 := by
    simp only [UInt32.le_iff_toNat_le]
    rfl
  split
  · next h =>
    have hlower : c.toLower = _ := dif_pos (hcapital.mpr h)
    rw [hlower]
    change (c.val + 32).toNat = c.toNat + 32
    rw [UInt32.toNat_add, Char.toNat_val]
    change (c.toNat + 32) % 4294967296 = c.toNat + 32
    omega
  · next h => exact congrArg Char.toNat (dif_neg (mt hcapital.mp h))

theorem toUpper_eq_toUpper_iff {c d : Char} : c.toUpper = d.toUpper ↔ c.toLower = d.toLower := by
  rw [← Char.toNat_inj, ← Char.toNat_inj, toNat_toUpper, toNat_toUpper, toNat_toLower,
    toNat_toLower]
  split <;> split <;> split <;> split <;> omega

theorem map_toUpper_eq_iff {s t : List Char} :
    s.map Char.toUpper = t.map Char.toUpper ↔ s.map Char.toLower = t.map Char.toLower := by
  induction s generalizing t with
  | nil =>
    cases t with
    | nil => exact iff_of_true rfl rfl
    | cons d t => exact iff_of_false (by simp) (by simp)
  | cons c s ih =>
    cases t with
    | nil => exact iff_of_false (by simp) (by simp)
    | cons d t => simp only [List.map_cons, List.cons.injEq, toUpper_eq_toUpper_iff, ih]

theorem upper_eq_upper_iff {s t : String} :
    upper s = upper t ↔ sameIgnoringCase s t = true := by
  rw [upper, upper, String.ofList_inj, map_toUpper_eq_iff, sameIgnoringCase, beq_iff_eq]

/-! ### Written words -/

/-- A run of decimal digits with its value. -/
structure IsNumeral (digits : List Char) (n : Nat) : Prop where
  ne_nil : digits ≠ []
  digit : ∀ c ∈ digits, '0' ≤ c ∧ c ≤ '9'
  value : Nat.ofDigitChars 10 digits 0 = n

/-- A 32-bit word as it may be written: decimal digits, with or without a plus sign in front. -/
def IsWritten (text : String) (n : UInt32) : Prop :=
  ∃ digits, IsNumeral digits n.toNat ∧ (text.toList = digits ∨ text.toList = '+' :: digits)

theorem isDigit_iff {c : Char} : c.isDigit = true ↔ '0' ≤ c ∧ c ≤ '9' := by
  simp [Char.isDigit, Char.le_def]

theorem digitsValue?_eq_some_iff {digits : List Char} {n : Nat} :
    digitsValue? digits = some n ↔ IsNumeral digits n := by
  have hvalue : digits.foldl (fun n c => n * 10 + (c.toNat - 48)) 0 =
      Nat.ofDigitChars 10 digits 0 := by
    simp [Nat.ofDigitChars, Nat.mul_comm]
  unfold digitsValue?
  split
  · constructor
    · intro h
      cases h
    · intro h
      exact absurd rfl h.ne_nil
  · next hne =>
    rw [hvalue]
    by_cases hall : digits.all Char.isDigit = true
    · rw [if_pos hall, Option.some_inj]
      constructor
      · exact fun h => ⟨hne, fun c hc => isDigit_iff.mp (List.all_eq_true.mp hall c hc), h⟩
      · exact fun h => h.value
    · rw [if_neg hall]
      constructor
      · intro h
        cases h
      · intro h
        exact absurd (List.all_eq_true.mpr fun c hc => isDigit_iff.mpr (h.digit c hc)) hall

/-- A plus sign is no digit, so it stands in front of the digits or there is none. -/
theorem natUpTo?_eq_some_iff {limit n : Nat} {s : String} :
    natUpTo? limit s = some n ↔
      n ≤ limit ∧
        ∃ digits, IsNumeral digits n ∧ (s.toList = digits ∨ s.toList = '+' :: digits) := by
  have hplus : ∀ {digits : List Char}, IsNumeral ('+' :: digits) n → False := by
    intro digits h
    exact absurd (h.digit '+' List.mem_cons_self).1 (by decide)
  unfold natUpTo?
  rw [Option.filter_eq_some_iff, digitsValue?_eq_some_iff, decide_eq_true_eq, and_comm]
  apply and_congr_right
  intro _
  split
  · next rest hs =>
    rw [hs]
    constructor
    · exact fun h => ⟨rest, h, .inr rfl⟩
    · rintro ⟨digits, h, rfl | heq⟩
      · exact (hplus h).elim
      · cases heq
        exact h
  · next hs =>
    constructor
    · exact fun h => ⟨_, h, .inl rfl⟩
    · rintro ⟨digits, h, rfl | heq⟩
      · exact h
      · exact absurd heq (hs digits)

theorem word32?_eq_some_iff {text : String} {n : UInt32} :
    word32? text = some n ↔ IsWritten text n := by
  unfold word32?
  rw [Option.map_eq_some_iff]
  constructor
  · rintro ⟨value, hvalue, rfl⟩
    obtain ⟨hbound, digits, hnumeral, htext⟩ := natUpTo?_eq_some_iff.mp hvalue
    have hsmall : value < UInt32.size := by
      have hpositive : 0 < UInt32.size := by decide
      omega
    refine ⟨digits, ?_, htext⟩
    rwa [UInt32.toNat_ofNat_of_lt' hsmall]
  · rintro ⟨digits, hnumeral, htext⟩
    have hbound : n.toNat ≤ UInt32.size - 1 := Nat.le_sub_one_of_lt n.toNat_lt
    exact ⟨n.toNat, natUpTo?_eq_some_iff.mpr ⟨hbound, digits, hnumeral, htext⟩,
      UInt32.ofNat_toNat⟩

end DatasetSearch.Text
