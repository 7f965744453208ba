import DatasetSearch.Json.Reader
import DatasetSearch.Proofs.Sql.Numeral

/-!
# Reading letters and digits

A text of letters and digits is a constant of JSON, or the numeral of a natural number, or has no
value at all.  An integer is written as it was read.  A number is read as a double if it is too
large for a 64-bit word or if it has a power of ten, and the text of a double is never a text of
letters and digits.
-/

namespace DatasetSearch.Json

open Sql (AreDigits)

/-! ### Digits -/

theorem digitChar_digitValue {c : Char} (h : c.isDigit = true) :
    digitValue c < 10 ∧ Nat.digitChar (digitValue c) = c := by
  have hrange : 48 ≤ c.toNat ∧ c.toNat ≤ 57 := by
    simpa [Char.isDigit, UInt32.le_iff_toNat_le] using h
  have hlt : digitValue c < 10 := by
    unfold digitValue
    omega
  refine ⟨hlt, Char.toNat_inj.mp ?_⟩
  rw [Nat.toNat_digitChar_of_lt_ten hlt, digitValue]
  omega

/-- A digit appended to a number. -/
def shifted (n : Nat) (c : Char) : Nat := n * 10 + digitValue c

theorem toDigits_foldl {digits : List Char} (h : ∀ c ∈ digits, c.isDigit = true) {n : Nat}
    (hn : 0 < n) :
    Nat.toDigits 10 (digits.foldl shifted n) = Nat.toDigits 10 n ++ digits := by
  induction digits generalizing n with
  | nil => simp
  | cons c digits ih =>
    obtain ⟨hlt, hchar⟩ := digitChar_digitValue (h c List.mem_cons_self)
    have hnext : 0 < shifted n c := by
      unfold shifted
      omega
    have hone : Nat.toDigits 10 (shifted n c) = Nat.toDigits 10 n ++ [c] := by
      have happend := Nat.toDigits_append_toDigits (b := 10) (n := n) (d := digitValue c)
        (by decide) hn hlt
      rw [Nat.toDigits_of_lt_base hlt, hchar] at happend
      rw [happend, shifted, Nat.mul_comm]
    rw [List.foldl_cons, ih (fun d hd => h d (List.mem_cons_of_mem c hd)) hnext, hone,
      List.append_assoc]
    rfl

/-- The digits of a natural number as they are written: without a zero in front. -/
structure IsDecimal (digits : List Char) : Prop where
  areDigits : AreDigits digits
  head : digits.head? = some '0' → digits = ['0']

theorem IsDecimal.toDigits_natOf {digits : List Char} (h : IsDecimal digits) :
    Nat.toDigits 10 (natOf digits) = digits := by
  obtain ⟨⟨hne, hall⟩, hhead⟩ := h
  cases digits with
  | nil => exact absurd rfl hne
  | cons c digits =>
    by_cases hzero : c = '0'
    · rw [hhead (congrArg some hzero)]
      rfl
    · obtain ⟨hlt, hchar⟩ := digitChar_digitValue (hall c List.mem_cons_self)
      have hpositive : 0 < digitValue c := by
        rw [Nat.pos_iff_ne_zero]
        intro hvalue
        rw [hvalue] at hchar
        exact hzero hchar.symm
      have hnat : natOf (c :: digits) = digits.foldl shifted (digitValue c) := by
        change digits.foldl shifted (0 * 10 + digitValue c) = _
        rw [Nat.zero_mul, Nat.zero_add]
      rw [hnat, toDigits_foldl (fun d hd => hall d (List.mem_cons_of_mem c hd)) hpositive,
        Nat.toDigits_of_lt_base hlt, hchar]
      rfl

theorem le_foldl_shifted (digits : List Char) (n : Nat) : n ≤ digits.foldl shifted n := by
  induction digits generalizing n with
  | nil => exact Nat.le_refl n
  | cons c digits ih =>
    refine Nat.le_trans ?_ (ih (shifted n c))
    unfold shifted
    omega

/-- Digits are all appended unless their number is too large for a word. -/
theorem appendDigits_cases {significand : Nat} (h : significand ≤ greatestWord)
    (digits : List Char) :
    (appendDigits significand digits = (digits.foldl shifted significand, 0) ∧
        digits.foldl shifted significand ≤ greatestWord) ∨
      ((appendDigits significand digits).2 ≠ 0 ∧
        greatestWord < digits.foldl shifted significand) := by
  induction digits generalizing significand with
  | nil => exact .inl ⟨rfl, h⟩
  | cons c digits ih =>
    have hstep : appendDigits significand (c :: digits) =
        if shifted significand c ≤ greatestWord then appendDigits (shifted significand c) digits
        else (significand, digits.length + 1) := rfl
    rw [List.foldl_cons, hstep]
    split
    · next hnext => exact ih hnext
    · next hnext =>
      have hlarge := Nat.lt_of_lt_of_le (Nat.lt_of_not_le hnext) (le_foldl_shifted digits _)
      exact .inr ⟨Nat.succ_ne_zero _, hlarge⟩

/-! ### Numbers -/

/-- There is no number, or it is a double. -/
def IsRounded (result : Option Number) : Prop := result = none ∨ ∃ x, result = some (.float x)

theorem IsRounded.bind {α : Type} (o : Option α) {f : α → Option Number}
    (h : ∀ a, IsRounded (f a)) : IsRounded (o.bind f) := by
  cases o with
  | none => exact .inl rfl
  | some a => exact h a

theorem IsRounded.ite {p : Prop} [Decidable p] {left right : Option Number} (hleft : IsRounded left)
    (hright : IsRounded right) : IsRounded (if p then left else right) := by
  split
  · exact hleft
  · exact hright

theorem IsRounded.map (o : Option Binary64) : IsRounded (o.bind fun x => some (.float x)) :=
  .bind o fun x => .inr ⟨x, rfl⟩

/-- A number with an exponent, or too large for a word, is rounded. -/
theorem isRounded_value {digits : List Char} {exponent : Option (Bool × List Char)}
    (h : exponent.isNone = true → (appendDigits 0 digits).2 ≠ 0) :
    IsRounded (NumberToken.value ⟨false, digits, none, exponent⟩) := by
  unfold NumberToken.value
  generalize appendDigits 0 digits = reached at h ⊢
  obtain ⟨significand, skipped⟩ := reached
  have hwhole : (exponent.isNone && decide (skipped = 0)) = false := by
    cases hnone : exponent.isNone with
    | false => rfl
    | true => simpa using h hnone
  dsimp only
  simp only [Option.isNone_none, Bool.true_and, hwhole, Bool.false_eq_true, false_and, if_false]
  refine .bind _ fun start => ?_
  cases exponent with
  | none => exact .ite (.map _) (.ite (.map none) (.map (some _)))
  | some scale => exact .ite (.map _) (.ite (.map none) (.map (some _)))

/-- Digits alone are an integer if it fits a word. -/
theorem value_digits (digits : List Char) :
    NumberToken.value ⟨false, digits, none, none⟩ = some (.int (natOf digits)) ∨
      greatestWord < natOf digits ∧ IsRounded (NumberToken.value ⟨false, digits, none, none⟩) := by
  rcases appendDigits_cases (Nat.zero_le greatestWord) digits with ⟨happend, -⟩ |
    ⟨hskipped, hlarge⟩
  · left
    unfold NumberToken.value
    rw [happend]
    rfl
  · exact .inr ⟨hlarge, isRounded_value fun _ => hskipped⟩

/-- A numeral that is not read as an integer: it is too large for a word, or has a power of ten. -/
inductive IsInexact : List Char → Prop
  | large {digits : List Char} (hdigits : IsDecimal digits) (hlarge : greatestWord < natOf digits) :
      IsInexact digits
  | scaled {digits power : List Char} {mark : Char} (hdigits : IsDecimal digits)
      (hmark : mark = 'e' ∨ mark = 'E') (hpower : AreDigits power) :
      IsInexact (digits ++ mark :: power)

/-! ### Letters and digits -/

/-- A text of ASCII letters and digits. -/
def IsAlphanumeric (s : List Char) : Prop := s ≠ [] ∧ ∀ c ∈ s, c.isAlphanum = true

instance (s : List Char) : Decidable (IsAlphanumeric s) :=
  decidable_of_iff (s ≠ [] ∧ s.all Char.isAlphanum = true) (and_congr_right' List.all_eq_true)

theorem ne_of_isAlphanum {c d : Char} (h : c.isAlphanum = true) (hd : d.isAlphanum = false) :
    c ≠ d := by
  rintro rfl
  rw [h] at hd
  cases hd

theorem skipBlank_of_isAlphanum {s : List Char} (h : ∀ c ∈ s, c.isAlphanum = true) :
    skipBlank s = s := by
  cases s with
  | nil => rfl
  | cons c s =>
    have hc := h c List.mem_cons_self
    have hblank := ne_of_isAlphanum hc (d := ' ') (by decide)
    have hline := ne_of_isAlphanum hc (d := '\n') (by decide)
    have htab := ne_of_isAlphanum hc (d := '\t') (by decide)
    have hreturn := ne_of_isAlphanum hc (d := '\r') (by decide)
    rw [skipBlank, List.dropWhile_cons_of_neg]
    simp [hblank, hline, htab, hreturn]

/-- The digits at the start of a text, and what follows them. -/
theorem digits1_cases (s : List Char) :
    digits1 s = none ∨ ∃ digits rest, AreDigits digits ∧ s = digits ++ rest ∧
      digits1 s = some (digits, rest) := by
  have hall : ∀ c ∈ s.takeWhile Char.isDigit, c.isDigit = true :=
    List.all_eq_true.mp List.all_takeWhile
  have hparts : s = s.takeWhile Char.isDigit ++ s.dropWhile Char.isDigit :=
    List.takeWhile_append_dropWhile.symm
  unfold digits1 digitRun
  cases hdigits : s.takeWhile Char.isDigit with
  | nil => exact .inl rfl
  | cons c digits =>
    rw [hdigits] at hall hparts
    exact .inr ⟨c :: digits, _, ⟨List.cons_ne_nil _ _, hall⟩, hparts, rfl⟩

theorem fractionPart_of_isAlphanum {s : List Char} (h : ∀ c ∈ s, c.isAlphanum = true) :
    fractionPart s = some (none, s) := by
  unfold fractionPart
  split
  · exact absurd (h '.' List.mem_cons_self) (by decide)
  · rfl

/-- An exponent of letters and digits has no sign. -/
theorem exponentPart_of_mark {mark : Char} {rest : List Char} (hmark : mark = 'e' ∨ mark = 'E')
    (h : ∀ c ∈ rest, c.isAlphanum = true) :
    exponentPart (mark :: rest) =
      (digits1 rest).map (fun (run, rest) => (some (true, run), rest)) := by
  cases rest with
  | nil => rcases hmark with rfl | rfl <;> rfl
  | cons c rest =>
    have hc := h c List.mem_cons_self
    have hplus := ne_of_isAlphanum hc (d := '+') (by decide)
    have hminus := ne_of_isAlphanum hc (d := '-') (by decide)
    unfold exponentPart
    rcases hmark with rfl | rfl
    · simp [hplus, hminus]
    · simp [hplus, hminus]

theorem exponentPart_of_not_mark {s : List Char}
    (h : ∀ c ∈ s.head?, ¬(c = 'e' ∨ c = 'E')) : exponentPart s = some (none, s) := by
  unfold exponentPart
  dsimp only
  split
  · exact absurd (.inl rfl) (h 'e' rfl)
  · exact absurd (.inr rfl) (h 'E' rfl)
  · rfl

theorem exponentPart_cases {s : List Char} (h : ∀ c ∈ s, c.isAlphanum = true) :
    exponentPart s = none ∨ exponentPart s = some (none, s) ∨
      ∃ mark power rest, (mark = 'e' ∨ mark = 'E') ∧ AreDigits power ∧
        s = mark :: (power ++ rest) ∧ exponentPart s = some (some (true, power), rest) := by
  cases s with
  | nil => exact .inr (.inl rfl)
  | cons c rest =>
    by_cases hmark : c = 'e' ∨ c = 'E'
    · rw [exponentPart_of_mark hmark fun d hd => h d (List.mem_cons_of_mem c hd)]
      rcases digits1_cases rest with hnone | ⟨power, tail, hpower, rfl, hrun⟩
      · rw [hnone]
        exact .inl rfl
      · rw [hrun]
        exact .inr (.inr ⟨c, power, tail, hmark, hpower, rfl, rfl⟩)
    · refine .inr (.inl (exponentPart_of_not_mark ?_))
      rintro d hd
      cases hd
      exact hmark

/-- A number of letters and digits has no sign. -/
theorem numberToken_of_isAlphanum {s : List Char} (h : ∀ c ∈ s, c.isAlphanum = true) :
    numberToken s = (digits1 s).bind fun integer =>
      if integer.1.head? = some '0' ∧ integer.1.length ≠ 1 then none
      else
        (fractionPart integer.2).bind fun fraction =>
          (exponentPart fraction.2).bind fun exponent =>
            some (⟨false, integer.1, fraction.1, exponent.1⟩, exponent.2) := by
  unfold numberToken
  split
  next negative rest hsign =>
    split at hsign
    · exact absurd (h '-' List.mem_cons_self) (by decide)
    · cases hsign
      rfl

/-- A number at the start of letters and digits: digits, and perhaps a power of ten. -/
theorem numberToken_cases {s : List Char} (h : ∀ c ∈ s, c.isAlphanum = true) :
    numberToken s = none ∨ ∃ digits, IsDecimal digits ∧
      ((∃ rest, s = digits ++ rest ∧ numberToken s = some (⟨false, digits, none, none⟩, rest)) ∨
        ∃ mark power rest, (mark = 'e' ∨ mark = 'E') ∧ AreDigits power ∧
          s = digits ++ mark :: (power ++ rest) ∧
          numberToken s = some (⟨false, digits, none, some (true, power)⟩, rest)) := by
  rw [numberToken_of_isAlphanum h]
  rcases digits1_cases s with hnone | ⟨digits, rest, hdigits, rfl, hrun⟩
  · rw [hnone]
    exact .inl rfl
  · have hrest : ∀ c ∈ rest, c.isAlphanum = true :=
      fun c hc => h c (List.mem_append_right digits hc)
    rw [hrun, Option.bind_some]
    dsimp only
    by_cases hzero : digits.head? = some '0' ∧ digits.length ≠ 1
    · rw [if_pos hzero]
      exact .inl rfl
    · have hdecimal : IsDecimal digits := by
        refine ⟨hdigits, fun hhead => ?_⟩
        have hlength : digits.length = 1 :=
          Decidable.byContradiction fun hlong => hzero ⟨hhead, hlong⟩
        obtain ⟨c, rfl⟩ := List.length_eq_one_iff.mp hlength
        cases hhead
        rfl
      rw [if_neg hzero, fractionPart_of_isAlphanum hrest, Option.bind_some]
      dsimp only
      rcases exponentPart_cases hrest with hnone | hempty |
        ⟨mark, power, tail, hmark, hpower, rfl, hpart⟩
      · rw [hnone]
        exact .inl rfl
      · rw [hempty]
        exact .inr ⟨digits, hdecimal, .inl ⟨rest, rfl, rfl⟩⟩
      · rw [hpart]
        exact .inr ⟨digits, hdecimal, .inr ⟨mark, power, tail, hmark, hpower, rfl, rfl⟩⟩

/-- Nothing follows a value at the end of letters and digits. -/
theorem eq_nil_of_isSuffix {s rest : List Char} (h : ∀ c ∈ s, c.isAlphanum = true)
    (hsuffix : rest <:+ s) (hend : (skipBlank rest).isEmpty = true) : rest = [] := by
  rw [skipBlank_of_isAlphanum fun c hc => h c (hsuffix.subset hc)] at hend
  exact List.isEmpty_iff.mp hend

/-- A number that is all of a text of letters and digits. -/
theorem numberValue_cases {s rest : List Char} {n : Number} (h : ∀ c ∈ s, c.isAlphanum = true)
    (hvalue : numberValue s = some (n, rest)) (hend : (skipBlank rest).isEmpty = true) :
    IsDecimal s ∧ n = .int (natOf s) ∨ IsInexact s ∧ ∃ x, n = .float x := by
  obtain ⟨⟨token, rest'⟩, htoken, hvalue⟩ := Option.bind_eq_some_iff.mp hvalue
  obtain ⟨number, hnumber, hvalue⟩ := Option.bind_eq_some_iff.mp hvalue
  cases hvalue
  have hrounded {value : Option Number} (hround : IsRounded value) (hsome : value = some n) :
      ∃ x, n = .float x := by
    rcases hround with rfl | ⟨x, rfl⟩
    · cases hsome
    · cases hsome
      exact ⟨x, rfl⟩
  rcases numberToken_cases h with hnone | ⟨digits, hdecimal, ⟨rest, rfl, hread⟩ |
    ⟨mark, power, rest, hmark, hpower, rfl, hread⟩⟩
  · cases htoken.symm.trans hnone
  · cases htoken.symm.trans hread
    rw [eq_nil_of_isSuffix h (List.suffix_append digits rest) hend, List.append_nil]
    rcases value_digits digits with hint | ⟨hlarge, hround⟩
    · cases hnumber.symm.trans hint
      exact .inl ⟨hdecimal, rfl⟩
    · exact .inr ⟨.large hdecimal hlarge, hrounded hround hnumber⟩
  · cases htoken.symm.trans hread
    have hsuffix : rest <:+ digits ++ mark :: (power ++ rest) :=
      ((List.suffix_append power rest).trans (List.suffix_cons mark _)).trans
        (List.suffix_append digits _)
    rw [eq_nil_of_isSuffix h hsuffix hend, List.append_nil]
    have hround : IsRounded (NumberToken.value ⟨false, digits, none, some (true, power)⟩) :=
      isRounded_value nofun
    exact .inr ⟨.scaled hdecimal hmark hpower, hrounded hround hnumber⟩

/-- What a text of letters and digits denotes. -/
inductive Denotes (text : String) : Option Json → Prop
  | nothing : Denotes text none
  | null (h : text = "null") : Denotes text (some .null)
  | bool (b : Bool) (h : text = toString b) : Denotes text (some (.bool b))
  | int (hdecimal : IsDecimal text.toList) :
      Denotes text (some (.number (.int (natOf text.toList))))
  | float (hinexact : IsInexact text.toList) (x : Binary64) :
      Denotes text (some (.number (.float x)))

/-- What follows a piece of a text that is read to its end. -/
theorem eq_of_expect {piece : String} {s rest : List Char} (h : expect piece s = some rest) :
    s = piece.toList ++ rest := by
  unfold expect at h
  dsimp only at h
  split at h
  · next hprefix =>
    cases h
    obtain ⟨tail, rfl⟩ := List.isPrefixOf_iff_prefix.mp hprefix
    rw [List.drop_left]
  · cases h

/-- A constant of JSON is all of a text of letters and digits that begins with it. -/
theorem eq_of_map_expect {α : Type} {c : Char} {piece : String} {s rest : List Char} {a b : α}
    (h : ∀ d ∈ c :: s, d.isAlphanum = true)
    (hread : (expect piece s).map (a, ·) = some (b, rest))
    (hend : (skipBlank rest).isEmpty = true) : b = a ∧ c :: s = c :: piece.toList := by
  obtain ⟨tail, htail, hfound⟩ := Option.map_eq_some_iff.mp hread
  cases hfound
  obtain rfl := eq_of_expect htail
  have hsuffix : rest <:+ c :: (piece.toList ++ rest) :=
    (List.suffix_append piece.toList rest).trans (List.suffix_cons c _)
  rw [eq_nil_of_isSuffix h hsuffix hend, List.append_nil]
  exact ⟨rfl, rfl⟩

theorem denotes_parse? {text : String} (h : IsAlphanumeric text.toList) :
    Denotes text (parse? text) := by
  obtain ⟨hne, hall⟩ := h
  have hword {piece : String} (hpiece : text.toList = piece.toList) : text = piece :=
    String.toList_injective hpiece
  cases hparse : parse? text with
  | none => exact .nothing
  | some json =>
    unfold parse? value callBound at hparse
    obtain ⟨⟨found, rest⟩, hvalue, hparse⟩ := Option.bind_eq_some_iff.mp hparse
    dsimp only at hparse
    by_cases hend : (skipBlank rest).isEmpty = true
    · rw [if_pos hend] at hparse
      cases hparse
      rw [valueWithin, skipBlank_of_isAlphanum hall] at hvalue
      split at hvalue
      · next s hs =>
        rw [hs] at hall
        obtain ⟨rfl, hs'⟩ := eq_of_map_expect hall hvalue hend
        exact .null (hword (hs.trans hs'))
      · next s hs =>
        rw [hs] at hall
        obtain ⟨rfl, hs'⟩ := eq_of_map_expect hall hvalue hend
        exact .bool true (hword (hs.trans hs'))
      · next s hs =>
        rw [hs] at hall
        obtain ⟨rfl, hs'⟩ := eq_of_map_expect hall hvalue hend
        exact .bool false (hword (hs.trans hs'))
      · next s hs => exact absurd (hall '"' (hs ▸ List.mem_cons_self)) (by decide)
      · next s hs => exact absurd (hall '[' (hs ▸ List.mem_cons_self)) (by decide)
      · next s hs => exact absurd (hall '\x7b' (hs ▸ List.mem_cons_self)) (by decide)
      · obtain ⟨⟨n, tail⟩, hnumber, hfound⟩ := Option.map_eq_some_iff.mp hvalue
        cases hfound
        rcases numberValue_cases hall hnumber hend with ⟨hdecimal, rfl⟩ | ⟨hinexact, x, rfl⟩
        · exact .int hdecimal
        · exact .float hinexact x
    · rw [if_neg hend] at hparse
      cases hparse

theorem parse?_null : parse? "null" = some .null := rfl

theorem isInexact_of_parse? {text : String} (h : IsAlphanumeric text.toList) {x : Binary64}
    (hfloat : parse? text = some (.number (.float x))) : IsInexact text.toList := by
  have hdenotes := denotes_parse? h
  rw [hfloat] at hdenotes
  cases hdenotes with
  | float hinexact => exact hinexact

/-! ### The text that is read -/

/-- An integer is written as it was read. -/
theorem IsDecimal.text_natOf {text : String} (h : IsDecimal text.toList) :
    (Number.int (natOf text.toList)).text = text := by
  apply String.toList_injective
  calc (Number.int (natOf text.toList)).text.toList
      = (Nat.repr (natOf text.toList)).toList := rfl
    _ = Nat.toDigits 10 (natOf text.toList) := Nat.toList_repr
    _ = text.toList := h.toDigits_natOf

/-- The text of a double has a point or the sign of a power of ten. -/
theorem exists_mem_floatText (x : Binary64) : ∃ c ∈ Number.floatText x, c.isAlphanum = false := by
  have hbody {body : List Char} (h : ∃ c ∈ body, c.isAlphanum = false) :
      ∃ c ∈ (if x.negative then '-' :: body else body), c.isAlphanum = false := by
    obtain ⟨c, hc, hmark⟩ := h
    split
    · exact ⟨c, List.mem_cons_of_mem _ hc, hmark⟩
    · exact ⟨c, hc, hmark⟩
  unfold Number.floatText
  apply hbody
  generalize Decimal.shortest x = d
  split
  · exact ⟨'.', by simp, rfl⟩
  · split
    · split
      · exact ⟨'.', by simp, rfl⟩
      · next hexponent =>
        refine ⟨'.', ?_, rfl⟩
        unfold Decimal.positional
        rw [if_neg hexponent]
        dsimp only
        split <;> simp
    · have hsign : ∃ sign : Char, sign = (if 0 ≤ d.leading then '+' else '-') ∧
          sign.isAlphanum = false := by
        split
        · exact ⟨'+', rfl, rfl⟩
        · exact ⟨'-', rfl, rfl⟩
      obtain ⟨sign, heq, hmark⟩ := hsign
      refine ⟨sign, ?_, hmark⟩
      unfold Decimal.scientific
      rw [← heq]
      cases hdigits : d.digitText with
      | nil => exact absurd hdigits (Sql.areDigits_digitText d).1
      | cons digit others =>
        cases others with
        | nil => simp
        | cons other more => simp

theorem text_float_ne {text : String} (h : IsAlphanumeric text.toList) (x : Binary64) :
    (Number.float x).text ≠ text := by
  rintro rfl
  obtain ⟨c, hc, hmark⟩ := exists_mem_floatText x
  rw [Number.text, String.toList_ofList] at h
  rw [h.2 c hc] at hmark
  cases hmark

end DatasetSearch.Json
