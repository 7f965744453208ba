import DatasetSearch.Proofs.Sql.Lexing

/-!
# Numerals

The text of every number that a statement can hold is one number token: the digits of a natural
number, an integer with its sign, and a double in positional or scientific form.
-/

namespace DatasetSearch.Sql

/-! ### Reading a numeral -/

/-- The part of a number that some characters lead to. -/
def NumberPart.run : NumberPart → List Char → Option NumberPart
  | part, [] => some part
  | part, c :: rest => (part.next? c).bind (·.run rest)

def IsNumeral (s : List Char) : Prop :=
  ∃ part, NumberPart.start.run s = some part ∧ part.isComplete = true

def IsUnsigned (s : List Char) : Prop :=
  ∃ part, NumberPart.sign.run s = some part ∧ part.isComplete = true

def AreDigits (s : List Char) : Prop := s ≠ [] ∧ ∀ c ∈ s, c.isDigit = true

theorem NumberPart.run_cons {part later : NumberPart} {c : Char} (h : part.next? c = some later)
    (s : List Char) : part.run (c :: s) = later.run s := by
  simp [NumberPart.run, h]

theorem NumberPart.run_append (part : NumberPart) (s t : List Char) :
    part.run (s ++ t) = (part.run s).bind (·.run t) := by
  induction s generalizing part with
  | nil => rfl
  | cons c s ih =>
    simp only [List.cons_append, NumberPart.run]
    cases part.next? c with
    | none => rfl
    | some later => simp [ih]

theorem NumberPart.run_digits {part later : NumberPart} {s : List Char}
    (hfirst : ∀ c, c.isDigit = true → part.next? c = some later)
    (hlater : ∀ c, c.isDigit = true → later.next? c = some later) (hs : AreDigits s) :
    part.run s = some later := by
  have hstay : ∀ t : List Char, (∀ c ∈ t, c.isDigit = true) → later.run t = some later := by
    intro t ht
    induction t with
    | nil => rfl
    | cons c t ih =>
      rw [run_cons (hlater c (ht c (by simp)))]
      exact ih (fun d hd => ht d (by simp [hd]))
  cases s with
  | nil => exact absurd rfl hs.1
  | cons c s =>
    rw [run_cons (hfirst c (hs.2 c (by simp)))]
    exact hstay s (fun d hd => hs.2 d (by simp [hd]))

theorem begin_of_isDigit {c : Char} (h : c.isDigit = true) :
    Mode.begin c = .number .whole [c] := by
  have hrange : 48 ≤ c.toNat ∧ c.toNat ≤ 57 := by
    simpa [Char.isDigit, UInt32.le_iff_toNat_le] using h
  have hne : ∀ d : Char, ¬(48 ≤ d.toNat ∧ d.toNat ≤ 57) → c ≠ d := by
    rintro d hd rfl
    exact hd hrange
  have hblank : c.isWhitespace = false := by
    simp [Char.isWhitespace, hne ' ' (by decide), hne '\t' (by decide), hne '\r' (by decide),
      hne '\n' (by decide)]
  have hquote : ¬(c = '"' ∨ c = '\'') := by
    simp [hne '"' (by decide), hne '\'' (by decide)]
  have halpha : c.isAlpha = false := by
    cases hc : c.isAlpha with
    | false => rfl
    | true =>
      have hletter : 65 ≤ c.toNat := by
        have hcases : c.isUpper = true ∨ c.isLower = true := Bool.or_eq_true_iff.mp hc
        rcases hcases with hupper | hlower
        · exact UInt32.le_iff_toNat_le.mp (of_decide_eq_true hupper).1
        · have hlow : 'a'.val ≤ c.val := of_decide_eq_true (Bool.and_eq_true_iff.mp hlower).1
          exact Nat.le_trans (show 65 ≤ 97 by decide) (UInt32.le_iff_toNat_le.mp hlow)
      omega
  have hword : isWordStart c = false := by
    simp [isWordStart, halpha, hne '_' (by decide)]
  simp [Mode.begin, hblank, hquote, hword, NumberPart.next?, h]

theorem begin_of_next? {c : Char} {part : NumberPart} (h : NumberPart.start.next? c = some part) :
    Mode.begin c = .number part [c] := by
  by_cases hdigit : c.isDigit = true
  · have hpart : part = .whole := by simpa [NumberPart.next?, hdigit] using h.symm
    rw [hpart, begin_of_isDigit hdigit]
  · by_cases hsign : c = '+' ∨ c = '-'
    · have hpart : part = .sign := by simpa [NumberPart.next?, hdigit, hsign] using h.symm
      rcases hsign with rfl | rfl <;> rw [hpart] <;> rfl
    · simp [NumberPart.next?, hdigit, hsign] at h

theorem scan_number {part last : NumberPart} {s : List Char} (h : part.run s = some last)
    (read rest : List Char) :
    scan (.number part read) (s ++ rest) = scan (.number last (s.reverse ++ read)) rest := by
  induction s generalizing part read with
  | nil =>
    cases h
    rfl
  | cons c s ih =>
    obtain ⟨later, hlater, hrun⟩ := Option.bind_eq_some_iff.mp h
    have hstep : (Mode.number part read).extend? c = some (.number later (c :: read)) := by
      simp [Mode.extend?, hlater]
    rw [List.cons_append, scan_of_extend hstep, ih hrun]
    simp

/-- A numeral between breaks is one token. -/
theorem lexes_number {text : String} (h : IsNumeral text.toList) :
    Lexes breaks text [.number text] := by
  intro rest hrest
  obtain ⟨last, hrun, hcomplete⟩ := h
  cases htext : text.toList with
  | nil =>
    rw [htext] at hrun
    cases hrun
    exact absurd hcomplete (by decide)
  | cons c s =>
    rw [htext] at hrun
    obtain ⟨part, hpart, hmore⟩ := Option.bind_eq_some_iff.mp hrun
    have hend : ∀ d ∈ rest.head?, (Mode.number last (s.reverse ++ [c])).extend? d = none :=
      extend?_of_breaks (by simp) (by simp) rest hrest
    have hback : String.ofList (c :: s) = text := by rw [← htext, String.ofList_toList]
    rw [List.cons_append, scan_between_cons, begin_of_next? hpart, scan_number hmore,
      scan_of_end hend]
    simp [Mode.tokens, hcomplete, hback]

/-! ### Natural numbers and integers -/

theorem IsUnsigned.isNumeral {s : List Char} (h : IsUnsigned s) : IsNumeral s := by
  obtain ⟨last, hrun, hcomplete⟩ := h
  cases s with
  | nil =>
    cases hrun
    exact absurd hcomplete (by decide)
  | cons c s =>
    refine ⟨last, ?_, hcomplete⟩
    by_cases hc : c.isDigit = true
    · have hsign : NumberPart.sign.next? c = some .whole := by simp [NumberPart.next?, hc]
      have hstart : NumberPart.start.next? c = some .whole := by simp [NumberPart.next?, hc]
      rw [NumberPart.run_cons hsign] at hrun
      rw [NumberPart.run_cons hstart]
      exact hrun
    · simp [NumberPart.run, NumberPart.next?, hc] at hrun

theorem IsUnsigned.neg {s : List Char} (h : IsUnsigned s) : IsNumeral ('-' :: s) := h

theorem AreDigits.isUnsigned {s : List Char} (h : AreDigits s) : IsUnsigned s :=
  ⟨.whole, NumberPart.run_digits (fun c hc => by simp [NumberPart.next?, hc])
    (fun c hc => by simp [NumberPart.next?, hc]) h, rfl⟩

theorem areDigits_repr (n : Nat) : AreDigits n.repr.toList := by
  rw [Nat.toList_repr]
  exact ⟨Nat.toDigits_ne_nil, fun c hc => Nat.isDigit_of_mem_toDigits (by decide) (by decide) hc⟩

theorem isNumeral_nat (n : Nat) : IsNumeral (toString n).toList :=
  (areDigits_repr n).isUnsigned.isNumeral

theorem isNumeral_int (n : Int) : IsNumeral (toString n).toList := by
  rw [Int.toString_eq_repr]
  cases n with
  | ofNat n => exact isNumeral_nat n
  | negSucc n =>
    have hrepr : (Int.negSucc n).repr.toList = '-' :: (n + 1).repr.toList := by
      simp [Int.repr]
    rw [hrepr]
    exact (areDigits_repr (n + 1)).isUnsigned.neg

/-! ### Doubles -/

theorem run_positional {whole fraction : List Char} (hwhole : AreDigits whole)
    (hfraction : AreDigits fraction) :
    NumberPart.sign.run (whole ++ '.' :: fraction) = some .fraction := by
  have hleft : NumberPart.sign.run whole = some .whole :=
    NumberPart.run_digits (fun c hc => by simp [NumberPart.next?, hc])
      (fun c hc => by simp [NumberPart.next?, hc]) hwhole
  have hright : NumberPart.point.run fraction = some .fraction :=
    NumberPart.run_digits (fun c hc => by simp [NumberPart.next?, hc])
      (fun c hc => by simp [NumberPart.next?, hc]) hfraction
  rw [NumberPart.run_append, hleft]
  exact hright

/-- A power of ten after a part of a number that may have one. -/
theorem run_power {part : NumberPart} {mark : Char} {power : List Char}
    (hpart : part.next? 'e' = some .mark) (hmark : mark = '+' ∨ mark = '-')
    (hpower : AreDigits power) : part.run ('e' :: mark :: power) = some .power := by
  have hsign : NumberPart.mark.next? mark = some .markSign := by
    rcases hmark with rfl | rfl <;> rfl
  rw [NumberPart.run_cons hpart, NumberPart.run_cons hsign]
  exact NumberPart.run_digits (fun c hc => by simp [NumberPart.next?, hc])
    (fun c hc => by simp [NumberPart.next?, hc]) hpower

theorem areDigits_append {s t : List Char} (hs : AreDigits s) (ht : ∀ c ∈ t, c.isDigit = true) :
    AreDigits (s ++ t) := by
  refine ⟨by simp [hs.1], ?_⟩
  intro c hc
  rcases List.mem_append.mp hc with hleft | hright
  · exact hs.2 c hleft
  · exact ht c hright

theorem isDigit_of_mem_zeros {n : Nat} {c : Char} (h : c ∈ List.replicate n '0') :
    c.isDigit = true := by
  rw [List.eq_of_mem_replicate h]
  rfl

theorem areDigits_digitText (d : Decimal) : AreDigits d.digitText := areDigits_repr d.digits

/-- The positional text of a decimal with a fractional part. -/
theorem isUnsigned_positional_of_neg {d : Decimal} (h : d.exponent < 0) :
    IsUnsigned d.positional := by
  have htext := areDigits_digitText d
  unfold Decimal.positional
  simp only [Int.not_le.mpr h, if_false]
  generalize hplaces : (-d.exponent).toNat = places
  have hpositive : 0 < places := by omega
  split
  · next hlt =>
    refine ⟨.fraction, run_positional ⟨?_, ?_⟩ ⟨?_, ?_⟩, rfl⟩
    · intro hnil
      have hlength := congrArg List.length hnil
      simp at hlength
      omega
    · exact fun c hc => htext.2 c (List.mem_of_mem_take hc)
    · intro hnil
      have hlength := congrArg List.length hnil
      simp at hlength
      omega
    · exact fun c hc => htext.2 c (List.mem_of_mem_drop hc)
  · have hzeros : AreDigits (List.replicate (places - d.digitText.length) '0' ++ d.digitText) := by
      refine ⟨by simp [htext.1], ?_⟩
      intro c hc
      rcases List.mem_append.mp hc with hzero | hdigit
      · exact isDigit_of_mem_zeros hzero
      · exact htext.2 c hdigit
    have hwhole : AreDigits ['0'] := ⟨by simp, by simp⟩
    exact ⟨.fraction, run_positional hwhole hzeros, rfl⟩

/-- The positional text of a whole decimal, with a fractional part of one zero. -/
theorem isUnsigned_positional_of_nonneg {d : Decimal} (h : 0 ≤ d.exponent) :
    IsUnsigned (d.positional ++ ['.', '0']) := by
  have hwhole : AreDigits d.positional := by
    unfold Decimal.positional
    simp only [h, if_true]
    exact areDigits_append (areDigits_digitText d) (fun c hc => isDigit_of_mem_zeros hc)
  exact ⟨.fraction, run_positional hwhole ⟨by simp, by simp⟩, rfl⟩

theorem isUnsigned_digit_power {digit mark : Char} {power : List Char}
    (hdigit : digit.isDigit = true) (hmark : mark = '+' ∨ mark = '-') (hpower : AreDigits power) :
    IsUnsigned (digit :: 'e' :: mark :: power) := by
  refine ⟨.power, ?_, rfl⟩
  have hwhole : NumberPart.sign.next? digit = some .whole := by simp [NumberPart.next?, hdigit]
  rw [NumberPart.run_cons hwhole]
  exact run_power rfl hmark hpower

theorem isUnsigned_digits_power {digit mark : Char} {others power : List Char}
    (hdigit : digit.isDigit = true) (hothers : AreDigits others)
    (hmark : mark = '+' ∨ mark = '-') (hpower : AreDigits power) :
    IsUnsigned (digit :: '.' :: others ++ 'e' :: mark :: power) := by
  have hleft : NumberPart.sign.run ([digit] ++ '.' :: others) = some .fraction :=
    run_positional ⟨by simp, by simpa using hdigit⟩ hothers
  refine ⟨.power, ?_, rfl⟩
  rw [NumberPart.run_append]
  rw [List.cons_append, List.nil_append] at hleft
  rw [hleft, Option.bind_some]
  exact run_power rfl hmark hpower

theorem isUnsigned_scientific (d : Decimal) : IsUnsigned d.scientific := by
  have htext := areDigits_digitText d
  have hmark : (if 0 ≤ d.leading then '+' else '-') = '+' ∨
      (if 0 ≤ d.leading then '+' else '-') = '-' := by
    split
    · exact .inl rfl
    · exact .inr rfl
  have hpower := areDigits_repr d.leading.natAbs
  cases hdigits : d.digitText with
  | nil => exact absurd hdigits htext.1
  | cons digit others =>
    have hdigit : digit.isDigit = true := htext.2 digit (by simp [hdigits])
    cases others with
    | nil =>
      simp only [Decimal.scientific, hdigits]
      exact isUnsigned_digit_power hdigit hmark hpower
    | cons other more =>
      have hothers : AreDigits (other :: more) :=
        ⟨by simp, fun c hc => htext.2 c (by rw [hdigits]; exact List.mem_cons_of_mem _ hc)⟩
      simp only [Decimal.scientific, hdigits]
      exact isUnsigned_digits_power hdigit hothers hmark hpower

theorem isNumeral_floatText (x : Binary64) : IsNumeral (Number.floatText x) := by
  have hbody : ∀ body : List Char, IsUnsigned body →
      IsNumeral (if x.negative then '-' :: body else body) := by
    intro body h
    cases x.negative with
    | false => exact h.isNumeral
    | true => exact h.neg
  unfold Number.floatText
  apply hbody
  split
  · exact ⟨.fraction, rfl, rfl⟩
  · split
    · split
      · next hexponent => exact isUnsigned_positional_of_nonneg hexponent
      · next hexponent => exact isUnsigned_positional_of_neg (Int.not_le.mp hexponent)
    · exact isUnsigned_scientific _

theorem isNumeral_number (n : Number) : IsNumeral n.text.toList := by
  cases n with
  | int value => exact isNumeral_int value
  | float value =>
    rw [Number.text, String.toList_ofList]
    exact isNumeral_floatText value

end DatasetSearch.Sql
