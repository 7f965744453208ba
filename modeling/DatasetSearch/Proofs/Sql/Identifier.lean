import Mathlib.Logic.Function.Basic
import DatasetSearch.Proofs.Sql.Lexing

/-!
# Names between double quotes

A delimited identifier begins and ends with a double quote, and between these two double quotes
stand in pairs only.  Quoting gives one such identifier for every name that carries no quotes of its
own.  A name that carries them already is left as it is: it denotes the column whose name stands
between them, and it is one identifier just if its inner quotes are paired.
-/

namespace DatasetSearch.Sql

/-! ### Quotes in pairs -/

/-- Quotes stand in pairs only. -/
inductive IsPaired (quote : Char) : List Char → Prop
  | nil : IsPaired quote []
  | other {c : Char} {s : List Char} (hne : c ≠ quote) (h : IsPaired quote s) :
      IsPaired quote (c :: s)
  | pair {s : List Char} (h : IsPaired quote s) : IsPaired quote (quote :: quote :: s)

/-- The characters with every pair of quotes written once. -/
def halved (quote : Char) : List Char → List Char
  | [] => []
  | [c] => [c]
  | c :: d :: s =>
    if c = quote ∧ d = quote then quote :: halved quote s else c :: halved quote (d :: s)

theorem doubled_self (quote : Char) (s : List Char) :
    doubled quote (quote :: s) = quote :: quote :: doubled quote s := by
  simp [doubled_cons]

theorem doubled_other {quote c : Char} (hne : c ≠ quote) (s : List Char) :
    doubled quote (c :: s) = c :: doubled quote s := by
  simp [doubled_cons, hne]

theorem halved_pair (quote : Char) (s : List Char) :
    halved quote (quote :: quote :: s) = quote :: halved quote s := by
  simp [halved]

theorem halved_other {quote c : Char} (hne : c ≠ quote) (s : List Char) :
    halved quote (c :: s) = c :: halved quote s := by
  cases s with
  | nil => rfl
  | cons d s => simp [halved, hne]

theorem isPaired_doubled (quote : Char) (s : List Char) : IsPaired quote (doubled quote s) := by
  induction s with
  | nil => exact .nil
  | cons c s ih =>
    by_cases hc : c = quote
    · rw [hc, doubled_self]
      exact .pair ih
    · rw [doubled_other hc]
      exact .other hc ih

theorem halved_doubled (quote : Char) (s : List Char) : halved quote (doubled quote s) = s := by
  induction s with
  | nil => rfl
  | cons c s ih =>
    by_cases hc : c = quote
    · rw [hc, doubled_self, halved_pair, ih]
    · rw [doubled_other hc, halved_other hc, ih]

theorem IsPaired.doubled_halved {quote : Char} {s : List Char} (h : IsPaired quote s) :
    doubled quote (halved quote s) = s := by
  induction h with
  | nil => rfl
  | other hne _ ih => rw [halved_other hne, doubled_other hne, ih]
  | pair _ ih => rw [halved_pair, doubled_self, ih]

theorem doubled_injective (quote : Char) : Function.Injective (doubled quote) :=
  Function.LeftInverse.injective (halved_doubled quote)

instance (quote : Char) (s : List Char) : Decidable (IsPaired quote s) :=
  decidable_of_iff (doubled quote (halved quote s) = s)
    ⟨fun h => h ▸ isPaired_doubled quote _, IsPaired.doubled_halved⟩

/-! ### Delimited identifiers -/

/-- What stands between the first and the last character. -/
def inside (token : String) : List Char := token.toList.tail.dropLast

/-- A double quote, a text in which double quotes are paired, and a double quote. -/
def IsIdentifier (token : String) : Prop :=
  ∃ text, token.toList = '"' :: text ++ ['"'] ∧ IsPaired '"' text

theorem inside_eq {token : String} {text : List Char}
    (h : token.toList = '"' :: text ++ ['"']) : inside token = text := by
  unfold inside
  rw [h, List.cons_append, List.tail_cons, List.dropLast_concat]

/-- A name that carries its quotes is the text between them with its quotes. -/
theorem toList_of_isDelimited {name : String} (h : isDelimited name.toList = true) :
    name.toList = '"' :: inside name ++ ['"'] := by
  simp only [isDelimited, Bool.and_eq_true, decide_eq_true_eq, beq_iff_eq] at h
  obtain ⟨⟨hlength, hfirst⟩, hlast⟩ := h
  obtain ⟨front, hfront⟩ := List.getLast?_eq_some_iff.mp hlast
  rw [hfront] at hlength hfirst
  cases front with
  | nil => simp at hlength
  | cons first text =>
    cases hfirst
    rw [inside_eq hfront, hfront]

theorem isIdentifier_iff {token : String} :
    IsIdentifier token ↔ isDelimited token.toList = true ∧ IsPaired '"' (inside token) := by
  constructor
  · rintro ⟨text, htoken, hpaired⟩
    constructor
    · have hlast : ('"' :: text ++ ['"']).getLast? = some '"' := List.getLast?_concat
      rw [htoken]
      simp only [isDelimited, hlast]
      simp
    · rw [inside_eq htoken]
      exact hpaired
  · rintro ⟨hdelimited, hpaired⟩
    exact ⟨inside token, toList_of_isDelimited hdelimited, hpaired⟩

instance (token : String) : Decidable (IsIdentifier token) :=
  decidable_of_iff _ isIdentifier_iff.symm

/-! ### Quoting -/

/-- A name without quotes around it, or one whose quotes make it an identifier. -/
def IsQuotable (name : String) : Prop := isDelimited name.toList = true → IsIdentifier name

/-- The column that a name denotes: what stands between its quotes, if it carries them. -/
def denoted (name : String) : String :=
  if isDelimited name.toList then String.ofList (halved '"' (inside name)) else name

theorem denoted_of_plain {name : String} (h : isDelimited name.toList = false) :
    denoted name = name := by
  simp [denoted, h]

theorem quoteIdentifier_of_isDelimited {name : String} (h : isDelimited name.toList = true) :
    quoteIdentifier name = name := by
  simp [quoteIdentifier, h]

theorem toList_quoteIdentifier_of_plain {name : String} (h : isDelimited name.toList = false) :
    (quoteIdentifier name).toList = '"' :: doubled '"' name.toList ++ ['"'] := by
  simp [quoteIdentifier, h]

/-- Whether a name carries its quotes or gets them, what is written is the column it denotes. -/
theorem toList_quoteIdentifier {name : String} (h : IsQuotable name) :
    (quoteIdentifier name).toList = '"' :: doubled '"' (denoted name).toList ++ ['"'] := by
  cases hdelimited : isDelimited name.toList with
  | false =>
    rw [denoted_of_plain hdelimited]
    exact toList_quoteIdentifier_of_plain hdelimited
  | true =>
    have hpaired := (isIdentifier_iff.mp (h hdelimited)).2
    have hdenoted : (denoted name).toList = halved '"' (inside name) := by
      simp [denoted, hdelimited]
    rw [quoteIdentifier_of_isDelimited hdelimited, hdenoted, hpaired.doubled_halved]
    exact toList_of_isDelimited hdelimited

theorem isIdentifier_quoteIdentifier {name : String} (h : IsQuotable name) :
    IsIdentifier (quoteIdentifier name) :=
  ⟨_, toList_quoteIdentifier h, isPaired_doubled '"' _⟩

theorem lexes_denoted {name : String} (h : IsQuotable name) :
    Lexes (noQuote '"') (quoteIdentifier name) [.identifier (denoted name)] := by
  have hquoted := lexes_quoted '"' rfl (denoted name).toList
  rw [← toList_quoteIdentifier h, String.ofList_toList] at hquoted
  simpa [Mode.tokens] using hquoted

/-- A name that has been quoted carries its quotes. -/
theorem quoteIdentifier_quoteIdentifier (name : String) :
    quoteIdentifier (quoteIdentifier name) = quoteIdentifier name := by
  apply quoteIdentifier_of_isDelimited
  cases hdelimited : isDelimited name.toList with
  | true =>
    rw [quoteIdentifier_of_isDelimited hdelimited]
    exact hdelimited
  | false =>
    have hplain : IsQuotable name := fun h => absurd h (by simp [hdelimited])
    exact (isIdentifier_iff.mp (isIdentifier_quoteIdentifier hplain)).1

/-- Different names are quoted alike just if one of them is the other one quoted. -/
theorem quoteIdentifier_eq_iff (name other : String) :
    quoteIdentifier name = quoteIdentifier other ↔
      name = other ∨ name = quoteIdentifier other ∨ other = quoteIdentifier name := by
  constructor
  · intro h
    cases hname : isDelimited name.toList with
    | true =>
      rw [quoteIdentifier_of_isDelimited hname] at h
      exact .inr (.inl h)
    | false =>
      cases hother : isDelimited other.toList with
      | true =>
        rw [quoteIdentifier_of_isDelimited hother] at h
        exact .inr (.inr h.symm)
      | false =>
        have hlists := congrArg String.toList h
        rw [toList_quoteIdentifier_of_plain hname, toList_quoteIdentifier_of_plain hother] at hlists
        have hdoubled := List.append_cancel_right (List.cons.inj hlists).2
        exact .inl (String.toList_injective (doubled_injective '"' hdoubled))
  · rintro (rfl | rfl | rfl)
    · rfl
    · exact quoteIdentifier_quoteIdentifier other
    · exact (quoteIdentifier_quoteIdentifier name).symm

/-- A name without quotes around it, or with quotes that make it an identifier, is quoted as one
delimited identifier.  Wherever a lexer stands, unless inside double quotes or right behind some, it
reads this identifier as the column that the name denotes and stops at its end, unless a double
quote follows.  Of any two names that are quoted alike, one is the other one quoted. -/
theorem quoteIdentifier_denotes (name : String) :
    (IsQuotable name → IsIdentifier (quoteIdentifier name) ∧
      ∀ (mode : Mode) (rest : List Char), mode.extend? '"' = none → noQuote '"' rest = true →
        scan mode ((quoteIdentifier name).toList ++ rest) =
          mode.tokens ++ .identifier (denoted name) :: scan .between rest) ∧
    ∀ other, quoteIdentifier name = quoteIdentifier other ↔
      name = other ∨ name = quoteIdentifier other ∨ other = quoteIdentifier name := by
  refine ⟨?_, quoteIdentifier_eq_iff name⟩
  intro hname
  refine ⟨isIdentifier_quoteIdentifier hname, ?_⟩
  intro mode rest hmode hrest
  have hend : ∀ c ∈ ((quoteIdentifier name).toList ++ rest).head?, mode.extend? c = none := by
    intro c hc
    rw [toList_quoteIdentifier hname] at hc
    cases hc
    exact hmode
  rw [scan_of_end hend, lexes_denoted hname rest hrest]
  rfl

/-- A name with quotes around it and a pair inside is read, behind a word, as the name that it
denotes. -/
theorem quoteIdentifier_denotes_pair :
    IsIdentifier (quoteIdentifier "\"we\"\"ird\"") ∧
      scan (.word ['Y', 'B']) ((quoteIdentifier "\"we\"\"ird\"").toList ++ [' ', 'x']) =
        [.keyword .by, .identifier "we\"ird", .name "x"] ∧
      quoteIdentifier "\"we\"\"ird\"" = quoteIdentifier "we\"ird" := by
  obtain ⟨hquoted, halike⟩ := quoteIdentifier_denotes "\"we\"\"ird\""
  obtain ⟨hone, hscan⟩ := hquoted (fun _ => by decide)
  refine ⟨hone, ?_, (halike "we\"ird").mpr (.inr (.inl (by decide)))⟩
  exact (hscan (.word ['Y', 'B']) [' ', 'x'] (by decide) (by decide)).trans (by decide)

/-- A name and the same name with its quotes are quoted alike, a name with a lone quote between its
quotes falls apart, and two identifiers without anything between them are read as one. -/
theorem quoted_names_collide_or_break :
    (quoteIdentifier "\"TITLE\"" = quoteIdentifier "TITLE" ∧ "\"TITLE\"" ≠ "TITLE") ∧
      (¬IsIdentifier (quoteIdentifier "\"a\"b\"") ∧
        lex (quoteIdentifier "\"a\"b\"") = [.identifier "a", .name "b", .stray "\""]) ∧
      lex (quoteIdentifier "a" ++ quoteIdentifier "b") = [.identifier "a\"b"] := by
  decide

end DatasetSearch.Sql
