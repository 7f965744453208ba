import DatasetSearch.Proofs.Sql.Lexing
import Mathlib.Data.List.Infix

/-!
# Which texts a pattern matches

A pattern of `LIKE` is a sequence of parts: a percent sign stands for any run of characters, an
underscore for any one character, and every other character for itself.  After a backslash any
character stands for itself, and a pattern that ends with such a backslash is an error.  `ILIKE`
compares characters by a case folding, which is left open here.

A value that contains none of the three special characters is found exactly where it stands.  For
any other value there is a text on which the pattern and the value disagree.
-/

namespace DatasetSearch.Sql

/-! ### The matcher -/

inductive PatternPart where
  /-- Any run of characters. -/
  | run
  /-- Any one character. -/
  | one
  | char (c : Char)
deriving DecidableEq, Repr

/-- The parts of a pattern; none if it ends in the middle of an escape. -/
def patternParts? : List Char → Option (List PatternPart)
  | [] => some []
  | '%' :: rest => (patternParts? rest).map (.run :: ·)
  | '_' :: rest => (patternParts? rest).map (.one :: ·)
  | ['\\'] => none
  | '\\' :: c :: rest => (patternParts? rest).map (.char c :: ·)
  | c :: rest => (patternParts? rest).map (.char c :: ·)

section

variable (fold : Char → Char)

/-- Whether parts match a whole text. -/
def fits : List PatternPart → List Char → Bool
  | [], text => text.isEmpty
  | .run :: parts, text => text.tails.any (fits parts)
  | .one :: parts, _ :: text => fits parts text
  | .char c :: parts, d :: text => fold c == fold d && fits parts text
  | _ :: _, [] => false

/-- Whether a pattern matches a text; none if the pattern is an error. -/
def like? (pattern text : String) : Option Bool :=
  (patternParts? pattern.toList).map (fits fold · text.toList)

/-- An escaped percent sign stands for itself, and the letters for themselves in any case. -/
example :
    like? Char.toLower "%5\\% _FF" "only 5% off" = some true ∧
      like? Char.toLower "%5\\% _FF" "only 50% off" = some false ∧
      like? Char.toLower "%5\\" "only 5" = none := by
  decide

theorem fits_run {parts : List PatternPart} {text : List Char} :
    fits fold (.run :: parts) text = true ↔
      ∃ rest, rest <:+ text ∧ fits fold parts rest = true := by
  simp [fits]

theorem fits_run_nil (text : List Char) : fits fold [.run] text = true := by
  rw [fits_run]
  exact ⟨[], List.nil_suffix, rfl⟩

/-- Characters match the beginnings that are equal to them up to case. -/
theorem fits_chars_append {value : List Char} {parts : List PatternPart} {text : List Char} :
    fits fold (value.map .char ++ parts) text = true ↔
      ∃ start rest, text = start ++ rest ∧ value.map fold = start.map fold ∧
        fits fold parts rest = true := by
  induction value generalizing text with
  | nil =>
    constructor
    · intro h
      exact ⟨[], text, rfl, rfl, h⟩
    · rintro ⟨start, rest, rfl, hstart, h⟩
      rw [List.map_nil, eq_comm, List.map_eq_nil_iff] at hstart
      rw [hstart]
      exact h
  | cons c value ih =>
    cases text with
    | nil => simp [fits]
    | cons d text =>
      simp only [List.map_cons, List.cons_append, fits, Bool.and_eq_true, beq_iff_eq, ih]
      constructor
      · rintro ⟨hc, start, rest, rfl, hstart, h⟩
        exact ⟨d :: start, rest, rfl, by rw [List.map_cons, hc, hstart], h⟩
      · rintro ⟨start, rest, htext, hstart, h⟩
        cases start with
        | nil => cases hstart
        | cons e start =>
          rw [List.cons_append, List.cons.injEq] at htext
          obtain ⟨rfl, rfl⟩ := htext
          rw [List.map_cons, List.cons.injEq] at hstart
          exact ⟨hstart.1, start, rest, rfl, hstart.2, h⟩

end

/-! ### Looking for a value -/

/-- Where in a text a value is looked for. -/
inductive Position where
  | anywhere
  | atStart
  | atEnd
deriving DecidableEq, Repr

namespace Position

def pattern (value : String) : Position → Pattern
  | .anywhere => .containing value
  | .atStart => ⟨value, false, true⟩
  | .atEnd => ⟨value, true, false⟩

/-- The text has the value there, up to case. -/
def Holds (fold : Char → Char) (value text : String) : Position → Prop
  | .anywhere => value.toList.map fold <:+: text.toList.map fold
  | .atStart => value.toList.map fold <+: text.toList.map fold
  | .atEnd => value.toList.map fold <:+ text.toList.map fold

instance (fold : Char → Char) (value text : String) (position : Position) :
    Decidable (position.Holds fold value text) :=
  match position with
  | .anywhere => inferInstanceAs (Decidable (value.toList.map fold <:+: text.toList.map fold))
  | .atStart => inferInstanceAs (Decidable (value.toList.map fold <+: text.toList.map fold))
  | .atEnd => inferInstanceAs (Decidable (value.toList.map fold <:+ text.toList.map fold))

theorem Holds.refl (fold : Char → Char) (value : String) (position : Position) :
    position.Holds fold value value := by
  cases position with
  | anywhere => exact List.infix_refl _
  | atStart => exact List.prefix_refl _
  | atEnd => exact List.suffix_refl _

/-- A text that is not longer than the value has it only by being equal to it. -/
theorem Holds.eq_of_length_le {fold : Char → Char} {value text : String} {position : Position}
    (h : position.Holds fold value text) (hlength : text.toList.length ≤ value.toList.length) :
    value.toList.map fold = text.toList.map fold := by
  have hle : (text.toList.map fold).length ≤ (value.toList.map fold).length := by
    simpa using hlength
  cases position with
  | anywhere => exact List.IsInfix.eq_of_length_le h hle
  | atStart => exact List.IsPrefix.eq_of_length_le h hle
  | atEnd => exact List.IsSuffix.eq_of_length_le h hle

end Position

/-- The characters with a meaning of their own in a pattern. -/
def specialChars : List Char := ['%', '_', '\\']

/-- A value in which every character stands for itself. -/
def IsVerbatim (value : String) : Prop := ∀ c ∈ value.toList, c ∉ specialChars

instance (value : String) : Decidable (IsVerbatim value) :=
  List.decidableBAll (· ∉ specialChars) value.toList

/-- A folding that takes no other character for a special one. -/
def KeepsSpecial (fold : Char → Char) : Prop :=
  ∀ c ∈ specialChars, ∀ d, fold d = fold c → d = c

theorem patternParts?_cons {c : Char} (hc : c ∉ specialChars) (rest : List Char) :
    patternParts? (c :: rest) = (patternParts? rest).map (.char c :: ·) := by
  simp only [specialChars, List.mem_cons, List.not_mem_nil, or_false, not_or] at hc
  obtain ⟨hrun, hone, hescape⟩ := hc
  rw [patternParts?]
  · exact hrun
  · exact hone
  · rintro rfl
    exact absurd rfl hescape
  · rintro _ _ rfl
    exact absurd rfl hescape

theorem patternParts?_append {value : List Char} (h : ∀ c ∈ value, c ∉ specialChars)
    (rest : List Char) :
    patternParts? (value ++ rest) = (patternParts? rest).map (value.map .char ++ ·) := by
  induction value with
  | nil => simp
  | cons c value ih =>
    rw [List.cons_append, patternParts?_cons (h c (by simp)), ih (fun d hd => h d (by simp [hd])),
      Option.map_map]
    rfl

section

variable (fold : Char → Char)

theorem fits_chars {value text : List Char} :
    fits fold (value.map .char) text = true ↔ value.map fold = text.map fold := by
  have h : fits fold (value.map .char ++ []) text = true ↔ _ := fits_chars_append fold
  rw [List.append_nil] at h
  rw [h]
  constructor
  · rintro ⟨start, rest, rfl, hstart, hrest⟩
    have hnil : rest = [] := by simpa [fits] using hrest
    rw [hnil, List.append_nil, hstart]
  · intro heq
    exact ⟨text, [], (List.append_nil text).symm, heq, rfl⟩

theorem fits_chars_run {value text : List Char} :
    fits fold (value.map .char ++ [.run]) text = true ↔ value.map fold <+: text.map fold := by
  rw [fits_chars_append, List.prefix_map_iff]
  constructor
  · rintro ⟨start, rest, rfl, hstart, -⟩
    exact ⟨start, List.prefix_append start rest, hstart⟩
  · rintro ⟨start, ⟨rest, rfl⟩, hstart⟩
    exact ⟨start, rest, rfl, hstart, fits_run_nil fold rest⟩

/-- A value that stands for itself is found by its pattern exactly where it stands. -/
theorem like?_pattern_iff {value : String} (h : IsVerbatim value) (position : Position)
    (text : String) :
    like? fold (position.pattern value).text text = some true ↔
      position.Holds fold value text := by
  have hparts := patternParts?_append h
  cases position with
  | anywhere =>
    have hpattern : (Position.anywhere.pattern value).text.toList =
        '%' :: (value.toList ++ ['%']) := by
      simp [Position.pattern, Pattern.containing, Pattern.text]
    rw [like?, hpattern, patternParts?, hparts, Option.map_map, Position.Holds,
      List.infix_iff_prefix_suffix]
    simp only [patternParts?, Option.map_some, Function.comp_apply, Option.some.injEq, fits_run,
      fits_chars_run]
    constructor
    · rintro ⟨rest, hrest, hstart⟩
      exact ⟨rest.map fold, hstart, hrest.map fold⟩
    · rintro ⟨folded, hstart, hrest⟩
      obtain ⟨rest, hsuffix, rfl⟩ := List.suffix_map_iff.mp hrest
      exact ⟨rest, hsuffix, hstart⟩
  | atStart =>
    have hpattern : (Position.atStart.pattern value).text.toList = value.toList ++ ['%'] := by
      simp [Position.pattern, Pattern.text]
    rw [like?, hpattern, hparts, Position.Holds]
    simp only [patternParts?, Option.map_some, Option.some.injEq, fits_chars_run]
  | atEnd =>
    have hpattern : (Position.atEnd.pattern value).text.toList = '%' :: (value.toList ++ []) := by
      simp [Position.pattern, Pattern.text]
    rw [like?, hpattern, patternParts?, hparts, Option.map_map, Position.Holds,
      List.suffix_map_iff]
    simp only [patternParts?, Option.map_some, Function.comp_apply, Option.some.injEq,
      List.append_nil, fits_run, fits_chars]

/-- The pattern of a value is the value, with a percent sign at each open side. -/
theorem Position.toList_pattern (position : Position) (value : String) :
    ∃ tail, (tail = [] ∨ tail = ['%']) ∧
      ((position.pattern value).text.toList = value.toList ++ tail ∨
        (position.pattern value).text.toList = '%' :: (value.toList ++ tail)) := by
  cases position with
  | anywhere =>
    exact ⟨['%'], .inr rfl, .inr (by simp [pattern, Pattern.containing, Pattern.text])⟩
  | atStart => exact ⟨['%'], .inr rfl, .inl (by simp [pattern, Pattern.text])⟩
  | atEnd => exact ⟨[], .inl rfl, .inr (by simp [pattern, Pattern.text])⟩

/-- The pattern of a value that stands for itself is no error. -/
theorem like?_pattern_eq {value : String} (h : IsVerbatim value) (position : Position)
    (text : String) :
    like? fold (position.pattern value).text text =
      some (decide (position.Holds fold value text)) := by
  have hparts : ∃ parts, patternParts? (position.pattern value).text.toList = some parts := by
    obtain ⟨tail, htail, hpattern⟩ := position.toList_pattern value
    have hvalue := patternParts?_append h tail
    rcases htail with rfl | rfl <;>
    · rcases hpattern with hclosed | hopen
      · exact ⟨_, by rw [hclosed, hvalue]; rfl⟩
      · exact ⟨_, by rw [hopen, patternParts?, hvalue]; rfl⟩
  obtain ⟨parts, hparts⟩ := hparts
  have hiff := like?_pattern_iff fold h position text
  rw [like?, hparts, Option.map_some] at hiff ⊢
  rw [Option.some.injEq, Bool.eq_iff_iff, decide_eq_true_iff, ← hiff, Option.some.injEq]

/-! ### Values with special characters -/

/-- A shortest text that parts match. -/
def shortest : List PatternPart → List Char
  | [] => []
  | .run :: parts => shortest parts
  | .one :: parts => 'a' :: shortest parts
  | .char c :: parts => c :: shortest parts

theorem fits_shortest (parts : List PatternPart) : fits fold parts (shortest parts) = true := by
  induction parts with
  | nil => rfl
  | cons part parts ih =>
    cases part with
    | run =>
      rw [fits_run]
      exact ⟨shortest parts, List.suffix_refl _, ih⟩
    | one => exact ih
    | char c => simp [fits, shortest, ih]

variable {fold} {value tail : List Char} {parts : List PatternPart}

/-- Special characters in front of an open or closed end make the shortest text that is matched
shorter than the value, or different from it. -/
theorem shortest_spec (hfold : KeepsSpecial fold) (htail : tail = [] ∨ tail = ['%'])
    (h : patternParts? (value ++ tail) = some parts) :
    (shortest parts).length ≤ value.length ∧
      (value.map fold = (shortest parts).map fold → ∀ c ∈ value, c ∉ specialChars) := by
  induction value using patternParts?.induct generalizing parts with
  | case1 =>
    have hnone : shortest parts = [] := by
      rcases htail with rfl | rfl <;>
      · cases h
        rfl
    rw [hnone]
    exact ⟨Nat.le_refl _, fun _ c hc => absurd hc List.not_mem_nil⟩
  | case2 rest ih =>
    obtain ⟨more, hmore, rfl⟩ := Option.map_eq_some_iff.mp h
    have hshorter : (shortest more).length < ('%' :: rest).length :=
      Nat.lt_succ_of_le (ih hmore).1
    refine ⟨hshorter.le, fun heq => ?_⟩
    exact absurd (by simpa [shortest] using congrArg List.length heq) hshorter.ne'
  | case3 rest ih =>
    obtain ⟨more, hmore, rfl⟩ := Option.map_eq_some_iff.mp h
    refine ⟨Nat.succ_le_succ (ih hmore).1, fun heq => ?_⟩
    have hchar : fold 'a' = fold '_' := (List.cons.inj heq).1.symm
    exact absurd (hfold '_' (by decide) 'a' hchar) (by decide)
  | case4 =>
    rcases htail with rfl | rfl
    · cases h
    · -- The backslash takes away the meaning of the percent sign that was put after the value.
      cases h
      refine ⟨Nat.le_refl _, fun heq => ?_⟩
      have hchar : fold '%' = fold '\\' := (List.cons.inj heq).1.symm
      exact absurd (hfold '\\' (by decide) '%' hchar) (by decide)
  | case5 c rest ih =>
    obtain ⟨more, hmore, rfl⟩ := Option.map_eq_some_iff.mp h
    have hshorter : (shortest (.char c :: more)).length < ('\\' :: c :: rest).length :=
      Nat.succ_lt_succ (Nat.lt_succ_of_le (ih hmore).1)
    refine ⟨hshorter.le, fun heq => ?_⟩
    exact absurd (by simpa using congrArg List.length heq) hshorter.ne'
  | case6 c rest hrun hone hlone hescape ih =>
    have hc : c ∉ specialChars := by
      simp only [specialChars, List.mem_cons, List.not_mem_nil, or_false, not_or]
      refine ⟨hrun, hone, ?_⟩
      rintro rfl
      cases rest with
      | nil => exact hlone rfl rfl
      | cons d rest => exact hescape d rest rfl rfl
    rw [List.cons_append, patternParts?_cons hc] at h
    obtain ⟨more, hmore, rfl⟩ := Option.map_eq_some_iff.mp h
    refine ⟨Nat.succ_le_succ (ih hmore).1, fun heq => ?_⟩
    have hrest := (ih hmore).2 (List.cons.inj heq).2
    simpa [hc] using hrest

/-- If the pattern of a value finds it exactly where it stands, no character of it is special. -/
theorem isVerbatim_of_like?_pattern {value : String} {position : Position}
    (hfold : KeepsSpecial fold)
    (h : ∀ text, like? fold (position.pattern value).text text = some true ↔
      position.Holds fold value text) :
    IsVerbatim value := by
  -- The value itself is found, so the pattern is not an error; and the shortest text that it
  -- matches has the value, although it is not longer.
  have hself := (h value).mpr (Position.Holds.refl fold value position)
  obtain ⟨parts, hparts, -⟩ := Option.map_eq_some_iff.mp hself
  have hshortest : position.Holds fold value (String.ofList (shortest parts)) := by
    rw [← h, like?, hparts, Option.map_some, String.toList_ofList, fits_shortest]
  have hspec : (shortest parts).length ≤ value.toList.length ∧
      (value.toList.map fold = (shortest parts).map fold → IsVerbatim value) := by
    obtain ⟨tail, htail, hpattern⟩ := position.toList_pattern value
    rcases hpattern with hclosed | hopen
    · rw [hclosed] at hparts
      exact shortest_spec hfold htail hparts
    · rw [hopen] at hparts
      obtain ⟨more, hmore, rfl⟩ := Option.map_eq_some_iff.mp hparts
      have hspec := shortest_spec hfold htail hmore
      exact hspec
  apply hspec.2
  have heq := hshortest.eq_of_length_le (by simpa using hspec.1)
  rwa [String.toList_ofList] at heq

end

end DatasetSearch.Sql
