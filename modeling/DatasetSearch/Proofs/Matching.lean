import DatasetSearch.Proofs.Search.Meaning
import DatasetSearch.Proofs.Sql.Like

/-!
# What the conditions that look for a text match

The operators on patterns, some presets and the wanted terms of a search put a value between percent
signs and compare a column with the pattern.  The value itself is written as it is, so it finds the
texts that have it only as long as none of its characters is special in a pattern.
-/

namespace DatasetSearch

namespace Sql

/-! ### The patterns of a condition -/

def Predicate.patterns : Predicate → List String
  | .like _ pattern | .notLike _ pattern => [pattern]
  | _ => []

namespace Expr

mutual

def patterns : Expr → List String
  | .predicate p => p.patterns
  | .not e => patterns e
  | .chain _ parts => patternsOf parts

def patternsOf : List Expr → List String
  | [] => []
  | part :: rest => patterns part ++ patternsOf rest

end

theorem patternsOf_eq_flatMap (parts : List Expr) : patternsOf parts = parts.flatMap patterns := by
  induction parts with
  | nil => rfl
  | cons part parts ih => rw [patternsOf, ih, List.flatMap_cons]

theorem patterns_join (connective : Connective) (parts : List Expr) :
    (join connective parts).patterns = parts.flatMap patterns := by
  unfold join
  split
  · next e => rw [List.flatMap_singleton]
  · exact patternsOf_eq_flatMap parts

theorem patterns_ofProducts (products : List (List Expr)) :
    (ofProducts products).patterns = products.flatten.flatMap patterns := by
  rw [ofProducts, patterns_join, List.flatMap_map, List.flatten_eq_flatMap, List.flatMap_assoc]
  congr 1
  funext factors
  exact patterns_join .and factors

end Expr

def Atom.patterns : Atom → List String
  | .like _ pattern | .notLike _ pattern => [pattern.text]
  | _ => []

def Condition.patterns (c : Condition) : List String := c.atoms.flatMap Atom.patterns

theorem Atom.patterns_expr (a : Atom) : a.expr.patterns = a.patterns := by
  cases a <;> rfl

theorem Condition.flatMap_patterns_productsOf {parts : List Condition}
    (h : ∀ part ∈ parts, part.products.flatten.flatMap Expr.patterns = part.patterns) :
    (Condition.productsOf parts).flatten.flatMap Expr.patterns =
      (Condition.atomsOf parts).flatMap Atom.patterns := by
  induction parts with
  | nil => rfl
  | cons part parts ih =>
    rw [Condition.productsOf, Condition.atomsOf, List.flatten_append, List.flatMap_append,
      List.flatMap_append, h part (by simp), ih (fun p hp => h p (by simp [hp]))]
    rfl

/-- A condition is read with the patterns that it is built with. -/
theorem Condition.patterns_products (c : Condition) :
    (Expr.ofProducts c.products).patterns = c.patterns := by
  rw [Expr.patterns_ofProducts]
  induction c with
  | atom a => simp [Condition.products, Condition.patterns, Condition.atoms, Atom.patterns_expr]
  | chain connective parts ih =>
    have hparts := Condition.flatMap_patterns_productsOf ih
    cases connective with
    | and =>
      rw [Condition.products, List.flatten_singleton]
      exact hparts
    | or => exact hparts
  | group inner ih =>
    rw [← Expr.patterns_ofProducts] at ih
    rw [Condition.products, List.flatten_singleton, List.flatMap_singleton]
    exact ih

end Sql

open Sql

/-! ### Conditions that look for a value -/

namespace Filter

/-- Where an operator on patterns looks for its value. -/
def ExactOperator.position? : ExactOperator → Option Position
  | .contains => some .anywhere
  | .startsWith => some .atStart
  | .endsWith => some .atEnd
  | _ => none

/-- The presets that look for a text. -/
def Preset.looking : List Preset := [.agency, .awardee, .pscCode, .awardId, .naicsCode]

end Filter

open DatasetSearch.Filter

/-- A condition that is compiled to look for a value: by an operator on patterns, by a preset, or
by a wanted term of a search. -/
inductive LooksFor (allowlist : Allowlist) (value : String) : Position → Condition → Prop
  | operator {op : ExactOperator} {position : Position} {column : String} {given : Json}
      {c : Condition} (hop : op.position? = some position) (hcolumn : column ∈ allowlist.columns)
      (hgiven : spelled? given = some value) (h : op.condition? column given = some c) :
      LooksFor allowlist value position c
  | preset {preset : Preset} {given : Json} {c : Condition} (hpreset : preset ∈ Preset.looking)
      (hgiven : filled? given = some value) (h : preset.condition? given allowlist = some c) :
      LooksFor allowlist value .anywhere c
  | term (hsome : Search.searchable allowlist ≠ []) :
      LooksFor allowlist value .anywhere
        (Search.columnCondition (Search.searchable allowlist) (.wanted value))

theorem Filter.Preset.rule?_of_condition? {preset : Preset} {given : Json} {allowlist : Allowlist}
    {c : Condition} (h : preset.condition? given allowlist = some c) :
    preset.rule? given allowlist = some c := by
  unfold Preset.condition? at h
  split at h
  · exact h
  · cases h

namespace LooksFor

variable {allowlist : Allowlist} {value : String} {position : Position} {c : Condition}

theorem patterns_pair (connective : Connective) (left right : Atom) :
    (Condition.pair connective left right).patterns = left.patterns ++ right.patterns := by
  simp [Condition.pair, Condition.patterns, Condition.atoms, Condition.atomsOf]

theorem eq_atom_of_operator {op : ExactOperator} {column : String} {given : Json}
    (hop : op.position? = some position) (hgiven : spelled? given = some value)
    (h : op.condition? column given = some c) :
    c = .atom (.like column (position.pattern value)) := by
  have hmatching : ∀ pattern : String → Pattern,
      ExactOperator.matching? column given pattern = some c →
        c = .atom (.like column (pattern value)) := by
    intro pattern hcondition
    rw [ExactOperator.matching?, scalarText?_eq_spelled?, hgiven] at hcondition
    exact (Option.some.inj hcondition).symm
  cases op with
  | contains =>
    cases hop
    exact hmatching _ h
  | startsWith =>
    cases hop
    exact hmatching _ h
  | endsWith =>
    cases hop
    exact hmatching _ h
  | compare op => cases hop
  | isNull => cases hop
  | isNotNull => cases hop

/-- A preset that looks for a text names it in each of its conditions but a number. -/
theorem eq_or_patterns_of_rule {preset : Preset} {given : Json} (hpreset : preset ∈ Preset.looking)
    (hgiven : filled? given = some value) (h : preset.rule? given allowlist = some c) :
    c = .atom (.compare ContractColumn.industryNumber .eq (.digits value)) ∨
      c.patterns ≠ [] ∧ ∀ pattern ∈ c.patterns, pattern = (Pattern.containing value).text := by
  rw [← nonEmptyText?_eq_filled?] at hgiven
  have hcases : preset = .agency ∨ preset = .awardee ∨ preset = .pscCode ∨ preset = .awardId ∨
      preset = .naicsCode := by
    simpa [Preset.looking] using hpreset
  have hcontaining : ∀ column, Preset.containing? column given = some c →
      c.patterns = [(Pattern.containing value).text] := by
    intro column hcondition
    rw [Preset.containing?, hgiven] at hcondition
    rw [← Option.some.inj hcondition]
    rfl
  rcases hcases with rfl | rfl | rfl | rfl | rfl
  · right
    simp [hcontaining _ h]
  · right
    simp [hcontaining _ h]
  · right
    simp [hcontaining _ h]
  · right
    rw [Preset.rule?, hgiven] at h
    rw [← Option.some.inj h]
    simp [patterns_pair, Preset.containing, Atom.patterns]
  · simp only [Preset.rule?, Preset.industry?, hgiven] at h
    split at h
    · right
      rw [← Option.some.inj h]
      simp [patterns_pair, Preset.containing, Atom.patterns]
    · left
      exact (Option.some.inj h).symm
    · right
      rw [← Option.some.inj h]
      simp [Condition.patterns, Condition.atoms, Preset.containing, Atom.patterns]
    · cases h

theorem patterns_columnCondition (columns : List String) (value : String) :
    (Search.columnCondition columns (.wanted value)).patterns =
      columns.map (fun _ => (Pattern.containing value).text) := by
  simp only [Search.columnCondition, Condition.patterns, Condition.atoms]
  induction columns with
  | nil => rfl
  | cons column columns ih =>
    rw [List.map_cons, Condition.atomsOf, List.flatMap_append, ih]
    rfl

/-- An industry code of digits may be compared as a number alone.  Every other condition that looks
for a value does so by the one pattern that belongs to the position. -/
theorem eq_or_patterns (h : LooksFor allowlist value position c) :
    c = .atom (.compare ContractColumn.industryNumber .eq (.digits value)) ∨
      c.patterns ≠ [] ∧ ∀ pattern ∈ c.patterns, pattern = (position.pattern value).text := by
  cases h with
  | operator hop hcolumn hgiven h =>
    right
    rw [eq_atom_of_operator hop hgiven h]
    simp [Condition.patterns, Condition.atoms, Atom.patterns]
  | preset hpreset hgiven h =>
    exact eq_or_patterns_of_rule hpreset hgiven (Preset.rule?_of_condition? h)
  | term hsome =>
    right
    rw [patterns_columnCondition]
    constructor
    · exact fun hnil => hsome (List.map_eq_nil_iff.mp hnil)
    · intro pattern hpattern
      obtain ⟨column, -, rfl⟩ := List.mem_map.mp hpattern
      rfl

/-- The condition of an allowlist is read with its patterns. -/
theorem ofText?_text (h : LooksFor allowlist value position c) (hplain : allowlist.IsPlain) :
    ∃ e, Expr.ofText? c.text = some e ∧ e.patterns = c.patterns := by
  refine ⟨.ofProducts c.products, ?_, c.patterns_products⟩
  cases h with
  | operator hop hcolumn hgiven h =>
    have hwritable : ∀ a ∈ c.atoms, a.IsWritable :=
      fun a ha => (comesFrom_operator hcolumn h a ha).isWritable hplain
    have hfits : c.Fits .and := by
      rw [eq_atom_of_operator hop hgiven h]
      exact .atom .and _
    exact ofText?_condition hfits hwritable
  | preset hpreset hgiven h =>
    have hwritable : ∀ a ∈ c.atoms, a.IsWritable :=
      fun a ha => (Preset.comesFrom_condition? h a ha).isWritable hplain
    exact ofText?_condition (isClosed_condition? h).fits hwritable
  | term hsome =>
    have hallowed : ∀ column ∈ Search.searchable allowlist, column ∈ allowlist.columns :=
      fun column hcolumn => (List.mem_filter.mp hcolumn).1
    have hfrom : (Search.columnCondition (Search.searchable allowlist)
        (.wanted value)).ComesFrom allowlist (fun _ => True) :=
      Search.comesFrom_columnCondition hallowed trivial
    exact ofText?_condition (Search.fits_columnCondition hsome _)
      (fun a ha => (hfrom a ha).isWritable hplain)

/-- A condition that looks for a value is read with patterns, unless it is an industry code that is
compared as a number.  Under any case folding, a value without special characters is found by each
of these patterns exactly where it is looked for, and a value with one is not: no folding that keeps
the special characters apart from all others makes its pattern right for every text. -/
theorem finds_iff_isVerbatim (h : LooksFor allowlist value position c) :
    (allowlist.IsPlain → ∃ e, Expr.ofText? c.text = some e ∧ e.patterns = c.patterns) ∧
      (c.patterns = [] →
        c = .atom (.compare ContractColumn.industryNumber .eq (.digits value))) ∧
      ∀ pattern ∈ c.patterns, ∀ fold : Char → Char,
        (IsVerbatim value → ∀ text,
          like? fold pattern text = some true ↔ position.Holds fold value text) ∧
        (KeepsSpecial fold →
          (∀ text, like? fold pattern text = some true ↔ position.Holds fold value text) →
            IsVerbatim value) := by
  refine ⟨h.ofText?_text, ?_, ?_⟩
  · intro hnil
    rcases h.eq_or_patterns with hnumber | ⟨hne, -⟩
    · exact hnumber
    · exact absurd hnil hne
  · intro pattern hpattern fold
    have heq : pattern = (position.pattern value).text := by
      rcases h.eq_or_patterns with hnumber | ⟨-, hall⟩
      · rw [hnumber] at hpattern
        cases hpattern
      · exact hall pattern hpattern
    rw [heq]
    constructor
    · intro hverbatim text
      exact like?_pattern_iff fold hverbatim position text
    · intro hfold hall
      exact isVerbatim_of_like?_pattern hfold hall

/-- Titles that begin with a text, in any case. -/
theorem finds_iff_isVerbatim_title :
    let c : Condition := .atom (.like "TITLE" ⟨"it's", false, true⟩)
    LooksFor ⟨["TITLE"]⟩ "it's" .atStart c ∧ IsVerbatim "it's" ∧
      (∃ e, Expr.ofText? c.text = some e ∧ e.patterns = c.patterns) ∧
      ∀ pattern ∈ c.patterns, ∀ text,
        like? Char.toLower pattern text = some true ↔
          Position.atStart.Holds Char.toLower "it's" text := by
  intro c
  have hop : ExactOperator.startsWith.position? = some .atStart := rfl
  have hgiven : spelled? (.string "it's") = some "it's" := rfl
  have hcondition : ExactOperator.startsWith.condition? "TITLE" (.string "it's") = some c := rfl
  have hlooks : LooksFor ⟨["TITLE"]⟩ "it's" .atStart c :=
    .operator hop (List.mem_singleton.mpr rfl) hgiven hcondition
  have hverbatim : IsVerbatim "it's" := by decide
  have hplain : Allowlist.IsPlain ⟨["TITLE"]⟩ := by
    unfold Allowlist.IsPlain
    decide
  have hfinds := finds_iff_isVerbatim hlooks
  refine ⟨hlooks, hverbatim, hfinds.1 hplain, ?_⟩
  intro pattern hpattern
  exact (hfinds.2.2 pattern hpattern Char.toLower).1 hverbatim

/-- The percent sign of a value stands for any run of characters, so a text is found that does not
contain the value. -/
theorem contains_finds_text_without_value :
    let c : Condition := .atom (.like "TITLE" (.containing "100%"))
    LooksFor ⟨["TITLE"]⟩ "100%" .anywhere c ∧
      c.text = "CAST(\"TITLE\" AS TEXT) ILIKE '%100%%'" ∧
      Expr.ofText? "CAST(\"TITLE\" AS TEXT) ILIKE '%100%%'" =
        some (.predicate (.like (.asText "TITLE") "%100%%")) ∧
      like? Char.toLower "%100%%" "100 dollars" = some true ∧
      ¬Position.anywhere.Holds Char.toLower "100%" "100 dollars" := by
  intro c
  have hop : ExactOperator.contains.position? = some .anywhere := rfl
  have hgiven : spelled? (.string "100%") = some "100%" := rfl
  have hcondition : ExactOperator.contains.condition? "TITLE" (.string "100%") = some c := rfl
  refine ⟨.operator hop (List.mem_singleton.mpr rfl) hgiven hcondition, ?_, ?_, ?_, ?_⟩
  · decide
  · rfl
  · decide
  · decide

end LooksFor

end DatasetSearch
