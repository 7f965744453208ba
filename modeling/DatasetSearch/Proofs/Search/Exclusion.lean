import DatasetSearch.Proofs.Search.Meaning
import DatasetSearch.Proofs.Sql.Like

/-!
# Which rows an excluded term keeps

On a row every column holds a text or is null.  A predicate on a null column is unknown, and so is a
conjunction with an unknown part unless some part fails; a row is kept only if its condition holds.
An excluded term therefore drops the rows that contain it, as it should, but also every row in which
a searchable column is null.
-/

namespace DatasetSearch.Sql

/-! ### Patterns on a row -/

def Truth.ofBool : Bool → Truth
  | true => .holds
  | false => .fails

/-- The texts that the columns of a row are read as; a null column has none. -/
abbrev Row := String → Option String

section

variable (fold : Char → Char) (row : Row) (others : Predicate → Truth)

/-- The value of a pattern on a column of a row; none if the pattern is an error. -/
def Row.like? (column pattern : String) : Option Truth :=
  match row column with
  | none => some .unknown
  | some text => (Sql.like? fold pattern text).map Truth.ofBool

/-- The value of a predicate on a row.  Nothing is assumed of predicates that are not about the
pattern of a column, nor of patterns that are errors. -/
def onRow : Predicate → Truth
  | .like (.asText column) pattern =>
    (row.like? fold column pattern).getD (others (.like (.asText column) pattern))
  | .notLike (.asText column) pattern =>
    ((row.like? fold column pattern).map Truth.not).getD
      (others (.notLike (.asText column) pattern))
  | p => others p

variable {value : String} (hverbatim : IsVerbatim value) (position : Position) (column : String)

include hverbatim

theorem onRow_notLike :
    onRow fold row others (.notLike (.asText column) (position.pattern value).text) =
      match row column with
      | none => .unknown
      | some text => if position.Holds fold value text then .fails else .holds := by
  simp only [onRow, Row.like?]
  cases row column with
  | none => rfl
  | some text =>
    simp only [like?_pattern_eq fold hverbatim]
    split
    · next hholds => simp [hholds, Truth.ofBool, Truth.not]
    · next hlacks => simp [hlacks, Truth.ofBool, Truth.not]

theorem onRow_notLike_eq_holds_iff :
    onRow fold row others (.notLike (.asText column) (position.pattern value).text) = .holds ↔
      ∃ text, row column = some text ∧ ¬position.Holds fold value text := by
  rw [onRow_notLike fold row others hverbatim]
  cases row column with
  | none => simp
  | some text => simp

theorem onRow_notLike_eq_fails_iff :
    onRow fold row others (.notLike (.asText column) (position.pattern value).text) = .fails ↔
      ∃ text, row column = some text ∧ position.Holds fold value text := by
  rw [onRow_notLike fold row others hverbatim]
  cases row column with
  | none => simp
  | some text => simp

end

end DatasetSearch.Sql

namespace DatasetSearch.Search

open Sql

/-- A term after a minus sign, without commas in it and blanks after it, is all that is asked. -/
theorem askedTerms_excluded {term : String} (hne : term ≠ "") (hcomma : ',' ∉ term.toList)
    (hblank : ∀ c ∈ term.toList.getLast?, Text.isBlank c = false) :
    askedTerms ("-" ++ term) = ["-" ++ term] := by
  have hchars : ("-" ++ term).toList = '-' :: term.toList := by simp
  have hnil : term.toList ≠ [] := fun hnil => hne (String.toList_injective hnil)
  have hlast : ('-' :: term.toList).getLast? = term.toList.getLast? := by
    rw [List.getLast?_cons_of_ne_nil hnil]
  have hsplit : Text.split ',' ("-" ++ term) = ["-" ++ term] := by
    rw [Text.split, hchars, Text.splitChars_of_notMem (by simp [hcomma]), List.map_singleton,
      ← hchars, String.ofList_toList]
  have htrim : Text.trim ("-" ++ term) = "-" ++ term := by
    rw [Text.trim, hchars, Text.trimChars_eq_self (by simp [Text.isBlank]) (by rwa [hlast]),
      ← hchars, String.ofList_toList]
  have hkept : "-" ++ term ≠ "" ∧ "-" ++ term ≠ "-" := by
    constructor
    · intro h
      rw [h] at hchars
      cases hchars
    · intro h
      rw [h] at hchars
      exact hnil (List.cons.inj hchars).2.symm
  rw [askedTerms, hsplit, List.map_singleton, htrim]
  simp [hkept]

theorem termMeaning_excluded (columns : List String) (term : String) :
    termMeaning columns ("-" ++ term) =
      .chain .and (columns.map fun column =>
        .predicate (.notLike (.asText column) (Position.anywhere.pattern term).text)) := by
  have hchars : ("-" ++ term).toList = '-' :: term.toList := by simp
  rw [termMeaning, hchars]
  simp [Position.pattern, Pattern.containing, Pattern.text]

variable {allowlist : Allowlist}

/-- The clause of one excluded term holds on a row exactly if every searchable column of the row has
a text and none of these contains the term, whatever the case folding and however terms are joined.
It fails exactly if some of them contains the term. -/
theorem compile_excluded_on_row (hplain : allowlist.IsPlain) (hsome : searchable allowlist ≠ [])
    {term : String} (hne : term ≠ "") (hcomma : ',' ∉ term.toList)
    (hblank : ∀ c ∈ term.toList.getLast?, Text.isBlank c = false) (hverbatim : IsVerbatim term)
    (termJoin : TermJoin) :
    ∃ e, Expr.ofText? (compile ("-" ++ term) (some allowlist) termJoin).text = some e ∧
      ∀ (fold : Char → Char) (row : Row) (others : Predicate → Truth),
        (e.eval (onRow fold row others) = .holds ↔
          (∀ column ∈ searchable allowlist, row column ≠ none) ∧
            ¬∃ column ∈ searchable allowlist, ∃ text, row column = some text ∧
              Position.anywhere.Holds fold term text) ∧
        (e.eval (onRow fold row others) = .fails ↔
          ∃ column ∈ searchable allowlist, ∃ text, row column = some text ∧
            Position.anywhere.Holds fold term text) := by
  have hreadable := isReadable_compile hplain ("-" ++ term) termJoin
  have hmeaning : (compile ("-" ++ term) (some allowlist) termJoin).conditions.map Condition.expr =
      [termMeaning (searchable allowlist) ("-" ++ term)] := by
    have hall : (conditions ("-" ++ term) (some allowlist)).map Condition.expr = _ :=
      map_expr_conditions ("-" ++ term)
    have hcolumns : allowlist.columns.filter isSearchable ≠ [] := hsome
    rw [if_neg hcolumns, askedTerms_excluded hne hcomma hblank, List.map_singleton] at hall
    exact hall
  have hconditions : (compile ("-" ++ term) (some allowlist) termJoin).conditions ≠ [] := by
    intro hnil
    rw [hnil] at hmeaning
    cases hmeaning
  refine ⟨_, hreadable.ofText?_text hconditions, ?_⟩
  intro fold row others
  have heval : (compile ("-" ++ term) (some allowlist) termJoin).reading.eval
      (onRow fold row others) =
      Connective.and.combine ((searchable allowlist).map fun column =>
        onRow fold row others
          (.notLike (.asText column) (Position.anywhere.pattern term).text)) := by
    rw [hreadable.eval_reading hconditions, hmeaning, List.map_singleton,
      Connective.combine_singleton, termMeaning_excluded, Expr.eval, Expr.evals_eq_map,
      List.map_map]
    rfl
  rw [heval]
  constructor
  · rw [Connective.combine_and_eq_holds_iff, List.forall_mem_map]
    simp only [onRow_notLike_eq_holds_iff fold row others hverbatim]
    constructor
    · intro hall
      constructor
      · intro column hcolumn hnull
        obtain ⟨text, htext, -⟩ := hall column hcolumn
        rw [hnull] at htext
        cases htext
      · rintro ⟨column, hcolumn, text, htext, hholds⟩
        obtain ⟨other, hother, hlacks⟩ := hall column hcolumn
        rw [htext] at hother
        cases hother
        exact hlacks hholds
    · rintro ⟨hnull, hlacks⟩ column hcolumn
      obtain ⟨text, htext⟩ := Option.ne_none_iff_exists'.mp (hnull column hcolumn)
      exact ⟨text, htext, fun hholds => hlacks ⟨column, hcolumn, text, htext, hholds⟩⟩
  · rw [Connective.combine_and_eq_fails_iff, List.mem_map]
    simp only [onRow_notLike_eq_fails_iff fold row others hverbatim]

/-- A row with two titles that do not mention the excluded term is kept. -/
theorem compile_excluded_on_row_kept :
    let allowlist : Allowlist := ⟨["TITLE", "AWARD_ID", "AGENCY"]⟩
    let row : Row := fun column => if column = "TITLE" then some "Cyber" else some "Net"
    allowlist.IsPlain ∧ searchable allowlist = ["TITLE", "AGENCY"] ∧ IsVerbatim "cyber range" ∧
      ∃ e, Expr.ofText? (compile "-cyber range" (some allowlist) .all).text = some e ∧
        e.eval (onRow Char.toLower row (fun _ => .unknown)) = .holds := by
  intro allowlist row
  have hplain : allowlist.IsPlain := by
    unfold Allowlist.IsPlain
    decide
  have hcolumns : searchable allowlist = ["TITLE", "AGENCY"] := by decide
  have hsome : searchable allowlist ≠ [] := by
    rw [hcolumns]
    exact List.cons_ne_nil _ _
  have hne : "cyber range" ≠ "" := by decide
  have hcomma : ',' ∉ "cyber range".toList := by decide
  have hblank : ∀ c ∈ "cyber range".toList.getLast?, Text.isBlank c = false := by
    rintro c ⟨⟩
    rfl
  have hverbatim : IsVerbatim "cyber range" := by decide
  obtain ⟨e, hread, hvalue⟩ :=
    compile_excluded_on_row hplain hsome hne hcomma hblank hverbatim .all
  refine ⟨hplain, hcolumns, hverbatim, e, hread, ?_⟩
  rw [(hvalue Char.toLower row (fun _ => .unknown)).1, hcolumns]
  decide

/-- A row whose title is null does not contain the term, and is dropped. -/
theorem excluded_drops_row_with_null :
    let allowlist : Allowlist := ⟨["TITLE"]⟩
    let row : Row := fun _ => none
    let e : Expr := .predicate (.notLike (.asText "TITLE") "%beta%")
    searchable allowlist = ["TITLE"] ∧
      (compile "-beta" (some allowlist) .any).text =
        "CAST(\"TITLE\" AS TEXT) NOT ILIKE '%beta%'" ∧
      Expr.ofText? "CAST(\"TITLE\" AS TEXT) NOT ILIKE '%beta%'" = some e ∧
      (¬∃ column ∈ searchable allowlist, ∃ text, row column = some text ∧
        Position.anywhere.Holds Char.toLower "beta" text) ∧
      e.eval (onRow Char.toLower row (fun _ => .holds)) = .unknown := by
  intro allowlist row e
  refine ⟨?_, ?_, ?_, ?_, ?_⟩
  · decide
  · decide
  · rfl
  · rintro ⟨column, -, text, htext, -⟩
    cases htext
  · rfl

end DatasetSearch.Search
