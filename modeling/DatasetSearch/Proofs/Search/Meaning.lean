import DatasetSearch.Proofs.Filter.Meaning
import DatasetSearch.Proofs.Sql.Restriction

/-!
# What keywords mean

What each term of the keywords asks of the searchable columns, said without reference to how
keywords are compiled, and the proof that the clause of the keywords is read as these conditions,
joined as the terms are.  Terms after a minus sign stand without parentheses between the others: they are
conjunctions, which neither `AND` nor `OR` takes apart.
-/

namespace DatasetSearch.Search

open Sql

/-! ### What terms ask for -/

/-- The pieces between commas, without blanks around them, that ask for something. -/
def askedTerms (keywords : String) : List String :=
  ((Text.split ',' keywords).map Text.trim).filter (fun term => term ≠ "" ∧ term ≠ "-")

/-- A term asks for rows with the text in some column, or after a minus sign in no column. -/
def termMeaning (columns : List String) (term : String) : Expr :=
  match term.toList with
  | '-' :: text =>
    .chain .and (columns.map fun column =>
      .predicate (.notLike (.asText column) ("%" ++ String.ofList text ++ "%")))
  | _ =>
    .chain .or (columns.map fun column =>
      .predicate (.like (.asText column) ("%" ++ term ++ "%")))

/-! ### Compiled conditions mean what was asked for -/

theorem map_expr_ofText? (columns : List String) (raw : String) :
    (Term.ofText? raw).map (Condition.expr ∘ columnCondition columns) =
      if raw ≠ "-" then some (termMeaning columns raw) else none := by
  unfold Term.ofText? termMeaning
  split
  · next hbare =>
    have hraw : raw = "-" := String.toList_injective hbare
    rw [if_neg (not_not_intro hraw)]
    rfl
  · next rest hnotBare hminus =>
    have hraw : raw ≠ "-" := by
      rintro rfl
      exact hnotBare (List.cons.inj hminus).2.symm
    rw [if_pos hraw, hminus]
    simp only [Option.map_some, Function.comp_apply, columnCondition, Condition.expr,
      Condition.exprs_eq_map, List.map_map]
    rfl
  · next hnotBare hnotMinus =>
    have hraw : raw ≠ "-" := by
      rintro rfl
      exact hnotBare rfl
    rw [if_pos hraw]
    split
    · next text hminus => exact absurd hminus (hnotMinus text)
    · simp only [Option.map_some, Function.comp_apply, columnCondition, Condition.expr,
        Condition.exprs_eq_map, List.map_map]
      rfl

theorem map_expr_columnConditions (columns raws : List String) :
    ((raws.filterMap Term.ofText?).map (columnCondition columns)).map Condition.expr =
      (raws.filter (· ≠ "-")).map (termMeaning columns) := by
  rw [List.map_map, List.map_filterMap]
  induction raws with
  | nil => rfl
  | cons raw raws ih =>
    have hraw := map_expr_ofText? columns raw
    by_cases hbare : raw = "-"
    · rw [if_neg (not_not_intro hbare)] at hraw
      simp only [List.filterMap_cons, hraw, ih]
      simp [hbare]
    · rw [if_pos hbare] at hraw
      simp only [List.filterMap_cons, hraw, ih]
      simp [hbare]

theorem askedTerms_eq (keywords : String) :
    askedTerms keywords = (terms keywords).filter (· ≠ "-") := by
  rw [askedTerms, terms, List.filter_filter]
  congr 1
  funext term
  simp [Bool.and_comm]

variable {allowlist : Allowlist}

/-- Without a searchable column the keywords ask for nothing. -/
theorem map_expr_conditions (keywords : String) :
    (conditions keywords (some allowlist)).map Condition.expr =
      if allowlist.columns.filter isSearchable = [] then []
      else (askedTerms keywords).map (termMeaning (allowlist.columns.filter isSearchable)) := by
  unfold conditions
  simp only
  split
  · next hnone =>
    have hnil : allowlist.columns.filter isSearchable = [] := hnone
    rw [if_pos hnil]
    rfl
  · next columns hsome =>
    have hne : allowlist.columns.filter isSearchable ≠ [] := fun hnil => hsome hnil
    rw [if_neg hne, map_expr_columnConditions, askedTerms_eq]
    rfl

/-! ### Reading the clause of keywords -/

theorem fits_columnCondition {columns : List String} (hne : columns ≠ []) (term : Term) :
    (columnCondition columns term).Fits .and := by
  cases term with
  | wanted text =>
    refine .group .and (.disjunction (fun hnil => hne (List.map_eq_nil_iff.mp hnil)) ?_)
    intro part hpart
    obtain ⟨column, -, rfl⟩ := List.mem_map.mp hpart
    exact .atom .or _
  | excluded text =>
    refine .conjunction .and (fun hnil => hne (List.map_eq_nil_iff.mp hnil)) ?_
    intro part hpart
    obtain ⟨column, -, rfl⟩ := List.mem_map.mp hpart
    exact .atom .and _

theorem isReadable_compile (hplain : allowlist.IsPlain) (keywords : String) (termJoin : TermJoin) :
    (compile keywords (some allowlist) termJoin).IsReadable where
  fits c hc := by
    simp only [compile, conditions] at hc
    split at hc
    · cases hc
    · next columns hsome =>
      obtain ⟨term, -, rfl⟩ := List.mem_map.mp hc
      exact fits_columnCondition (fun hnil => hsome hnil) term
  writable c hc a ha :=
    (comesFrom_conditions (fun _ h => (Option.some.inj h).symm) hc a ha).isWritable hplain

def joined : TermJoin → Connective
  | .any => .or
  | .all => .and

/-- The clause of keywords is empty without terms or without searchable columns.  Otherwise it is
read with the value of the terms, joined as they are, whatever the values of the predicates.  The
restriction by a filter and by keywords is read as both clauses are, joined by `AND`; a clause that
is empty holds, and two empty clauses leave no restriction. -/
theorem compile_reads_as_terms {filtered : Allowlist} (hplain : allowlist.IsPlain)
    (hfiltered : filtered.IsPlain) (keywords : String) (termJoin : TermJoin)
    (presets : List Filter.Preset) (spec : FilterSpec) :
    let columns := allowlist.columns.filter isSearchable
    let asked := askedTerms keywords
    let search := compile keywords (some allowlist) termJoin
    let filter := Filter.compile filtered presets spec
    (asked = [] ∨ columns = [] → search.isEmpty = true ∧ search.text = "") ∧
      (asked ≠ [] → columns ≠ [] → ∃ e, Expr.ofText? search.text = some e ∧
        ∀ value : Predicate → Truth,
          e.eval value = (joined termJoin).combine
            (asked.map (fun term => (termMeaning columns term).eval value))) ∧
      (∃ f s e, Expr.ofClause? filter.text = some f ∧ Expr.ofClause? search.text = some s ∧
        Expr.ofRestriction? (whereClause filter search) = some e ∧
        (∀ value : Predicate → Truth, e.eval value = (f.eval value).and (s.eval value)) ∧
        (filter.conditions ≠ [] → search.conditions ≠ [] → e = .chain .and [f, s])) ∧
      (whereClause filter search = "" ↔ filter.isEmpty = true ∧ search.isEmpty = true) := by
  intro columns asked search filter
  have hreadable : search.IsReadable := isReadable_compile hplain keywords termJoin
  have hmeaning : search.conditions.map Condition.expr =
      if columns = [] then [] else asked.map (termMeaning columns) :=
    map_expr_conditions keywords
  refine ⟨?_, ?_, ?_, ?_⟩
  · intro hnothing
    have hnil : search.conditions = [] := by
      rw [← List.map_eq_nil_iff, hmeaning]
      rcases hnothing with hterms | hcolumns
      · rw [hterms, List.map_nil, ite_self]
      · rw [if_pos hcolumns]
    exact ⟨Clause.isEmpty_iff.mpr hnil, hreadable.text_eq_empty_iff.mpr hnil⟩
  · intro hterms hcolumns
    rw [if_neg hcolumns] at hmeaning
    have hne : search.conditions ≠ [] := by
      intro hnil
      rw [hnil, List.map_nil] at hmeaning
      exact hterms (List.map_eq_nil_iff.mp hmeaning.symm)
    have hjoin : search.connective = joined termJoin := by
      cases termJoin <;> rfl
    refine ⟨search.reading, hreadable.ofText?_text hne, ?_⟩
    intro value
    rw [hreadable.eval_reading hne, hmeaning, hjoin, List.map_map]
    rfl
  · exact ofRestriction?_whereClause (Filter.isReadable_compile hfiltered) hreadable
  · rw [whereClause_eq_empty_iff, Clause.isEmpty_iff, Clause.isEmpty_iff]

/-- A wanted and an excluded term beside a filter of alternatives. -/
theorem compile_reads_as_terms_mixed :
    let allowlist : Allowlist := ⟨["AWARDEE", "a\"b", "AWARD_ID"]⟩
    let search := compile "it's, -b, -" (some allowlist) .any
    let filter := Filter.compile allowlist []
      ⟨[("operator", .string "or"), ("AWARD_IDMin", .string "1"), ("AWARD_IDMax", .string "2")]⟩
    allowlist.IsPlain ∧ askedTerms "it's, -b, -" = ["it's", "-b"] ∧
      allowlist.columns.filter isSearchable = ["AWARDEE", "a\"b"] ∧
      (∃ e, Expr.ofText? search.text = some e ∧
        ∀ value : Predicate → Truth,
          e.eval value = Connective.or.combine
            ((askedTerms "it's, -b, -").map
              (fun term =>
                (termMeaning (allowlist.columns.filter isSearchable) term).eval value))) ∧
      ∃ f s e, Expr.ofClause? filter.text = some f ∧ Expr.ofClause? search.text = some s ∧
        Expr.ofRestriction? (whereClause filter search) = some e ∧
        (∀ value : Predicate → Truth, e.eval value = (f.eval value).and (s.eval value)) ∧
        (filter.conditions ≠ [] → search.conditions ≠ [] → e = .chain .and [f, s]) := by
  intro allowlist search filter
  have hplain : allowlist.IsPlain := by
    unfold Allowlist.IsPlain
    decide
  have hasked : askedTerms "it's, -b, -" = ["it's", "-b"] := by decide
  have hcolumns : allowlist.columns.filter isSearchable = ["AWARDEE", "a\"b"] := by decide
  have hread := compile_reads_as_terms hplain hplain "it's, -b, -" .any []
    ⟨[("operator", .string "or"), ("AWARD_IDMin", .string "1"), ("AWARD_IDMax", .string "2")]⟩
  refine ⟨hplain, hasked, hcolumns, hread.2.1 ?_ ?_, hread.2.2.1⟩
  · rw [hasked]
    exact List.cons_ne_nil _ _
  · rw [hcolumns]
    exact List.cons_ne_nil _ _

end DatasetSearch.Search
