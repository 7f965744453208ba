import DatasetSearch.Proofs.Sql.Precedence
import DatasetSearch.Sql.Plan

/-!
# The restriction of a plan

The `WHERE` clause of a plan is that of one condition: a clause that stands alone stands as it is,
two of them stand in parentheses.  It is read as both clauses are, joined by `AND`.
-/

namespace DatasetSearch.Sql

variable {filter search : Clause}

/-! ### Tokens -/

/-- The condition of a restriction, if there is one. -/
def restriction? (filter search : Clause) : Option Condition :=
  match filter.isEmpty, search.isEmpty with
  | false, false => some (.chain .and [.group filter.condition, .group search.condition])
  | false, true => some filter.condition
  | true, false => some search.condition
  | true, true => none

theorem whereClause_eq (filter search : Clause) :
    whereClause filter search =
      match restriction? filter search with
      | some c => "WHERE " ++ c.text
      | none => "" := by
  unfold whereClause restriction?
  cases filter.isEmpty with
  | false =>
    cases search.isEmpty with
    | false =>
      apply String.toList_injective
      simp [Clause.text_eq, Condition.text, Condition.texts, Text.join, Connective.joiner]
    | true => rfl
  | true =>
    cases search.isEmpty with
    | false => rfl
    | true => rfl

/-- What holds of the atomic predicates of both clauses holds of those of the restriction. -/
theorem forall_atoms_of_restriction? {p : Atom → Prop} {c : Condition}
    (hfilter : ∀ a ∈ filter.condition.atoms, p a) (hsearch : ∀ a ∈ search.condition.atoms, p a)
    (hc : restriction? filter search = some c) : ∀ a ∈ c.atoms, p a := by
  unfold restriction? at hc
  split at hc
  · cases hc
    intro a ha
    have hcases : a ∈ filter.condition.atoms ∨ a ∈ search.condition.atoms := by
      simpa [Condition.atoms, Condition.atomsOf] using ha
    rcases hcases with hleft | hright
    · exact hfilter a hleft
    · exact hsearch a hright
  · cases hc
    exact hfilter
  · cases hc
    exact hsearch
  · cases hc

def whereTokens (filter search : Clause) : List Token :=
  match restriction? filter search with
  | some c => .keyword .where :: c.tokens
  | none => []

theorem lexes_whereClause (hfilter : ∀ a ∈ filter.condition.atoms, a.IsWritable)
    (hsearch : ∀ a ∈ search.condition.atoms, a.IsWritable) :
    Lexes breaks (whereClause filter search) (whereTokens filter search) := by
  have hwhere : Lexes anything "WHERE " [.keyword .where] := fun _ _ => rfl
  rw [whereClause_eq, whereTokens]
  cases hc : restriction? filter search with
  | none => exact Lexes.nil
  | some c =>
    exact hwhere.open_append (lexes_condition (forall_atoms_of_restriction? hfilter hsearch hc))

/-! ### Reading -/

def Expr.always : Expr := .chain .and []

/-- The expression that a clause is read as; one without text always holds. -/
def Expr.ofClause? (text : String) : Option Expr :=
  if text = "" then some .always else Expr.ofText? text

/-- The expression that a `WHERE` clause is read as; without the keyword all rows are selected. -/
def Expr.ofRestriction? (text : String) : Option Expr :=
  match lex text with
  | [] => some .always
  | .keyword .where :: ts => read .operand [] .start ts
  | _ => none

theorem ofClause?_of_nil {clause : Clause} (h : clause.conditions = []) :
    Expr.ofClause? clause.text = some .always := by
  have htext : clause.text = "" := by
    rw [Clause.text, h]
    rfl
  rw [Expr.ofClause?, if_pos htext]

theorem ofClause?_of_ne_nil {clause : Clause} (hreadable : clause.IsReadable)
    (h : clause.conditions ≠ []) : Expr.ofClause? clause.text = some clause.reading := by
  rw [Expr.ofClause?, if_neg (fun htext => h (hreadable.text_eq_empty_iff.mp htext)),
    hreadable.ofText?_text h]

/-- The text after the keyword is read as the condition of the restriction. -/
theorem ofRestriction?_eq_ofText? (hfilter : filter.IsReadable) (hsearch : search.IsReadable)
    {c : Condition} (hc : restriction? filter search = some c) :
    Expr.ofRestriction? (whereClause filter search) = Expr.ofText? c.text := by
  have hleft := hfilter.isWritable_of_mem_atoms
  have hright := hsearch.isWritable_of_mem_atoms
  have hcondition := lexes_condition (forall_atoms_of_restriction? hleft hright hc)
  rw [Expr.ofRestriction?, (lexes_whereClause hleft hright).lex_eq, whereTokens, hc, Expr.ofText?,
    hcondition.lex_eq]

theorem whereClause_eq_empty_iff :
    whereClause filter search = "" ↔ filter.conditions = [] ∧ search.conditions = [] := by
  rw [whereClause_eq, restriction?, Clause.isEmpty, Clause.isEmpty]
  cases filter.conditions with
  | cons _ _ => cases search.conditions <;> simp
  | nil => cases search.conditions <;> simp

theorem ofRestriction?_of_both (hfilter : filter.IsReadable) (hsearch : search.IsReadable)
    (hf : filter.conditions ≠ []) (hs : search.conditions ≠ []) :
    Expr.ofRestriction? (whereClause filter search) =
      some (.chain .and [filter.reading, search.reading]) := by
  have hc : restriction? filter search =
      some (.chain .and [.group filter.condition, .group search.condition]) := by
    rw [restriction?, Clause.isEmpty_eq_false_iff.mpr hf, Clause.isEmpty_eq_false_iff.mpr hs]
  have hfits : (Condition.chain .and
      [.group filter.condition, .group search.condition]).Fits .or := by
    apply Condition.Fits.chain .and (List.cons_ne_nil _ _)
    intro part hpart
    have hcases : part = .group filter.condition ∨ part = .group search.condition := by
      simpa using hpart
    rcases hcases with rfl | rfl
    · exact .group .and (Condition.Fits.chain filter.connective hf hfilter.fits)
    · exact .group .and (Condition.Fits.chain search.connective hs hsearch.fits)
  rw [ofRestriction?_eq_ofText? hfilter hsearch hc, ofText?_condition hfits
    (forall_atoms_of_restriction? hfilter.isWritable_of_mem_atoms
      hsearch.isWritable_of_mem_atoms hc)]
  rfl

/-- A restriction is read as both clauses are, joined by `AND`.  A clause without conditions changes
nothing, and without any condition there is not even the keyword. -/
theorem ofRestriction?_whereClause (hfilter : filter.IsReadable) (hsearch : search.IsReadable) :
    ∃ f s e, Expr.ofClause? filter.text = some f ∧ Expr.ofClause? search.text = some s ∧
      Expr.ofRestriction? (whereClause filter search) = some e ∧
      (∀ value, e.eval value = (f.eval value).and (s.eval value)) ∧
      (filter.conditions ≠ [] → search.conditions ≠ [] → e = .chain .and [f, s]) := by
  by_cases hf : filter.conditions = []
  · by_cases hs : search.conditions = []
    · refine ⟨.always, .always, .always, ofClause?_of_nil hf, ofClause?_of_nil hs, ?_, ?_, ?_⟩
      · rw [whereClause_eq_empty_iff.mpr ⟨hf, hs⟩]
        rfl
      · exact fun _ => rfl
      · exact fun hne => absurd hf hne
    · have hc : restriction? filter search = some search.condition := by
        rw [restriction?, Clause.isEmpty_iff.mpr hf, Clause.isEmpty_eq_false_iff.mpr hs]
      refine ⟨.always, search.reading, search.reading, ofClause?_of_nil hf,
        ofClause?_of_ne_nil hsearch hs, ?_, ?_, ?_⟩
      · rw [ofRestriction?_eq_ofText? hfilter hsearch hc]
        exact hsearch.ofText?_text hs
      · exact fun _ => rfl
      · exact fun hne => absurd hf hne
  · by_cases hs : search.conditions = []
    · have hc : restriction? filter search = some filter.condition := by
        rw [restriction?, Clause.isEmpty_eq_false_iff.mpr hf, Clause.isEmpty_iff.mpr hs]
      refine ⟨filter.reading, .always, filter.reading, ofClause?_of_ne_nil hfilter hf,
        ofClause?_of_nil hs, ?_, ?_, ?_⟩
      · rw [ofRestriction?_eq_ofText? hfilter hsearch hc]
        exact hfilter.ofText?_text hf
      · exact fun value => (Connective.and.apply_unit (filter.reading.eval value)).symm
      · exact fun _ hne => absurd hs hne
    · refine ⟨filter.reading, search.reading, .chain .and [filter.reading, search.reading],
        ofClause?_of_ne_nil hfilter hf, ofClause?_of_ne_nil hsearch hs,
        ofRestriction?_of_both hfilter hsearch hf hs, ?_, ?_⟩
      · intro value
        rw [Expr.eval, Expr.evals, Expr.evals, Expr.evals, Connective.combine_cons,
          Connective.combine_singleton]
        rfl
      · exact fun _ _ => rfl

end DatasetSearch.Sql
