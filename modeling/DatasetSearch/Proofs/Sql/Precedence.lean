import DatasetSearch.Proofs.Sql.ConditionTokens
import DatasetSearch.Proofs.Sql.Reading

/-!
# Conditions are read as they are built

A condition says itself where it carries parentheses.  `Fits` says where that is enough: a chain
with `AND` may stand anywhere, a chain with `OR` only where no `AND` can take its parts away.  Such
a condition is read back with the value that its structure has.
-/

namespace DatasetSearch.Sql

/-! ### The expression that a condition is meant to be -/

def Operand.value : Operand → Value
  | .number n => .number n.text
  | .flag b => .truth b
  | .text s => .text s
  | .digits s => .number s

def Atom.expr : Atom → Expr
  | .compare column op operand => .predicate (.compare (.column column) op operand.value)
  | .oneOf column values => .predicate (.oneOf (.column column) (values.map .text))
  | .isNull column => .predicate (.isNull (.column column))
  | .isNotNull column => .predicate (.isNotNull (.column column))
  | .textIsEmpty column => .predicate (.compare (.asText column) .eq (.text ""))
  | .textIsNotEmpty column => .predicate (.compare (.asText column) .ne (.text ""))
  | .like column pattern => .predicate (.like (.asText column) pattern.text)
  | .notLike column pattern => .predicate (.notLike (.asText column) pattern.text)
  | .rowContains value => .predicate (.contains "*" value)
  | .rowLacks value => .not (.predicate (.contains "*" value))

mutual

/-- The expression with the structure of a condition. -/
def Condition.expr : Condition → Expr
  | .atom a => a.expr
  | .chain connective parts => .chain connective (Condition.exprs parts)
  | .group inner => inner.expr

def Condition.exprs : List Condition → List Expr
  | [] => []
  | part :: rest => part.expr :: Condition.exprs rest

end

theorem Condition.exprs_eq_map (parts : List Condition) :
    Condition.exprs parts = parts.map Condition.expr := by
  induction parts with
  | nil => rfl
  | cons part parts ih => rw [Condition.exprs, ih, List.map_cons]

mutual

/-- The products of factors that a condition is read as. -/
def Condition.products : Condition → List (List Expr)
  | .atom a => [[a.expr]]
  | .chain .and parts => [(Condition.productsOf parts).flatten]
  | .chain .or parts => Condition.productsOf parts
  | .group inner => [[.ofProducts inner.products]]

def Condition.productsOf : List Condition → List (List Expr)
  | [] => []
  | part :: rest => part.products ++ Condition.productsOf rest

end

theorem Condition.productsOf_eq_flatMap (parts : List Condition) :
    Condition.productsOf parts = parts.flatMap Condition.products := by
  induction parts with
  | nil => rfl
  | cons part parts ih => rw [Condition.productsOf, ih, List.flatMap_cons]

/-! ### Where a condition may stand -/

/-- A condition that may stand between two of a connective. -/
inductive Condition.Fits : Connective → Condition → Prop
  | atom (within : Connective) (a : Atom) : Fits within (.atom a)
  | group (within : Connective) {inner : Condition} (h : Fits .or inner) :
      Fits within (.group inner)
  | conjunction (within : Connective) {parts : List Condition} (hne : parts ≠ [])
      (h : ∀ part ∈ parts, Fits .and part) : Fits within (.chain .and parts)
  | disjunction {parts : List Condition} (hne : parts ≠ []) (h : ∀ part ∈ parts, Fits .or part) :
      Fits .or (.chain .or parts)

namespace Condition.Fits

variable {within : Connective} {c : Condition}

theorem anywhere (h : c.Fits .and) (within : Connective) : c.Fits within := by
  cases h with
  | atom _ a => exact .atom within a
  | group _ h => exact .group within h
  | conjunction _ hne h => exact .conjunction within hne h

/-- A nonempty chain of conditions that may stand anywhere. -/
theorem chain (connective : Connective) {parts : List Condition} (hne : parts ≠ [])
    (h : ∀ part ∈ parts, part.Fits .and) : (Condition.chain connective parts).Fits .or := by
  cases connective with
  | and => exact .conjunction .or hne h
  | or => exact .disjunction hne (fun part hpart => (h part hpart).anywhere .or)

/-- Between two `AND` stands a single product. -/
theorem products_eq_singleton (h : c.Fits .and) : ∃ factors, c.products = [factors] := by
  cases h with
  | atom _ a => exact ⟨_, rfl⟩
  | group _ h => exact ⟨_, rfl⟩
  | conjunction _ hne h => exact ⟨_, rfl⟩

theorem products_ne_nil (h : c.Fits within) : c.products ≠ [] := by
  induction h with
  | atom _ a => exact List.cons_ne_nil _ _
  | group _ _ _ => exact List.cons_ne_nil _ _
  | conjunction _ _ _ _ => exact List.cons_ne_nil _ _
  | @disjunction parts hne _ ih =>
    intro hnil
    cases parts with
    | nil => exact hne rfl
    | cons part parts =>
      rw [Condition.products, Condition.productsOf, List.append_eq_nil_iff] at hnil
      exact ih part (by simp) hnil.1

end Condition.Fits

/-- An atomic predicate, or a group whose inside is read as it is built. -/
def Condition.IsClosed : Condition → Prop
  | .atom _ => True
  | .chain _ _ => False
  | .group inner => inner.Fits .or

namespace Condition

theorem IsClosed.fits {c : Condition} (h : c.IsClosed) : c.Fits .and := by
  cases c with
  | atom a => exact .atom .and a
  | chain _ _ => exact h.elim
  | group inner => exact .group .and h

theorem IsClosed.products_eq {c : Condition} (h : c.IsClosed) : ∃ e, c.products = [[e]] := by
  cases c with
  | atom a => exact ⟨_, rfl⟩
  | chain _ _ => exact h.elim
  | group inner => exact ⟨_, rfl⟩

theorem isClosed_pair (connective : Connective) (left right : Atom) :
    (Condition.pair connective left right).IsClosed := by
  apply Fits.chain connective (List.cons_ne_nil _ _)
  simp [Fits.atom]

end Condition

/-! ### Levels -/

namespace Level

def extend (l : Level) : List (List Expr) → Level
  | [] => l
  | [factors] => ⟨l.products, l.factors ++ factors, 0⟩
  | factors :: next :: more =>
    (alternative ⟨l.products, l.factors ++ factors, 0⟩).extend (next :: more)

theorem extend_cons_of_ne_nil {l : Level} {factors : List Expr} {more : List (List Expr)}
    (hmore : more ≠ []) :
    l.extend (factors :: more) = ((l.extend [factors]).alternative).extend more := by
  cases more with
  | nil => exact absurd rfl hmore
  | cons next more => rfl

theorem extend_append {first second : List (List Expr)} (hfirst : first ≠ [])
    (hsecond : second ≠ []) (l : Level) :
    l.extend (first ++ second) = ((l.extend first).alternative).extend second := by
  induction first generalizing l with
  | nil => exact absurd rfl hfirst
  | cons factors first ih =>
    cases first with
    | nil => exact extend_cons_of_ne_nil hsecond
    | cons next first =>
      have hrest : next :: first ++ second ≠ [] := by simp
      rw [List.cons_append, extend_cons_of_ne_nil hrest, ih (List.cons_ne_nil _ _)]
      rfl

theorem extend_factors_append (l : Level) (first second : List Expr) :
    l.extend [first ++ second] = (l.extend [first]).extend [second] := by
  simp [extend]

theorem negations_extend {l : Level} (h : l.negations = 0) (products : List (List Expr)) :
    (l.extend products).negations = 0 := by
  induction products generalizing l with
  | nil => exact h
  | cons factors products ih =>
    cases products with
    | nil => rfl
    | cons next products => exact ih rfl

theorem products_extend (l : Level) (factors : List Expr) (more : List (List Expr)) :
    (l.extend (factors :: more)).products ++ [(l.extend (factors :: more)).factors] =
      l.products ++ (l.factors ++ factors) :: more := by
  induction more generalizing l factors with
  | nil => rfl
  | cons next more ih =>
    rw [extend, ih]
    simp [alternative]

theorem expr_extend_start {products : List (List Expr)} (h : products ≠ []) :
    (start.extend products).expr = .ofProducts products := by
  cases products with
  | nil => exact absurd rfl h
  | cons factors more => rw [expr, products_extend, start, List.nil_append, List.nil_append]

theorem push_eq_extend {l : Level} (h : l.negations = 0) (e : Expr) :
    l.push e = l.extend [[e]] := by
  rw [push, h]
  rfl

end Level

/-! ### Reading atomic predicates -/

section

variable {outer : List Level} {level : Level} {ts : List Token}

theorem read_values (subject : Subject) (before : List Value) {values : List String}
    (hne : values ≠ []) :
    read (.values subject before) outer level
        ([.symbol .comma].intercalate (values.map ([.literal ·])) ++ .symbol .closing :: ts) =
      read .connective outer
        (level.push (.predicate (.oneOf subject (before ++ values.map .text)))) ts := by
  induction values generalizing before with
  | nil => exact absurd rfl hne
  | cons value values ih =>
    cases values with
    | nil => rfl
    | cons next values =>
      have hrest := ih (before ++ [.text value]) (by simp)
      rw [List.append_assoc] at hrest
      exact hrest

theorem read_atom {a : Atom} (hformed : a.IsFormed) (hlevel : level.negations = 0) :
    read .operand outer level (a.tokens ++ ts) =
      read .connective outer (level.extend [[a.expr]]) ts := by
  rw [← Level.push_eq_extend hlevel]
  cases a with
  | compare column op operand =>
    cases operand with
    | flag b => cases b <;> rfl
    | _ => rfl
  | oneOf column values =>
    rw [Atom.tokens, List.append_assoc, List.append_assoc]
    exact read_values (.column column) [] hformed
  | isNull column => rfl
  | isNotNull column => rfl
  | textIsEmpty column => rfl
  | textIsNotEmpty column => rfl
  | like column pattern => rfl
  | notLike column pattern => rfl
  | rowContains value => rfl
  | rowLacks value =>
    have hpush : level.negate.push (.predicate (.contains "*" value)) =
        level.push (.not (.predicate (.contains "*" value))) := by
      simp [Level.push, Level.negate, hlevel, Expr.negated]
    rw [Atom.expr, ← hpush]
    rfl

/-! ### Reading conditions -/

/-- The parts of a conjunction are read one after the other into the current product. -/
theorem read_conjunction {parts : List Condition} (hne : parts ≠ [])
    (hfits : ∀ part ∈ parts, part.Fits .and)
    (hread : ∀ part ∈ parts, ∀ (level : Level) (ts : List Token), level.negations = 0 →
      read .operand outer level (part.tokens ++ ts) =
        read .connective outer (level.extend part.products) ts)
    (hlevel : level.negations = 0) :
    read .operand outer level ((Condition.chain .and parts).tokens ++ ts) =
      read .connective outer (level.extend (Condition.chain .and parts).products) ts := by
  rw [Condition.tokens, Condition.tokensOf_eq_map, Condition.products,
    Condition.productsOf_eq_flatMap]
  induction parts generalizing level with
  | nil => exact absurd rfl hne
  | cons part parts ih =>
    have hpart := hread part (by simp)
    obtain ⟨factors, hfactors⟩ := (hfits part (by simp)).products_eq_singleton
    rw [hfactors] at hpart
    cases parts with
    | nil => simpa [hfactors] using hpart level ts hlevel
    | cons next parts =>
      have hrest := ih (List.cons_ne_nil _ _) (fun p hp => hfits p (by simp [hp]))
        (fun p hp => hread p (by simp [hp])) (Level.negations_extend hlevel [factors])
      rw [List.map_cons, List.map_cons, List.intercalate_cons_cons, List.append_assoc,
        List.append_assoc, hpart level _ hlevel, List.flatMap_cons, hfactors, List.flatten_append,
        List.flatten_singleton, Level.extend_factors_append]
      exact hrest

/-- The parts of a disjunction are read one after the other, each into products of its own. -/
theorem read_disjunction {parts : List Condition} (hne : parts ≠ [])
    (hproducts : ∀ part ∈ parts, part.products ≠ [])
    (hread : ∀ part ∈ parts, ∀ (level : Level) (ts : List Token), level.negations = 0 →
      read .operand outer level (part.tokens ++ ts) =
        read .connective outer (level.extend part.products) ts)
    (hlevel : level.negations = 0) :
    read .operand outer level ((Condition.chain .or parts).tokens ++ ts) =
      read .connective outer (level.extend (Condition.chain .or parts).products) ts := by
  rw [Condition.tokens, Condition.tokensOf_eq_map, Condition.products,
    Condition.productsOf_eq_flatMap]
  induction parts generalizing level with
  | nil => exact absurd rfl hne
  | cons part parts ih =>
    have hpart := hread part (by simp)
    cases parts with
    | nil => simpa using hpart level ts hlevel
    | cons next parts =>
      have hnext : (next :: parts).flatMap Condition.products ≠ [] := by
        rw [List.flatMap_cons]
        exact List.append_ne_nil_of_left_ne_nil (hproducts next (by simp)) _
      have hrest := ih (List.cons_ne_nil _ _) (fun p hp => hproducts p (by simp [hp]))
        (fun p hp => hread p (by simp [hp]))
        (show (level.extend part.products).alternative.negations = 0 from rfl)
      rw [List.map_cons, List.map_cons, List.intercalate_cons_cons, List.append_assoc,
        List.append_assoc, hpart level _ hlevel, List.flatMap_cons,
        Level.extend_append (hproducts part (by simp)) hnext]
      exact hrest

/-- A condition that may stand where it stands is read into its products. -/
theorem read_condition {within : Connective} {c : Condition} (hfits : c.Fits within)
    (hformed : ∀ a ∈ c.atoms, a.IsFormed) (hlevel : level.negations = 0) :
    read .operand outer level (c.tokens ++ ts) =
      read .connective outer (level.extend c.products) ts := by
  induction hfits generalizing outer level ts with
  | atom _ a => exact read_atom (hformed a (by simp [Condition.atoms])) hlevel
  | @group _ inner hinner ih =>
    -- The closing parenthesis makes one factor of everything that was read since the opening one.
    have hopened : read .operand outer level ((Condition.group inner).tokens ++ ts) =
        read .operand (level :: outer) .start (inner.tokens ++ .symbol .closing :: ts) := by
      simp only [Condition.tokens, List.append_assoc]
      rfl
    have hclosed : read .connective (level :: outer) (Level.start.extend inner.products)
        (.symbol .closing :: ts) =
        read .connective outer (level.push (Level.start.extend inner.products).expr) ts := rfl
    rw [hopened, ih hformed rfl, hclosed, Level.expr_extend_start hinner.products_ne_nil,
      Level.push_eq_extend hlevel]
    rfl
  | conjunction _ hne hparts ih =>
    refine read_conjunction hne hparts ?_ hlevel
    intro part hpart level ts hstart
    exact ih part hpart (fun a ha => hformed a (Condition.mem_atomsOf.mpr ⟨part, hpart, ha⟩)) hstart
  | disjunction hne hparts ih =>
    refine read_disjunction hne (fun part hpart => (hparts part hpart).products_ne_nil) ?_ hlevel
    intro part hpart level ts hstart
    exact ih part hpart (fun a ha => hformed a (Condition.mem_atomsOf.mpr ⟨part, hpart, ha⟩)) hstart

end

/-- The products of a condition have the value of its structure. -/
theorem eval_products {within : Connective} {c : Condition} (hfits : c.Fits within)
    (value : Predicate → Truth) :
    (Expr.ofProducts c.products).eval value = c.expr.eval value := by
  induction hfits with
  | atom _ a => rfl
  | group _ _ ih => exact ih
  | @conjunction _ parts _ hparts ih =>
    have hflatten : (parts.flatMap Condition.products).flatten =
        parts.flatMap (fun part => part.products.flatten) := by
      rw [List.flatMap_def, List.flatten_flatten, List.map_map, List.flatMap_def]
      rfl
    have hpart : ∀ part ∈ parts, Connective.and.combine
        (part.products.flatten.map (Expr.eval value)) = part.expr.eval value := by
      intro part hmem
      obtain ⟨factors, hfactors⟩ := (hparts part hmem).products_eq_singleton
      rw [← ih part hmem, Expr.eval_ofProducts, hfactors]
      simp
    rw [Expr.eval_ofProducts, Condition.products, Condition.productsOf_eq_flatMap, Condition.expr,
      Expr.eval, Expr.evals_eq_map, Condition.exprs_eq_map, List.map_singleton,
      Connective.combine_singleton, hflatten, List.map_flatMap, Connective.combine_flatMap,
      List.map_map]
    congr 1
    exact List.map_congr_left hpart
  | @disjunction parts _ _ ih =>
    rw [Expr.eval_ofProducts, Condition.products, Condition.productsOf_eq_flatMap, Condition.expr,
      Expr.eval, Expr.evals_eq_map, Condition.exprs_eq_map, List.map_flatMap,
      Connective.combine_flatMap, List.map_map]
    congr 1
    apply List.map_congr_left
    intro part hmem
    rw [Function.comp_apply, ← ih part hmem, Expr.eval_ofProducts]

/-- The text of a condition is read as its products. -/
theorem ofText?_condition {within : Connective} {c : Condition} (hfits : c.Fits within)
    (hwritable : ∀ a ∈ c.atoms, a.IsWritable) :
    Expr.ofText? c.text = some (.ofProducts c.products) := by
  have hread : read .operand [] .start (c.tokens ++ []) =
      read .connective [] (Level.start.extend c.products) [] :=
    read_condition hfits (fun a ha => (hwritable a ha).formed) rfl
  rw [List.append_nil] at hread
  rw [Expr.ofText?, (lexes_condition hwritable).lex_eq, hread]
  exact congrArg some (Level.expr_extend_start hfits.products_ne_nil)

/-- A chain of atomic predicates and groups is read part by part. -/
theorem ofProducts_chain (connective : Connective) {parts : List Condition}
    (hclosed : ∀ part ∈ parts, part.IsClosed) :
    Expr.ofProducts (Condition.chain connective parts).products =
      .join connective (parts.map (fun part => .ofProducts part.products)) := by
  have hproducts : Condition.productsOf parts =
      parts.map (fun part => [Expr.ofProducts part.products]) := by
    induction parts with
    | nil => rfl
    | cons part parts ih =>
      obtain ⟨e, he⟩ := (hclosed part (by simp)).products_eq
      rw [Condition.productsOf, ih (fun p hp => hclosed p (by simp [hp])), List.map_cons, he]
      rfl
  cases connective with
  | and =>
    rw [Condition.products, hproducts, ← List.flatMap_def, ← List.map_eq_flatMap]
    rfl
  | or =>
    rw [Condition.products, hproducts, Expr.ofProducts, List.map_map]
    rfl

/-! ### Reading clauses -/

theorem Clause.isEmpty_iff {clause : Clause} : clause.isEmpty = true ↔ clause.conditions = [] :=
  List.isEmpty_iff

theorem Clause.isEmpty_eq_false_iff {clause : Clause} :
    clause.isEmpty = false ↔ clause.conditions ≠ [] :=
  List.isEmpty_eq_false_iff

/-- A clause whose conditions can be written and may stand anywhere. -/
structure Clause.IsReadable (clause : Clause) : Prop where
  fits : ∀ c ∈ clause.conditions, c.Fits .and
  writable : ∀ c ∈ clause.conditions, ∀ a ∈ c.atoms, a.IsWritable

def Clause.reading (clause : Clause) : Expr := .ofProducts clause.condition.products

namespace Clause.IsReadable

variable {clause : Clause}

theorem isWritable_of_mem_atoms (h : clause.IsReadable) :
    ∀ a ∈ clause.condition.atoms, a.IsWritable := by
  intro a ha
  obtain ⟨c, hc, hatom⟩ := Condition.mem_atomsOf.mp ha
  exact h.writable c hc a hatom

theorem ofText?_text (h : clause.IsReadable) (hne : clause.conditions ≠ []) :
    Expr.ofText? clause.text = some clause.reading :=
  ofText?_condition (Condition.Fits.chain clause.connective hne h.fits) h.isWritable_of_mem_atoms

theorem eval_reading (h : clause.IsReadable) (hne : clause.conditions ≠ [])
    (value : Predicate → Truth) :
    clause.reading.eval value =
      clause.connective.combine ((clause.conditions.map Condition.expr).map (Expr.eval value)) := by
  have hfits : clause.condition.Fits .or := Condition.Fits.chain clause.connective hne h.fits
  rw [reading, eval_products hfits, condition, Condition.expr, Expr.eval, Expr.evals_eq_map,
    Condition.exprs_eq_map]

/-- Only the clause without conditions has no text. -/
theorem text_eq_empty_iff (h : clause.IsReadable) : clause.text = "" ↔ clause.conditions = [] := by
  constructor
  · intro htext
    by_cases hne : clause.conditions = []
    · exact hne
    · have hread := h.ofText?_text hne
      rw [htext] at hread
      cases hread
  · intro hnil
    rw [text, hnil]
    rfl

end Clause.IsReadable

end DatasetSearch.Sql
