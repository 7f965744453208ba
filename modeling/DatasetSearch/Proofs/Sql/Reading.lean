import DatasetSearch.Proofs.Sql.Token

/-!
# Reading conditions

How a database reads the tokens of a condition.  A comparison, a test, a list and a pattern bind
tightest, then `NOT`, then `AND`, then `OR`; parentheses group.  An expression has a value in
three-valued logic once its predicates have one, and nothing is assumed of the values of the
predicates: `IS NULL` and `IS NOT NULL` on the same column are two predicates like any others.
-/

namespace DatasetSearch.Sql

/-! ### Three-valued logic -/

/-- The value of a condition on a row. -/
inductive Truth where
  | holds
  | fails
  | unknown
deriving DecidableEq, Repr

namespace Truth

def not : Truth → Truth
  | .holds => .fails
  | .fails => .holds
  | .unknown => .unknown

def and : Truth → Truth → Truth
  | .holds, t => t
  | .fails, _ => .fails
  | .unknown, .fails => .fails
  | .unknown, _ => .unknown

def or : Truth → Truth → Truth
  | .fails, t => t
  | .holds, _ => .holds
  | .unknown, .holds => .holds
  | .unknown, _ => .unknown

theorem eq_of_holds_iff_of_fails_iff {a b : Truth} (hholds : a = .holds ↔ b = .holds)
    (hfails : a = .fails ↔ b = .fails) : a = b := by
  cases a <;> cases b <;> simp_all

end Truth

namespace Connective

def apply : Connective → Truth → Truth → Truth
  | .and => Truth.and
  | .or => Truth.or

/-- The value that a connective ignores. -/
def unit : Connective → Truth
  | .and => .holds
  | .or => .fails

def combine (connective : Connective) (values : List Truth) : Truth :=
  values.foldr connective.apply connective.unit

theorem apply_assoc (connective : Connective) (a b c : Truth) :
    connective.apply (connective.apply a b) c = connective.apply a (connective.apply b c) := by
  cases connective <;> cases a <;> cases b <;> cases c <;> rfl

theorem unit_apply (connective : Connective) (a : Truth) :
    connective.apply connective.unit a = a := by
  cases connective <;> rfl

theorem apply_unit (connective : Connective) (a : Truth) :
    connective.apply a connective.unit = a := by
  cases connective <;> cases a <;> rfl

@[simp] theorem combine_singleton (connective : Connective) (a : Truth) :
    connective.combine [a] = a :=
  connective.apply_unit a

theorem combine_cons (connective : Connective) (a : Truth) (values : List Truth) :
    connective.combine (a :: values) = connective.apply a (connective.combine values) := rfl

theorem combine_append (connective : Connective) (first second : List Truth) :
    connective.combine (first ++ second) =
      connective.apply (connective.combine first) (connective.combine second) := by
  induction first with
  | nil => exact (connective.unit_apply _).symm
  | cons a first ih => rw [List.cons_append, combine_cons, combine_cons, ih, apply_assoc]

theorem combine_flatMap {α : Type} (connective : Connective) (f : α → List Truth)
    (pieces : List α) :
    connective.combine (pieces.flatMap f) =
      connective.combine (pieces.map (fun piece => connective.combine (f piece))) := by
  induction pieces with
  | nil => rfl
  | cons piece pieces ih =>
    rw [List.flatMap_cons, combine_append, ih, List.map_cons, combine_cons]

/-- A value joined with itself is itself. -/
theorem combine_eq_of_forall_eq {connective : Connective} {values : List Truth} {a : Truth}
    (hne : values ≠ []) (h : ∀ value ∈ values, value = a) : connective.combine values = a := by
  induction values with
  | nil => exact absurd rfl hne
  | cons value values ih =>
    obtain ⟨rfl, hrest⟩ := List.forall_mem_cons.mp h
    by_cases hnil : values = []
    · rw [hnil, combine_singleton]
    · rw [combine_cons, ih hnil hrest]
      cases connective <;> cases value <;> rfl

theorem combine_and_eq_holds_iff {values : List Truth} :
    Connective.and.combine values = .holds ↔ ∀ value ∈ values, value = .holds := by
  induction values with
  | nil => simp [combine, unit]
  | cons value values ih =>
    rw [combine_cons, List.forall_mem_cons, ← ih]
    cases value <;> cases Connective.and.combine values <;> simp [apply, Truth.and]

theorem combine_and_eq_fails_iff {values : List Truth} :
    Connective.and.combine values = .fails ↔ .fails ∈ values := by
  induction values with
  | nil => simp [combine, unit]
  | cons value values ih =>
    rw [combine_cons, List.mem_cons, ← ih]
    cases value <;> cases Connective.and.combine values <;> simp [apply, Truth.and]

theorem combine_or_eq_holds_iff {values : List Truth} :
    Connective.or.combine values = .holds ↔ .holds ∈ values := by
  induction values with
  | nil => simp [combine, unit]
  | cons value values ih =>
    rw [combine_cons, List.mem_cons, ← ih]
    cases value <;> cases Connective.or.combine values <;> simp [apply, Truth.or]

theorem combine_or_eq_fails_iff {values : List Truth} :
    Connective.or.combine values = .fails ↔ ∀ value ∈ values, value = .fails := by
  induction values with
  | nil => simp [combine, unit]
  | cons value values ih =>
    rw [combine_cons, List.forall_mem_cons, ← ih]
    cases value <;> cases Connective.or.combine values <;> simp [apply, Truth.or]

/-- What a connective makes of some values depends neither on their order nor on how often each
occurs. -/
theorem combine_eq_of_mem_iff {connective : Connective} {first second : List Truth}
    (h : ∀ value, value ∈ first ↔ value ∈ second) :
    connective.combine first = connective.combine second := by
  cases connective with
  | and =>
    refine Truth.eq_of_holds_iff_of_fails_iff ?_ ?_
    · simp only [combine_and_eq_holds_iff, h]
    · simp only [combine_and_eq_fails_iff, h]
  | or =>
    refine Truth.eq_of_holds_iff_of_fails_iff ?_ ?_
    · simp only [combine_or_eq_holds_iff, h]
    · simp only [combine_or_eq_fails_iff, h]

end Connective

/-! ### Expressions -/

/-- What a predicate is about: a column, or a column read as text. -/
inductive Subject where
  | column (name : String)
  | asText (name : String)
deriving DecidableEq, Repr

inductive Value where
  | number (digits : String)
  | text (text : String)
  | truth (value : Bool)
deriving DecidableEq, Repr

/-- A predicate that does not consist of others. -/
inductive Predicate where
  | compare (subject : Subject) (op : Comparison) (value : Value)
  | oneOf (subject : Subject) (values : List Value)
  | isNull (subject : Subject)
  | isNotNull (subject : Subject)
  | like (subject : Subject) (pattern : String)
  | notLike (subject : Subject) (pattern : String)
  | contains (scope : String) (text : String)
deriving DecidableEq, Repr

/-- An expression as it is read. -/
inductive Expr where
  | predicate (p : Predicate)
  | not (e : Expr)
  | chain (connective : Connective) (parts : List Expr)

def Predicate.columns : Predicate → List String
  | .compare subject _ _ | .oneOf subject _ | .isNull subject | .isNotNull subject
  | .like subject _ | .notLike subject _ =>
    match subject with
    | .column name | .asText name => [name]
  | .contains _ _ => []

namespace Expr

mutual

def columns : Expr → List String
  | .predicate p => p.columns
  | .not e => columns e
  | .chain _ parts => columnsOf parts

def columnsOf : List Expr → List String
  | [] => []
  | part :: rest => columns part ++ columnsOf rest

end

variable (value : Predicate → Truth)

mutual

def eval : Expr → Truth
  | .predicate p => value p
  | .not e => (eval e).not
  | .chain connective parts => connective.combine (evals parts)

def evals : List Expr → List Truth
  | [] => []
  | part :: rest => eval part :: evals rest

end

theorem evals_eq_map (parts : List Expr) : evals value parts = parts.map (eval value) := by
  induction parts with
  | nil => rfl
  | cons part parts ih => rw [evals, ih, List.map_cons]

/-- The expressions joined by a connective; one expression stands for itself. -/
def join (connective : Connective) : List Expr → Expr
  | [e] => e
  | parts => .chain connective parts

def ofProducts (products : List (List Expr)) : Expr := join .or (products.map (join .and))

theorem eval_join (connective : Connective) (parts : List Expr) :
    (join connective parts).eval value = connective.combine (parts.map (eval value)) := by
  unfold join
  split
  · next e => rw [List.map_cons, List.map_nil, Connective.combine_singleton]
  · rw [eval, evals_eq_map]

theorem eval_ofProducts (products : List (List Expr)) :
    (ofProducts products).eval value =
      Connective.or.combine
        (products.map (fun factors => Connective.and.combine (factors.map (eval value)))) := by
  rw [ofProducts, eval_join, List.map_map]
  congr 1
  apply List.map_congr_left
  intro factors _
  exact eval_join value .and factors

def negated : Nat → Expr → Expr
  | 0, e => e
  | n + 1, e => .not (negated n e)

end Expr

/-! ### The reader -/

def Value.ofToken? : Token → Option Value
  | .number digits => some (.number digits)
  | .literal word => some (.text word)
  | .keyword .true => some (.truth true)
  | .keyword .false => some (.truth false)
  | _ => none

/-- What has been read inside one pair of parentheses: the finished products, the factors of the
current one, and the negations of the factor to come. -/
structure Level where
  products : List (List Expr)
  factors : List Expr
  negations : Nat

namespace Level

def start : Level := ⟨[], [], 0⟩

def negate (l : Level) : Level := { l with negations := l.negations + 1 }

def push (l : Level) (e : Expr) : Level := ⟨l.products, l.factors ++ [e.negated l.negations], 0⟩

def alternative (l : Level) : Level := ⟨l.products ++ [l.factors], [], 0⟩

def expr (l : Level) : Expr := .ofProducts (l.products ++ [l.factors])

end Level

/-- What may come next: an operand, a connective, the test on a subject, or more of a list. -/
inductive Place where
  | operand
  | connective
  | test (subject : Subject)
  | values (subject : Subject) (read : List Value)

/-- Reads tokens, with the levels of the parentheses that are open around the current one. -/
def read : Place → List Level → Level → List Token → Option Expr
  | .operand, outer, level, .keyword .not :: ts => read .operand outer level.negate ts
  | .operand, outer, level, .symbol .opening :: ts => read .operand (level :: outer) .start ts
  | .operand, outer, level, .identifier name :: ts => read (.test (.column name)) outer level ts
  | .operand, outer, level,
      .keyword .cast :: .symbol .opening :: .identifier name :: .keyword .as :: .keyword .text ::
        .symbol .closing :: ts =>
    read (.test (.asText name)) outer level ts
  | .operand, outer, level,
      .keyword .containsText :: .symbol .opening :: .literal scope :: .symbol .comma ::
        .literal text :: .symbol .closing :: ts =>
    read .connective outer (level.push (.predicate (.contains scope text))) ts
  | .test subject, outer, level, .symbol (.comparison op) :: t :: ts =>
    match Value.ofToken? t with
    | some value => read .connective outer (level.push (.predicate (.compare subject op value))) ts
    | none => none
  | .test subject, outer, level, .keyword .is :: .keyword .null :: ts =>
    read .connective outer (level.push (.predicate (.isNull subject))) ts
  | .test subject, outer, level, .keyword .is :: .keyword .not :: .keyword .null :: ts =>
    read .connective outer (level.push (.predicate (.isNotNull subject))) ts
  | .test subject, outer, level, .keyword .ilike :: .literal pattern :: ts =>
    read .connective outer (level.push (.predicate (.like subject pattern))) ts
  | .test subject, outer, level, .keyword .not :: .keyword .ilike :: .literal pattern :: ts =>
    read .connective outer (level.push (.predicate (.notLike subject pattern))) ts
  | .test subject, outer, level, .keyword .in :: .symbol .opening :: ts =>
    read (.values subject []) outer level ts
  | .values subject values, outer, level, t :: .symbol .comma :: ts =>
    match Value.ofToken? t with
    | some value => read (.values subject (values ++ [value])) outer level ts
    | none => none
  | .values subject values, outer, level, t :: .symbol .closing :: ts =>
    match Value.ofToken? t with
    | some value =>
      read .connective outer (level.push (.predicate (.oneOf subject (values ++ [value])))) ts
    | none => none
  | .connective, outer, level, .keyword .and :: ts => read .operand outer level ts
  | .connective, outer, level, .keyword .or :: ts => read .operand outer level.alternative ts
  | .connective, next :: outer, level, .symbol .closing :: ts =>
    read .connective outer (next.push level.expr) ts
  | .connective, [], level, [] => some level.expr
  | _, _, _, _ => none

def Expr.ofText? (text : String) : Option Expr := read .operand [] .start (lex text)

/-- `NOT` takes one predicate, and `AND` binds more than `OR`. -/
example :
    Expr.ofText? "\"a\" IS NULL OR NOT \"b\" > 1 AND (\"c\" = 'x' OR \"c\" IN ('y', 'z'))" =
      some (.chain .or
        [.predicate (.isNull (.column "a")),
          .chain .and
            [.not (.predicate (.compare (.column "b") .gt (.number "1"))),
              .chain .or
                [.predicate (.compare (.column "c") .eq (.text "x")),
                  .predicate (.oneOf (.column "c") [.text "y", .text "z"])]]]) := by
  rfl

end DatasetSearch.Sql
