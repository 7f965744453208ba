import DatasetSearch.Proofs.Sql.Numeral

/-!
# The tokens of a condition

What the text of a condition gives when it is cut into tokens, following the structure of the
condition: each atomic predicate gives its own tokens, a chain puts a connective between its parts,
and a group stands in parentheses.  It takes that no column name carries its quotes already, and
that a number written as digits consists of digits.
-/

namespace DatasetSearch.Sql

/-! ### Induction on conditions -/

/-- What holds of the atomic predicates, of a chain when it holds of its parts, and of a group when
it holds inside, holds of every condition. -/
@[elab_as_elim, induction_eliminator]
theorem Condition.induct {motive : Condition → Prop} (atom : ∀ a, motive (.atom a))
    (chain : ∀ connective parts, (∀ part ∈ parts, motive part) → motive (.chain connective parts))
    (group : ∀ inner, motive inner → motive (.group inner)) : ∀ c, motive c
  | .atom a => atom a
  | .chain connective parts =>
    chain connective parts (fun part _ => Condition.induct atom chain group part)
  | .group inner => group inner (Condition.induct atom chain group inner)

theorem Condition.texts_eq_map (parts : List Condition) :
    Condition.texts parts = parts.map Condition.text := by
  induction parts with
  | nil => rfl
  | cons part parts ih => rw [Condition.texts, ih, List.map_cons]

mutual

def Condition.atoms : Condition → List Atom
  | .atom a => [a]
  | .chain _ parts => Condition.atomsOf parts
  | .group inner => inner.atoms

def Condition.atomsOf : List Condition → List Atom
  | [] => []
  | part :: rest => part.atoms ++ Condition.atomsOf rest

end

theorem Condition.mem_atomsOf {parts : List Condition} {a : Atom} :
    a ∈ Condition.atomsOf parts ↔ ∃ part ∈ parts, a ∈ part.atoms := by
  induction parts with
  | nil => simp [Condition.atomsOf]
  | cons part parts ih => simp [Condition.atomsOf, ih]

/-! ### Tokens by structure -/

def Operand.token : Operand → Token
  | .number value => .number value.text
  | .flag true => .keyword .true
  | .flag false => .keyword .false
  | .text value => .literal value
  | .digits value => .number value

def textTokens (column : String) : List Token :=
  [.keyword .cast, .symbol .opening, .identifier column, .keyword .as, .keyword .text,
    .symbol .closing]

def Atom.tokens : Atom → List Token
  | .compare column op operand => [.identifier column, .symbol (.comparison op), operand.token]
  | .oneOf column values =>
    [.identifier column, .keyword .in, .symbol .opening] ++
      [.symbol .comma].intercalate (values.map ([.literal ·])) ++ [.symbol .closing]
  | .isNull column => [.identifier column, .keyword .is, .keyword .null]
  | .isNotNull column => [.identifier column, .keyword .is, .keyword .not, .keyword .null]
  | .textIsEmpty column => textTokens column ++ [.symbol (.comparison .eq), .literal ""]
  | .textIsNotEmpty column => textTokens column ++ [.symbol (.comparison .ne), .literal ""]
  | .like column pattern => textTokens column ++ [.keyword .ilike, .literal pattern.text]
  | .notLike column pattern =>
    textTokens column ++ [.keyword .not, .keyword .ilike, .literal pattern.text]
  | .rowContains value =>
    [.keyword .containsText, .symbol .opening, .literal "*", .symbol .comma, .literal value,
      .symbol .closing]
  | .rowLacks value =>
    [.keyword .not, .keyword .containsText, .symbol .opening, .literal "*", .symbol .comma,
      .literal value, .symbol .closing]

def Connective.word : Connective → Keyword
  | .and => .and
  | .or => .or

mutual

def Condition.tokens : Condition → List Token
  | .atom a => a.tokens
  | .chain connective parts => [.keyword connective.word].intercalate (Condition.tokensOf parts)
  | .group inner => [.symbol .opening] ++ inner.tokens ++ [.symbol .closing]

def Condition.tokensOf : List Condition → List (List Token)
  | [] => []
  | part :: rest => part.tokens :: Condition.tokensOf rest

end

theorem Condition.tokensOf_eq_map (parts : List Condition) :
    Condition.tokensOf parts = parts.map Condition.tokens := by
  induction parts with
  | nil => rfl
  | cons part parts ih => rw [Condition.tokensOf, ih, List.map_cons]

def Clause.condition (c : Clause) : Condition := .chain c.connective c.conditions

theorem Clause.text_eq (c : Clause) : c.text = c.condition.text := rfl

/-! ### Which conditions can be written -/

def Atom.columns : Atom → List String
  | .compare column _ _ | .oneOf column _ | .isNull column | .isNotNull column
  | .textIsEmpty column | .textIsNotEmpty column | .like column _ | .notLike column _ => [column]
  | .rowContains _ | .rowLacks _ => []

/-- An operand whose digits, if it is written with digits, are some. -/
def Operand.IsFormed : Operand → Prop
  | .digits value => AreDigits value.toList
  | _ => True

/-- An atomic predicate whose operand is a token, or whose list is not empty. -/
def Atom.IsFormed : Atom → Prop
  | .compare _ _ operand => operand.IsFormed
  | .oneOf _ values => values ≠ []
  | _ => True

/-- A well-formed atomic predicate whose columns are quoted when it is written. -/
structure Atom.IsWritable (a : Atom) : Prop where
  plain : ∀ column ∈ a.columns, isDelimited column.toList = false
  formed : a.IsFormed

/-! ### Gluing -/

namespace Lexes

variable {after : List Char → Bool} {a b : String} {s t : List Token}

theorem spaced (ha : Lexes breaks a s) (hb : Lexes after b t) :
    Lexes after (a ++ " " ++ b) (s ++ t) := by
  have hblank : Lexes anything (a ++ " ") (s ++ []) := ha.append_break lexes_blank (fun _ => rfl)
  rw [List.append_nil] at hblank
  exact hblank.open_append hb

theorem parenthesized (ha : Lexes breaks a s) :
    Lexes breaks ("(" ++ a ++ ")") ([.symbol .opening] ++ s ++ [.symbol .closing]) :=
  (lexes_opening.open_append ha).append_break lexes_closing.of_anything (fun _ => rfl)

theorem join {α : Type} {separator : String} {between : List Token}
    (hseparator : Lexes anything separator between)
    (hglue : ∀ rest, after (separator.toList ++ rest) = true)
    {text : α → String} {tokens : α → List Token} {pieces : List α}
    (hpieces : ∀ piece ∈ pieces, Lexes after (text piece) (tokens piece)) :
    Lexes after (Text.join separator (pieces.map text))
      (between.intercalate (pieces.map tokens)) := by
  induction pieces with
  | nil => exact nil
  | cons piece pieces ih =>
    have hpiece := hpieces piece (by simp)
    have hrest := ih (fun other hother => hpieces other (by simp [hother]))
    cases pieces with
    | nil => simpa [Text.join] using hpiece
    | cons next pieces =>
      have hleft : Lexes anything (text piece ++ separator) (tokens piece ++ between) :=
        hpiece.append hseparator (fun rest _ => hglue rest)
      simp only [List.map_cons, Text.join, List.intercalate_cons_cons] at hrest ⊢
      exact hleft.open_append hrest

end Lexes

/-! ### The fixed texts of atomic predicates -/

theorem lexes_castOpening : Lexes anything "CAST(" [.keyword .cast, .symbol .opening] :=
  Lexes.of_scan [.keyword .cast] (.symbol .opening) (fun _ => rfl)
    (fun _ _ _ _ => rfl)

theorem lexes_castClosing :
    Lexes anything " AS TEXT)" [.keyword .as, .keyword .text, .symbol .closing] :=
  Lexes.of_scan [.keyword .as, .keyword .text] (.symbol .closing) (fun _ => rfl)
    (fun _ _ _ _ => rfl)

theorem lexes_in : Lexes anything " IN (" [.keyword .in, .symbol .opening] :=
  Lexes.of_scan [.keyword .in] (.symbol .opening) (fun _ => rfl)
    (fun _ _ _ _ => rfl)

theorem lexes_ilike : Lexes anything " ILIKE " [.keyword .ilike] := fun _ _ => rfl

theorem lexes_notIlike : Lexes anything " NOT ILIKE " [.keyword .not, .keyword .ilike] :=
  fun _ _ => rfl

theorem lexes_containsText :
    Lexes anything "CONTAINS_TEXT('*', "
      [.keyword .containsText, .symbol .opening, .literal "*", .symbol .comma] :=
  fun _ _ => rfl

theorem lexes_not : Lexes anything "NOT " [.keyword .not] := fun _ _ => rfl

theorem lexes_listComma : Lexes anything ", " [.symbol .comma] := fun _ _ => rfl

theorem lexes_joiner (connective : Connective) :
    Lexes anything connective.joiner [.keyword connective.word] := by
  cases connective <;> exact fun _ _ => rfl

theorem breaks_joiner (connective : Connective) (rest : List Char) :
    breaks (connective.joiner.toList ++ rest) = true := by
  cases connective <;> rfl

theorem lexes_isNull : Lexes breaks " IS NULL" [.keyword .is, .keyword .null] :=
  Lexes.of_word [.keyword .is] "LLUN".toList (fun _ => rfl)

theorem lexes_isNotNull :
    Lexes breaks " IS NOT NULL" [.keyword .is, .keyword .not, .keyword .null] :=
  Lexes.of_word [.keyword .is, .keyword .not] "LLUN".toList (fun _ => rfl)

theorem lexes_isEmpty : Lexes breaks " = ''" [.symbol (.comparison .eq), .literal ""] :=
  Lexes.of_literal [.symbol (.comparison .eq)] [] (fun _ => rfl)

theorem lexes_isNotEmpty : Lexes breaks " <> ''" [.symbol (.comparison .ne), .literal ""] :=
  Lexes.of_literal [.symbol (.comparison .ne)] [] (fun _ => rfl)

/-! ### Atomic predicates and conditions -/

theorem lexes_textOperand {column : String} (h : isDelimited column.toList = false) :
    Lexes anything (textOperand column) (textTokens column) := by
  have hcolumn : Lexes anything ("CAST(" ++ quoteIdentifier column ++ " AS TEXT)")
      ([.keyword .cast, .symbol .opening] ++ [.identifier column] ++
        [.keyword .as, .keyword .text, .symbol .closing]) :=
    (lexes_castOpening.open_append (lexes_identifier h)).append_break lexes_castClosing
      (fun _ => rfl)
  exact hcolumn

theorem lexes_operand {operand : Operand} (h : operand.IsFormed) :
    Lexes breaks operand.render [operand.token] := by
  cases operand with
  | number value => exact lexes_number (isNumeral_number value)
  | flag value =>
    cases value with
    | true => exact lexes_keyword .true
    | false => exact lexes_keyword .false
  | text value => exact lexes_literal value
  | digits value => exact lexes_number (AreDigits.isUnsigned h).isNumeral

theorem lexes_atom {a : Atom} (h : a.IsWritable) : Lexes breaks a.text a.tokens := by
  obtain ⟨hcolumns, hformed⟩ := h
  have hclosing : Lexes breaks ")" [.symbol .closing] := lexes_closing.of_anything
  cases a with
  | compare column op operand =>
    have hcolumn := lexes_identifier (hcolumns column (by simp [Atom.columns]))
    have hall := (hcolumn.spaced (lexes_comparison op)).spaced (lexes_operand hformed)
    exact hall
  | oneOf column values =>
    have hcolumn := lexes_identifier (hcolumns column (by simp [Atom.columns]))
    have hvalues := lexes_listComma.join (fun _ => rfl)
      (fun value (_ : value ∈ values) => lexes_literal value)
    have hlist := (hcolumn.append_break lexes_in (fun _ => rfl)).open_append hvalues
    have hall := hlist.append_break hclosing (fun _ => rfl)
    exact hall
  | isNull column =>
    have hcolumn := lexes_identifier (hcolumns column (by simp [Atom.columns]))
    have hall := hcolumn.append_break lexes_isNull (fun _ => rfl)
    exact hall
  | isNotNull column =>
    have hcolumn := lexes_identifier (hcolumns column (by simp [Atom.columns]))
    have hall := hcolumn.append_break lexes_isNotNull (fun _ => rfl)
    exact hall
  | textIsEmpty column =>
    have hcolumn := lexes_textOperand (hcolumns column (by simp [Atom.columns]))
    have hall := hcolumn.open_append lexes_isEmpty
    exact hall
  | textIsNotEmpty column =>
    have hcolumn := lexes_textOperand (hcolumns column (by simp [Atom.columns]))
    have hall := hcolumn.open_append lexes_isNotEmpty
    exact hall
  | like column pattern =>
    have hcolumn := lexes_textOperand (hcolumns column (by simp [Atom.columns]))
    have hall := (hcolumn.open_append lexes_ilike).open_append (lexes_literal pattern.text)
    rw [← pattern.literal_eq] at hall
    exact hall
  | notLike column pattern =>
    have hcolumn := lexes_textOperand (hcolumns column (by simp [Atom.columns]))
    have hall := (hcolumn.open_append lexes_notIlike).open_append (lexes_literal pattern.text)
    rw [← pattern.literal_eq] at hall
    exact hall
  | rowContains value =>
    have hvalue := lexes_containsText.open_append (lexes_literal value)
    have hall := hvalue.append_break hclosing (fun _ => rfl)
    exact hall
  | rowLacks value =>
    have hvalue := lexes_containsText.open_append (lexes_literal value)
    have hlacks := hvalue.append_break hclosing (fun _ => rfl)
    have hall := lexes_not.open_append hlacks
    exact hall

/-- The text of a condition is cut into its tokens, by structure. -/
theorem lexes_condition {c : Condition} (h : ∀ a ∈ c.atoms, a.IsWritable) :
    Lexes breaks c.text c.tokens := by
  induction c with
  | atom a => exact lexes_atom (h a (by simp [Condition.atoms]))
  | chain connective parts ih =>
    rw [Condition.text, Condition.tokens, Condition.texts_eq_map, Condition.tokensOf_eq_map]
    refine (lexes_joiner connective).join (breaks_joiner connective) ?_
    intro part hpart
    exact ih part hpart (fun a ha => h a (Condition.mem_atomsOf.mpr ⟨part, hpart, ha⟩))
  | group inner ih => exact (ih h).parenthesized

end DatasetSearch.Sql
