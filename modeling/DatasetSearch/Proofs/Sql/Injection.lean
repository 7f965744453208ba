import DatasetSearch.Proofs.Provenance
import DatasetSearch.Proofs.Sql.Restriction

/-!
# Requests cannot write SQL

Both statements of a plan are cut into tokens completely.  Apart from the fixed vocabulary, numbers
and the words of the table name, which comes from the configuration, they consist of delimited names
of allowed columns and of literals that hold the texts of the request as they were given.
-/

namespace DatasetSearch.Sql

/-! ### The tokens of a plan -/

def tableTokens (table : TableName) : List Token :=
  [.symbol .point].intercalate (table.segments.map (fun segment => [wordToken segment]))

theorem lexes_segment {segment : List Char} (h : TableName.isSegment segment = true) :
    Lexes endsWord (String.ofList segment) [wordToken (String.ofList segment)] := by
  cases segment with
  | nil => cases h
  | cons first more =>
    rw [TableName.isSegment, Bool.and_eq_true] at h
    exact lexes_word h.1 (fun c hc => List.all_eq_true.mp h.2 c hc)

theorem lexes_tableName {raw : String} {table : TableName}
    (h : TableName.parse? raw = some table) : Lexes breaks table.text (tableTokens table) := by
  have hsegment : ∀ segment ∈ table.segments, Lexes endsWord segment [wordToken segment] := by
    unfold TableName.parse? at h
    simp only at h
    split at h
    · next hvalid =>
      cases h
      intro segment hmem
      obtain ⟨chars, hchars, rfl⟩ := List.mem_map.mp hmem
      exact lexes_segment (List.all_eq_true.mp hvalid.2 chars hchars)
    · cases h
  have htable : Lexes endsWord (Text.join "." (table.segments.map id)) (tableTokens table) :=
    lexes_point.join (fun _ => rfl) hsegment
  rw [List.map_id] at htable
  exact htable.weaken endsWord_of_breaks

/-- The tokens of a page's end: its order and its bounds. -/
def pageTokens (order : String) (pagination : Pagination) : List Token :=
  [.keyword .order, .keyword .by, .identifier order, .keyword .limit,
    .number (toString pagination.pageSize.toNat), .keyword .offset,
    .number (toString pagination.offset.toNat)]

def countTokens (table : TableName) (filter search : Clause) : List Token :=
  [.keyword .select, .keyword .count, .symbol .opening, .symbol .star, .symbol .closing,
    .keyword .as, .keyword .totalCount, .keyword .from] ++ tableTokens table ++
    whereTokens filter search

def dataTokens (table : TableName) (filter search : Clause) (order : String)
    (pagination : Pagination) : List Token :=
  [.keyword .select, .symbol .star, .keyword .from] ++ tableTokens table ++
    whereTokens filter search ++ pageTokens order pagination

theorem lexes_page {order : String} (horder : isDelimited order.toList = false)
    (pagination : Pagination) :
    Lexes breaks
      (" ORDER BY " ++ quoteIdentifier order ++ " LIMIT " ++
        toString pagination.pageSize.toNat ++ " OFFSET " ++ toString pagination.offset.toNat)
      (pageTokens order pagination) := by
  have hby : Lexes anything " ORDER BY " [.keyword .order, .keyword .by] := fun _ _ => rfl
  have hlimit : Lexes anything " LIMIT " [.keyword .limit] := fun _ _ => rfl
  have hoffset : Lexes anything " OFFSET " [.keyword .offset] := fun _ _ => rfl
  have hsize := lexes_number (isNumeral_nat pagination.pageSize.toNat)
  have hstart := lexes_number (isNumeral_nat pagination.offset.toNat)
  have hleft := (hby.open_append (lexes_identifier horder)).append_break hlimit (fun _ => rfl)
  have hall := ((hleft.open_append hsize).append_break hoffset (fun _ => rfl)).open_append hstart
  exact hall

/-! ### The tokens that a request may cause -/

/-- A token of the vocabulary, a number, a word of the table name, a delimited allowed column, or a
literal that is a star or a text of the source, open at either side. -/
def Token.IsAllowed (allowlist : Allowlist) (source : String → Prop) (table : TableName) :
    Token → Prop
  | .identifier column => column ∈ allowlist.columns
  | .literal text =>
    text = "*" ∨ ∃ v, source v ∧
      (text = v ∨ text = "%" ++ v ++ "%" ∨ text = v ++ "%" ∨ text = "%" ++ v)
  | .number _ | .keyword _ | .symbol _ => True
  | .name word => word ∈ table.segments
  | .stray _ => False

section

variable {allowlist : Allowlist} {source : String → Prop} {table : TableName}

theorem mem_intercalate {α : Type} {between : List α} {pieces : List (List α)} {x : α}
    (h : x ∈ between.intercalate pieces) : x ∈ between ∨ ∃ piece ∈ pieces, x ∈ piece := by
  induction pieces with
  | nil => simp at h
  | cons piece pieces ih =>
    cases pieces with
    | nil => exact .inr ⟨piece, by simp, by simpa using h⟩
    | cons next pieces =>
      rw [List.intercalate_cons_cons, List.mem_append, List.mem_append] at h
      rcases h with (hpiece | hbetween) | hrest
      · exact .inr ⟨piece, by simp, hpiece⟩
      · exact .inl hbetween
      · rcases ih hrest with hbetween | ⟨other, hother, hmem⟩
        · exact .inl hbetween
        · exact .inr ⟨other, List.mem_cons_of_mem _ hother, hmem⟩

theorem isAllowed_literal {text : String} (h : source text) :
    (Token.literal text).IsAllowed allowlist source table :=
  .inr ⟨text, h, .inl rfl⟩

theorem isAllowed_pattern {pattern : Pattern} (h : source pattern.value) :
    (Token.literal pattern.text).IsAllowed allowlist source table := by
  obtain ⟨value, openStart, openEnd⟩ := pattern
  refine .inr ⟨value, h, ?_⟩
  cases openStart with
  | false =>
    cases openEnd with
    | false => exact .inl (by simp [Pattern.text])
    | true => exact .inr (.inr (.inl (by simp [Pattern.text])))
  | true =>
    cases openEnd with
    | false => exact .inr (.inr (.inr (by simp [Pattern.text])))
    | true => exact .inr (.inl (by simp [Pattern.text]))

theorem isAllowed_textTest {column : String} {test : List Token}
    (hcolumn : column ∈ allowlist.columns)
    (htest : ∀ t ∈ test, t.IsAllowed allowlist source table) :
    ∀ t ∈ textTokens column ++ test, t.IsAllowed allowlist source table := by
  intro t ht
  rcases List.mem_append.mp ht with hoperand | hmem
  · clear ht
    revert t
    simp [textTokens, Token.IsAllowed, hcolumn]
  · exact htest t hmem

theorem isAllowed_operand {operand : Operand}
    (h : ∀ text, operand = .text text → source text) :
    operand.token.IsAllowed allowlist source table := by
  cases operand with
  | number _ => trivial
  | flag value => cases value <;> trivial
  | text value => exact isAllowed_literal (h value rfl)
  | digits _ => trivial

theorem isAllowed_atom {a : Atom} (hempty : source "") (h : a.ComesFrom allowlist source) :
    ∀ t ∈ a.tokens, t.IsAllowed allowlist source table := by
  obtain ⟨hallowed, hgiven, -⟩ := h
  have hempty' : (Token.literal "").IsAllowed allowlist source table := isAllowed_literal hempty
  cases a with
  | compare column op operand =>
    have hcolumn := hallowed column (by simp [Atom.columns])
    have hoperand : operand.token.IsAllowed allowlist source table := by
      apply isAllowed_operand
      rintro text rfl
      exact hgiven text (by simp [Atom.texts])
    simpa [Atom.tokens, Token.IsAllowed, hcolumn] using hoperand
  | oneOf column values =>
    have hcolumn := hallowed column (by simp [Atom.columns])
    intro t ht
    simp only [Atom.tokens, List.mem_append] at ht
    rcases ht with (hhead | hvalues) | hlast
    · revert t
      simp [Token.IsAllowed, hcolumn]
    · rcases mem_intercalate hvalues with hcomma | ⟨piece, hpiece, hmem⟩
      · rw [List.mem_singleton.mp hcomma]
        trivial
      · obtain ⟨value, hvalue, rfl⟩ := List.mem_map.mp hpiece
        rw [List.mem_singleton.mp hmem]
        exact isAllowed_literal (hgiven value hvalue)
    · rw [List.mem_singleton.mp hlast]
      trivial
  | isNull column =>
    simp [Atom.tokens, Token.IsAllowed, hallowed column (by simp [Atom.columns])]
  | isNotNull column =>
    simp [Atom.tokens, Token.IsAllowed, hallowed column (by simp [Atom.columns])]
  | textIsEmpty column =>
    have hcolumn := hallowed column (by simp [Atom.columns])
    exact isAllowed_textTest hcolumn (by simpa [Token.IsAllowed] using hempty')
  | textIsNotEmpty column =>
    have hcolumn := hallowed column (by simp [Atom.columns])
    exact isAllowed_textTest hcolumn (by simpa [Token.IsAllowed] using hempty')
  | like column pattern =>
    have hcolumn := hallowed column (by simp [Atom.columns])
    have hpattern : (Token.literal pattern.text).IsAllowed allowlist source table :=
      isAllowed_pattern (hgiven pattern.value (by simp [Atom.texts]))
    exact isAllowed_textTest hcolumn (by simpa [Token.IsAllowed] using hpattern)
  | notLike column pattern =>
    have hcolumn := hallowed column (by simp [Atom.columns])
    have hpattern : (Token.literal pattern.text).IsAllowed allowlist source table :=
      isAllowed_pattern (hgiven pattern.value (by simp [Atom.texts]))
    exact isAllowed_textTest hcolumn (by simpa [Token.IsAllowed] using hpattern)
  | rowContains value =>
    have hvalue : (Token.literal value).IsAllowed allowlist source table :=
      isAllowed_literal (hgiven value (by simp [Atom.texts]))
    simpa [Atom.tokens, Token.IsAllowed] using hvalue
  | rowLacks value =>
    have hvalue : (Token.literal value).IsAllowed allowlist source table :=
      isAllowed_literal (hgiven value (by simp [Atom.texts]))
    simpa [Atom.tokens, Token.IsAllowed] using hvalue

theorem isAllowed_condition {c : Condition} (hempty : source "")
    (h : c.ComesFrom allowlist source) : ∀ t ∈ c.tokens, t.IsAllowed allowlist source table := by
  induction c with
  | atom a => exact isAllowed_atom hempty (h a (by simp [Condition.atoms]))
  | chain connective parts ih =>
    intro t ht
    rw [Condition.tokens, Condition.tokensOf_eq_map] at ht
    rcases mem_intercalate ht with hword | ⟨piece, hpiece, hmem⟩
    · rw [List.mem_singleton.mp hword]
      trivial
    · obtain ⟨part, hpart, rfl⟩ := List.mem_map.mp hpiece
      refine ih part hpart ?_ t hmem
      exact fun a ha => h a (Condition.mem_atomsOf.mpr ⟨part, hpart, ha⟩)
  | group inner ih =>
    intro t ht
    simp only [Condition.tokens, List.mem_append, List.mem_singleton] at ht
    rcases ht with (rfl | hinner) | rfl
    · trivial
    · exact ih h t hinner
    · trivial

theorem isAllowed_tableTokens {t : Token} (h : t ∈ tableTokens table) :
    t.IsAllowed allowlist source table := by
  rcases mem_intercalate h with hpoint | ⟨piece, hpiece, hmem⟩
  · rw [List.mem_singleton.mp hpoint]
    trivial
  · obtain ⟨segment, hsegment, rfl⟩ := List.mem_map.mp hpiece
    rw [List.mem_singleton.mp hmem]
    -- A segment may be a word of the vocabulary, such as a table called `text`.
    unfold wordToken
    split
    · trivial
    · exact hsegment

/-! ### Plans -/

variable {filter search : Clause}

theorem isAllowed_whereTokens (hempty : source "")
    (hfilter : filter.condition.ComesFrom allowlist source)
    (hsearch : search.condition.ComesFrom allowlist source) :
    ∀ t ∈ whereTokens filter search, t.IsAllowed allowlist source table := by
  intro t ht
  unfold whereTokens at ht
  split at ht
  · next c hc =>
    rcases List.mem_cons.mp ht with rfl | hmem
    · trivial
    · exact isAllowed_condition hempty (forall_atoms_of_restriction? hfilter hsearch hc) t hmem
  · cases ht

theorem isAllowed_front {front : List Token}
    (hfront : ∀ t ∈ front, t.IsAllowed allowlist source table) (hempty : source "")
    (hfilter : filter.condition.ComesFrom allowlist source)
    (hsearch : search.condition.ComesFrom allowlist source) :
    ∀ t ∈ front ++ tableTokens table ++ whereTokens filter search,
      t.IsAllowed allowlist source table := by
  intro t ht
  rcases List.mem_append.mp ht with hleft | hwhere
  · rcases List.mem_append.mp hleft with hmem | hsegment
    · exact hfront t hmem
    · exact isAllowed_tableTokens hsegment
  · exact isAllowed_whereTokens hempty hfilter hsearch t hwhere

theorem orderColumn_mem_or (allowlist : Allowlist) (requested : Option String) :
    orderColumn allowlist requested ∈ allowlist.columns ∨
      allowlist.columns = [] ∧ orderColumn allowlist requested = fallbackOrderColumn := by
  unfold orderColumn
  split
  · next column hcolumn =>
    exact .inl (Allowlist.contains_iff.mp (Option.filter_eq_some_iff.mp hcolumn).2)
  · cases hcolumns : allowlist.columns with
    | nil => exact .inr ⟨rfl, by simp [Allowlist.first?, hcolumns]⟩
    | cons first rest => exact .inl (by simp [Allowlist.first?, hcolumns])

theorem isDelimited_orderColumn (hplain : allowlist.IsPlain) (requested : Option String) :
    isDelimited (orderColumn allowlist requested).toList = false := by
  rcases orderColumn_mem_or allowlist requested with hmem | ⟨-, hfallback⟩
  · exact hplain.isDelimited_eq_false hmem
  · rw [hfallback]
    decide

/-- The two statements of a plan are cut into tokens by structure. -/
theorem lex_assemble {raw : String} (htable : TableName.parse? raw = some table)
    (hplain : allowlist.IsPlain)
    (hfilter : filter.condition.ComesFrom allowlist source)
    (hsearch : search.condition.ComesFrom allowlist source) (pagination : Pagination)
    (orderBy : Option String) :
    let plan := Plan.assemble table filter search pagination allowlist orderBy
    lex plan.countQuery = countTokens table filter search ∧
      lex plan.dataQuery =
        dataTokens table filter search (orderColumn allowlist orderBy) pagination := by
  have hwhere := lexes_whereClause (fun a ha => (hfilter a ha).isWritable hplain)
    (fun a ha => (hsearch a ha).isWritable hplain)
  have hselectCount : Lexes anything "SELECT COUNT(*) AS total_count FROM "
      [.keyword .select, .keyword .count, .symbol .opening, .symbol .star, .symbol .closing,
        .keyword .as, .keyword .totalCount, .keyword .from] := fun _ _ => rfl
  have hselect : Lexes anything "SELECT * FROM "
      [.keyword .select, .symbol .star, .keyword .from] := fun _ _ => rfl
  have hname := lexes_tableName htable
  intro plan
  have hcountText : plan.countQuery =
      "SELECT COUNT(*) AS total_count FROM " ++ table.text ++ " " ++ whereClause filter search :=
    rfl
  have hassoc : ∀ a b c d e f g : String,
      a ++ b ++ c ++ d ++ e ++ f ++ g = a ++ (b ++ c ++ d ++ e ++ f ++ g) := by
    intro a b c d e f g
    simp only [String.append_assoc]
  have hdataText : plan.dataQuery =
      "SELECT * FROM " ++ table.text ++ " " ++ whereClause filter search ++
        (" ORDER BY " ++ quoteIdentifier (orderColumn allowlist orderBy) ++ " LIMIT " ++
          toString pagination.pageSize.toNat ++ " OFFSET " ++
          toString pagination.offset.toNat) :=
    hassoc _ _ _ _ _ _ _
  constructor
  · have hall := (hselectCount.open_append hname).spaced hwhere
    rw [hcountText, hall.lex_eq, countTokens]
  · have hpage := lexes_page (isDelimited_orderColumn hplain orderBy) pagination
    have hglue : ∀ rest, breaks ((" ORDER BY " ++ quoteIdentifier (orderColumn allowlist orderBy) ++
        " LIMIT " ++ toString pagination.pageSize.toNat ++ " OFFSET " ++
        toString pagination.offset.toNat).toList ++ rest) = true := by
      intro rest
      simp only [String.append_assoc, String.toList_append, List.append_assoc]
      rfl
    have hall := ((hselect.open_append hname).spaced hwhere).append_break hpage hglue
    rw [hdataText, hall.lex_eq, dataTokens]

/-- A text that a request puts into a literal: the empty text, a scalar of the filter, or a
keyword. -/
def IsRequestText (spec : FilterSpec) (keywords text : String) : Prop :=
  text = "" ∨ (Json.object spec.fields).HasScalar text ∨ Search.IsKeyword keywords text

end

/-- Whatever a request holds, the statements of its plan are made of allowed tokens only.  The end of
the page names the order column, which is allowed unless there is no allowed column at all. -/
theorem isAllowed_assemble {raw : String} {table : TableName} {allowlist : Allowlist}
    (htable : TableName.parse? raw = some table) (hplain : allowlist.IsPlain)
    (presets : List Filter.Preset) (spec : FilterSpec) (keywords : String) (byColumn : Bool)
    (termJoin : Search.TermJoin) (pagination : Pagination) (orderBy : Option String) :
    let filter := Filter.compile allowlist presets spec
    let search := Search.compile keywords (if byColumn then some allowlist else none) termJoin
    let plan := Plan.assemble table filter search pagination allowlist orderBy
    let source := IsRequestText spec keywords
    (∀ t ∈ lex plan.countQuery, t.IsAllowed allowlist source table) ∧
      ∃ front order, lex plan.dataQuery = front ++ pageTokens order pagination ∧
        (∀ t ∈ front, t.IsAllowed allowlist source table) ∧
        (order ∈ allowlist.columns ∨ allowlist.columns = [] ∧ order = fallbackOrderColumn) := by
  intro filter search plan source
  have hfilter : filter.condition.ComesFrom allowlist source := by
    apply Clause.comesFrom_condition
    intro c hc
    refine (Filter.comesFrom_conditions hc).mono ?_
    intro text htext
    rcases htext with hempty | hscalar
    · exact .inl hempty
    · exact .inr (.inl hscalar)
  have hscope : ∀ a ∈ (if byColumn then some allowlist else none), a = allowlist := by
    intro a ha
    cases byColumn with
    | true => exact (Option.some.inj ha).symm
    | false => cases ha
  have hsearch : search.condition.ComesFrom allowlist source := by
    apply Clause.comesFrom_condition
    intro c hc
    refine (Search.comesFrom_conditions hscope hc).mono ?_
    exact fun text htext => .inr (.inr htext)
  obtain ⟨hcount, hdata⟩ := lex_assemble htable hplain hfilter hsearch pagination orderBy
  constructor
  · rw [hcount]
    exact isAllowed_front (by simp [Token.IsAllowed]) (.inl rfl) hfilter hsearch
  · refine ⟨_, orderColumn allowlist orderBy, hdata, ?_, orderColumn_mem_or allowlist orderBy⟩
    exact isAllowed_front (by simp [Token.IsAllowed]) (.inl rfl) hfilter hsearch

/-- Quotes, comments and a second statement in every position that a request can fill. -/
theorem isAllowed_assemble_hostile :
    TableName.parse? " main.text " = some ⟨["main", "text"]⟩ ∧
      Allowlist.IsPlain ⟨["a\"b", "'; --"]⟩ ∧
      ∀ t ∈ lex (Plan.assemble ⟨["main", "text"]⟩
          (Filter.compile ⟨["a\"b", "'; --"]⟩ Filter.Preset.all
            ⟨[("a\"bMin", .string "1' OR '1'='1"), ("'; --", .array [.string "\\'"]),
              ("operator", .string "OR 1=1")]⟩)
          (Search.compile "x'); DROP TABLE t; --, -y' /*" (some ⟨["a\"b", "'; --"]⟩) .any)
          ⟨1, 50⟩ ⟨["a\"b", "'; --"]⟩ (some "a\" DESC; --")).countQuery,
        t.IsAllowed ⟨["a\"b", "'; --"]⟩
          (IsRequestText
            ⟨[("a\"bMin", .string "1' OR '1'='1"), ("'; --", .array [.string "\\'"]),
              ("operator", .string "OR 1=1")]⟩
            "x'); DROP TABLE t; --, -y' /*")
          ⟨["main", "text"]⟩ := by
  have htable : TableName.parse? " main.text " = some ⟨["main", "text"]⟩ := by decide
  have hplain : Allowlist.IsPlain ⟨["a\"b", "'; --"]⟩ := by
    unfold Allowlist.IsPlain
    decide
  exact ⟨htable, hplain, (isAllowed_assemble htable hplain _ _ _ true _ _ _).1⟩

end DatasetSearch.Sql
