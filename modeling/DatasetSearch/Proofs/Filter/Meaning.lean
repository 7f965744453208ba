import Mathlib.Data.List.Find
import DatasetSearch.Proofs.Provenance
import DatasetSearch.Proofs.Sql.Precedence
import DatasetSearch.Proofs.Text.Words

/-!
# What a filter means

The conditions that a filter asks for, said on its JSON value and without reference to how filters
are compiled, and the proof that the clause of a filter is read as these conditions, in their order,
joined by the connective of the filter.
-/

namespace DatasetSearch.Filter

open Sql

/-! ### What is asked of one column -/

def scalar? : Json → Option Value
  | .string s => some (.text s)
  | .number n => some (.number n.text)
  | .bool b => some (.truth b)
  | _ => none

def spelled? : Json → Option String
  | .string s => some s
  | .number n => some n.text
  | .bool b => some (if b then "true" else "false")
  | _ => none

/-- The text of a scalar that has one. -/
def filled? (value : Json) : Option String := (spelled? value).filter (· ≠ "")

def spelledItems : Json → List String
  | .array items => items.filterMap spelled?
  | _ => []

def compares (column : String) (op : Comparison) (value : Value) : Expr :=
  .predicate (.compare (.column column) op value)

def among? (column : String) (texts : List String) : Option Expr :=
  if texts = [] then none
  else some (.predicate (.oneOf (.column column) (texts.map .text)))

def mentions (column text : String) : Expr :=
  .predicate (.like (.asText column) ("%" ++ text ++ "%"))

def isPresent (column : String) : Expr :=
  .chain .and
    [.predicate (.isNotNull (.column column)),
      .predicate (.compare (.asText column) .ne (.text ""))]

def isAbsent (column : String) : Expr :=
  .chain .or
    [.predicate (.isNull (.column column)), .predicate (.compare (.asText column) .eq (.text ""))]

/-! ### What a filter asks for -/

/-- The columns of an industry code that fit it, as alternatives. -/
def industryAsked (allowlist : Allowlist) (text : String) : List Expr :=
  (if text.toList.all Char.isDigit ∧ ContractColumn.industryNumber ∈ allowlist.columns then
    [compares ContractColumn.industryNumber .eq (.number text)] else []) ++
  (if ContractColumn.industryText ∈ allowlist.columns then
    [mentions ContractColumn.industryText text] else [])

/-- What a preset asks for by a value that it accepts. -/
def Preset.asked? (allowlist : Allowlist) (value : Json) : Preset → Option Expr
  | .contractType => among? ContractColumn.type (spelledItems value)
  | .hasExecutionData =>
    match value with
    | .bool true => some (isPresent ContractColumn.awardId)
    | .bool false => some (isAbsent ContractColumn.awardId)
    | _ => none
  | .minAwardAmount => (scalar? value).map (compares ContractColumn.awardAmount .ge)
  | .maxAwardAmount => (scalar? value).map (compares ContractColumn.awardAmount .le)
  | .agency => (filled? value).map (mentions ContractColumn.agency)
  | .naicsCode =>
    (filled? value).bind fun text =>
      if industryAsked allowlist text = [] then none
      else some (.join .or (industryAsked allowlist text))
  | .awardee => (filled? value).map (mentions ContractColumn.awardee)
  | .pscCode => (filled? value).map (mentions ContractColumn.productOrService)
  | .awardId =>
    (filled? value).map fun text =>
      .chain .or [mentions ContractColumn.awardNumber text, mentions ContractColumn.awardId text]
  | .awardDateStart =>
    (filled? value).map (fun text => compares ContractColumn.awardDate .ge (.text text))
  | .awardDateEnd =>
    (filled? value).map (fun text => compares ContractColumn.awardDate .le (.text text))

/-- What a preset asks for if all columns of it are allowed. -/
def Preset.meaning? (allowlist : Allowlist) (value : Json) (preset : Preset) : Option Expr :=
  (preset.asked? allowlist value).filter (fun e => ∀ column ∈ e.columns, column ∈ allowlist.columns)

/-- A key that names a column: neither a reserved one nor that of an enabled preset. -/
def NamesColumn (presets : List Preset) (key : String) : Prop :=
  key ∉ ["operator", "exact_values", "dataAvailability"] ∧ ∀ preset ∈ presets, preset.key ≠ key

instance (presets : List Preset) (key : String) : Decidable (NamesColumn presets key) :=
  inferInstanceAs (Decidable (_ ∧ _))

/-- The bound that a field with the key of an allowed column and an ending asks for. -/
def boundMeaning? (allowlist : Allowlist) (presets : List Preset) (ending : String)
    (op : Comparison) (field : String × Json) : Option Expr :=
  if NamesColumn presets field.1 then
    (allowlist.columns.find? (fun column => column ++ ending = field.1)).bind fun column =>
      (scalar? field.2).map (compares column op)
  else none

/-- The list that a field with the key of an allowed column asks for. -/
def listMeaning? (allowlist : Allowlist) (presets : List Preset) (field : String × Json) :
    Option Expr :=
  if NamesColumn presets field.1 ∧ field.1 ∈ allowlist.columns then
    among? field.1 (spelledItems field.2)
  else none

def availableColumns (allowlist : Allowlist) (spec : FilterSpec) : List String :=
  match spec.get? "dataAvailability" with
  | some (.array items) => (items.filterMap Json.string?).filter (· ∈ allowlist.columns)
  | _ => []

/-- What the columns that must hold data ask for, as one group. -/
def availabilityMeaning (allowlist : Allowlist) (spec : FilterSpec) : List Expr :=
  if availableColumns allowlist spec = [] then []
  else [.chain spec.connective ((availableColumns allowlist spec).map isPresent)]

/-- The names of the operators of an exact entry, each with what it asks of a column by a value that
it accepts. -/
def operatorMeanings (column : String) (value : Json) : List (String × Option Expr) :=
  [("=", (scalar? value).map (compares column .eq)),
    ("!=", (scalar? value).map (compares column .ne)),
    (">", (scalar? value).map (compares column .gt)),
    ("<", (scalar? value).map (compares column .lt)),
    (">=", (scalar? value).map (compares column .ge)),
    ("<=", (scalar? value).map (compares column .le)),
    ("CONTAINS", (spelled? value).map (mentions column)),
    ("STARTS_WITH",
      (spelled? value).map (fun text => .predicate (.like (.asText column) (text ++ "%")))),
    ("ENDS_WITH",
      (spelled? value).map (fun text => .predicate (.like (.asText column) ("%" ++ text)))),
    ("IS_NULL", some (.predicate (.isNull (.column column)))),
    ("IS_NOT_NULL", some (.predicate (.isNotNull (.column column))))]

/-- A text is a name up to the case of its letters and the blanks around it. -/
def spells (text name : String) : Bool := Text.sameIgnoringCase (Text.trim text) name

def exactMeaning? (column : String) (entry : Json) : Option Expr :=
  match entry with
  | .null => some (.predicate (.isNull (.column column)))
  | .array _ => among? column (spelledItems entry)
  | .object fields =>
    match Fields.get? fields "operator" with
    | some (.string text) =>
      ((operatorMeanings column ((Fields.get? fields "value").getD (.string ""))).find?
        (spells text ·.1)).bind Prod.snd
    | _ => none
  | _ => (scalar? entry).map (compares column .eq)

def exactEntries (spec : FilterSpec) : Fields :=
  match spec.get? "exact_values" with
  | some (.object entries) => entries
  | _ => []

/-- The conditions that a filter asks for, in their order. -/
def meaning (allowlist : Allowlist) (presets : List Preset) (spec : FilterSpec) : List Expr :=
  presets.filterMap
      (fun preset => (spec.get? preset.key).bind (preset.meaning? allowlist ·)) ++
    spec.fields.filterMap (boundMeaning? allowlist presets "Min" .ge) ++
    spec.fields.filterMap (boundMeaning? allowlist presets "Max" .le) ++
    spec.fields.filterMap (listMeaning? allowlist presets) ++
    availabilityMeaning allowlist spec ++
    (exactEntries spec).filterMap
      (fun entry => if entry.1 ∈ allowlist.columns then exactMeaning? entry.1 entry.2 else none)

/-! ### Compiled conditions mean what was asked for -/

theorem map_value_operand? (value : Json) : (operand? value).map Operand.value = scalar? value := by
  cases value <;> rfl

theorem scalarText?_eq_spelled? : scalarText? = spelled? := by
  funext value
  cases value with
  | bool b => cases b <;> rfl
  | _ => rfl

theorem nonEmptyText?_eq_filled? : nonEmptyText? = filled? := by
  funext value
  rw [nonEmptyText?, scalarText?_eq_spelled?]
  rfl

theorem map_expr_compared (column : String) (op : Comparison) (value : Json) :
    ((operand? value).map (fun operand => Condition.atom (.compare column op operand))).map
      Condition.expr = (scalar? value).map (compares column op) := by
  rw [← map_value_operand?, Option.map_map, Option.map_map]
  rfl

theorem map_expr_oneOf? (column : String) (items : List Json) :
    (oneOf? column items).map Condition.expr = among? column (spelledItems (.array items)) := by
  unfold oneOf?
  rw [scalarText?_eq_spelled?]
  split
  · next hnone => simp [among?, spelledItems, hnone]
  · next texts hne =>
    have htexts : List.filterMap spelled? items ≠ [] := fun hnil => hne hnil
    simp [among?, spelledItems, htexts, Condition.expr, Atom.expr]

namespace Preset

variable {allowlist : Allowlist} {value : Json}

theorem map_expr_industry? :
    (naicsCode.rule? value allowlist).map Condition.expr = naicsCode.asked? allowlist value := by
  simp only [rule?, asked?]
  unfold industry?
  rw [nonEmptyText?_eq_filled?]
  cases filled? value with
  | none => rfl
  | some text =>
    have hasked : industryAsked allowlist text =
        (if (text.toList.all Char.isDigit &&
            allowlist.contains ContractColumn.industryNumber) = true then
          [compares ContractColumn.industryNumber .eq (.number text)] else []) ++
        (if allowlist.contains ContractColumn.industryText = true then
          [mentions ContractColumn.industryText text] else []) := by
      simp only [industryAsked, Allowlist.contains_iff, Bool.and_eq_true]
    simp only [Option.bind_some, hasked]
    generalize (text.toList.all Char.isDigit &&
      allowlist.contains ContractColumn.industryNumber) = byNumber
    generalize allowlist.contains ContractColumn.industryText = byText
    cases byNumber <;> cases byText <;> rfl

theorem map_expr_rule? (preset : Preset) :
    (preset.rule? value allowlist).map Condition.expr = preset.asked? allowlist value := by
  cases preset with
  | contractType =>
    cases value with
    | array items => exact map_expr_oneOf? ContractColumn.type items
    | _ => rfl
  | hasExecutionData =>
    cases value with
    | bool b => cases b <;> rfl
    | _ => rfl
  | minAwardAmount => exact map_expr_compared _ _ _
  | maxAwardAmount => exact map_expr_compared _ _ _
  | naicsCode => exact map_expr_industry?
  | _ =>
    simp only [rule?, asked?, containing?, dated?, nonEmptyText?_eq_filled?, Option.map_map]
    rfl

/-- What a preset asks for names the columns that it requires.  The industry code requires none: it
names what is allowed of its two columns. -/
theorem allowed_columns_iff {preset : Preset} {e : Expr}
    (h : preset.asked? allowlist value = some e) :
    (∀ column ∈ e.columns, column ∈ allowlist.columns) ↔
      ∀ column ∈ preset.required, column ∈ allowlist.columns := by
  cases preset with
  | contractType =>
    simp only [asked?, among?] at h
    split at h
    · cases h
    · cases h
      rfl
  | hasExecutionData =>
    simp only [asked?] at h
    split at h
    · cases h
      simp [isPresent, Expr.columns, Expr.columnsOf, Predicate.columns, required]
    · cases h
      simp [isAbsent, Expr.columns, Expr.columnsOf, Predicate.columns, required]
    · cases h
  | naicsCode =>
    obtain ⟨text, -, hsome⟩ := Option.bind_eq_some_iff.mp h
    refine ⟨fun _ column hcolumn => absurd hcolumn List.not_mem_nil, fun _ => ?_⟩
    split at hsome
    · cases hsome
    · cases hsome
      unfold industryAsked
      split
      · next hnumber =>
        split
        · next htext =>
          simp [Expr.join, Expr.columns, Expr.columnsOf, Predicate.columns, compares, mentions,
            hnumber.2, htext]
        · simp [Expr.join, Expr.columns, Predicate.columns, compares, hnumber.2]
      · split
        · next htext => simp [Expr.join, Expr.columns, Predicate.columns, mentions, htext]
        · simp [Expr.join, Expr.columns, Expr.columnsOf]
  | awardId =>
    obtain ⟨text, -, rfl⟩ := Option.map_eq_some_iff.mp h
    rfl
  | _ =>
    obtain ⟨operand, -, rfl⟩ := Option.map_eq_some_iff.mp h
    rfl

theorem map_expr_condition? (preset : Preset) :
    (preset.condition? value allowlist).map Condition.expr = preset.meaning? allowlist value := by
  unfold condition? meaning?
  cases hasked : preset.asked? allowlist value with
  | none =>
    have hnone : preset.rule? value allowlist = none := by
      rw [← Option.map_eq_none_iff, map_expr_rule?, hasked]
    split
    · rw [hnone]
      rfl
    · rfl
  | some e =>
    have hrule : (preset.rule? value allowlist).map Condition.expr = some e := by
      rw [map_expr_rule?, hasked]
    have hallowed : preset.required.all allowlist.contains = true ↔
        ∀ column ∈ e.columns, column ∈ allowlist.columns := by
      rw [allowed_columns_iff hasked, List.all_eq_true]
      simp only [Allowlist.contains_iff]
    by_cases hcolumns : preset.required.all allowlist.contains = true
    · have hkept := hallowed.mp hcolumns
      rw [if_pos hcolumns, hrule, Option.filter_some, if_pos (decide_eq_true hkept)]
    · have hlost : ¬∀ column ∈ e.columns, column ∈ allowlist.columns :=
        fun hall => hcolumns (hallowed.mpr hall)
      rw [if_neg hcolumns, Option.filter_some, if_neg (by simpa using hlost)]
      rfl

end Preset

variable {allowlist : Allowlist} {presets : List Preset} {spec : FilterSpec}

theorem isGeneric_iff {key : String} : isGeneric presets key = true ↔ NamesColumn presets key := by
  simp [isGeneric, NamesColumn, reservedKeys]

theorem dropEnd?_eq_some_iff {ending key column : String} :
    Text.dropEnd? ending key = some column ↔ column ++ ending = key := by
  unfold Text.dropEnd? Text.dropStart?
  constructor
  · intro h
    obtain ⟨rest, hrest, rfl⟩ := Option.map_eq_some_iff.mp h
    split at hrest
    · next hprefix =>
      obtain ⟨before, hbefore⟩ := List.isPrefixOf_iff_prefix.mp hprefix
      cases hrest
      apply String.toList_injective
      have hkey : key.toList = before.reverse ++ ending.toList := by
        rw [← List.reverse_reverse key.toList, ← hbefore]
        simp
      simp [hkey]
    · cases hrest
  · rintro rfl
    have hprefix : ending.toList.reverse.isPrefixOf (column ++ ending).toList.reverse = true := by
      rw [List.isPrefixOf_iff_prefix]
      exact ⟨column.toList.reverse, by simp⟩
    rw [if_pos hprefix]
    simp

/-- An allowed column is found by its name and the ending exactly if the key is made of them. -/
theorem find?_column_eq {ending key : String} :
    allowlist.columns.find? (fun column => column ++ ending = key) =
      (Text.dropEnd? ending key).filter allowlist.contains := by
  cases hdrop : Text.dropEnd? ending key with
  | none =>
    rw [List.find?_eq_none.mpr]
    · rfl
    · intro column _ hcolumn
      rw [dropEnd?_eq_some_iff.mpr (of_decide_eq_true hcolumn)] at hdrop
      cases hdrop
  | some column =>
    have hkey := dropEnd?_eq_some_iff.mp hdrop
    have hsame : ∀ other, other ++ ending = key → other = column := by
      intro other hother
      rw [dropEnd?_eq_some_iff.mpr hother] at hdrop
      exact Option.some.inj hdrop
    rw [Option.filter_some]
    by_cases hallowed : allowlist.contains column = true
    · rw [if_pos hallowed]
      cases hfind : allowlist.columns.find? (fun column => column ++ ending = key) with
      | none =>
        have hnot := List.find?_eq_none.mp hfind column (Allowlist.contains_iff.mp hallowed)
        exact absurd (decide_eq_true hkey) hnot
      | some other => rw [hsame other (by simpa using List.find?_some hfind)]
    · rw [if_neg hallowed, List.find?_eq_none]
      intro other hmem hother
      rw [hsame other (of_decide_eq_true hother)] at hmem
      exact hallowed (Allowlist.contains_iff.mpr hmem)

theorem map_expr_bound? (ending : String) (op : Comparison) (field : String × Json) :
    (bound? allowlist presets ending op field).map Condition.expr =
      boundMeaning? allowlist presets ending op field := by
  obtain ⟨key, value⟩ := field
  unfold boundMeaning?
  simp only [bound?, find?_column_eq]
  by_cases hkey : NamesColumn presets key
  · rw [if_pos (isGeneric_iff.mpr hkey), if_pos hkey]
    cases Text.dropEnd? ending key with
    | none => rfl
    | some column =>
      rw [Option.filter_some]
      by_cases hallowed : allowlist.contains column = true
      · simp only [if_pos hallowed, Option.bind_some]
        exact map_expr_compared column op value
      · simp only [if_neg hallowed]
        rfl
  · rw [if_neg (fun hgeneric => hkey (isGeneric_iff.mp hgeneric)), if_neg hkey]
    rfl

theorem map_expr_list? (field : String × Json) :
    (list? allowlist presets field).map Condition.expr =
      listMeaning? allowlist presets field := by
  obtain ⟨key, value⟩ := field
  have hkey : (isGeneric presets key = true ∧ allowlist.contains key = true) ↔
      NamesColumn presets key ∧ key ∈ allowlist.columns := by
    rw [isGeneric_iff, Allowlist.contains_iff]
  unfold listMeaning?
  cases value with
  | array items =>
    simp only [list?, hkey]
    split
    · exact map_expr_oneOf? key items
    · rfl
  | _ =>
    simp only [list?, spelledItems, among?]
    simp

theorem map_expr_availability :
    (availability allowlist spec).map Condition.expr = availabilityMeaning allowlist spec := by
  have hfilter : ∀ items : List Json,
      (items.filterMap Json.string?).filter allowlist.contains =
        (items.filterMap Json.string?).filter (· ∈ allowlist.columns) := by
    intro items
    apply List.filter_congr
    intro column _
    rw [Bool.eq_iff_iff, Allowlist.contains_iff, decide_eq_true_iff]
  unfold availability availabilityMeaning availableColumns
  generalize spec.get? "dataAvailability" = field
  cases field with
  | none => rfl
  | some value =>
    cases value with
    | array items =>
      simp only [hfilter]
      split
      · next hnone => rw [if_pos hnone, List.map_nil]
      · next columns hne =>
        rw [if_neg (fun hnil => hne hnil), List.map_singleton, Condition.expr, Condition.expr,
          Condition.exprs_eq_map, List.map_map]
        rfl
    | _ => rfl

theorem map_expr_matching? (column : String) (value : Json) {pattern : String → Pattern}
    {literal : String → String} (hpattern : ∀ text, (pattern text).text = literal text) :
    (ExactOperator.matching? column value pattern).map Condition.expr =
      (spelled? value).map (fun text => .predicate (.like (.asText column) (literal text))) := by
  unfold ExactOperator.matching?
  rw [scalarText?_eq_spelled?, Option.map_map]
  congr 1
  funext text
  rw [← hpattern]
  rfl

/-- The names are in upper case, so a text spells one of them exactly if its upper case is the
name. -/
theorem find?_spells (text column : String) (value : Json) :
    (operatorMeanings column value).find? (spells text ·.1) =
      (operatorMeanings column value).find? (Text.upper (Text.trim text) == ·.1) := by
  have hupper : ∀ name ∈ (operatorMeanings column value).map Prod.fst, Text.upper name = name := by
    change ∀ name ∈ ["=", "!=", ">", "<", ">=", "<=", "CONTAINS", "STARTS_WITH", "ENDS_WITH",
      "IS_NULL", "IS_NOT_NULL"], Text.upper name = name
    decide
  apply List.find?_congr
  intro entry hentry
  rw [Bool.eq_iff_iff, spells, ← Text.upper_eq_upper_iff,
    hupper entry.1 (List.mem_map_of_mem hentry), beq_iff_eq]

theorem map_expr_operator (text column : String) (value : Json) :
    ((ExactOperator.ofText? text).bind (·.condition? column value)).map Condition.expr =
      ((operatorMeanings column value).find? (spells text ·.1)).bind Prod.snd := by
  rw [find?_spells]
  unfold ExactOperator.ofText?
  generalize Text.upper (Text.trim text) = name
  split
  · exact map_expr_compared column .eq value
  · exact map_expr_compared column .ne value
  · exact map_expr_compared column .gt value
  · exact map_expr_compared column .lt value
  · exact map_expr_compared column .ge value
  · exact map_expr_compared column .le value
  · exact map_expr_matching? column value (fun _ => rfl)
  · exact map_expr_matching? column value (fun _ => by simp [Pattern.text])
  · exact map_expr_matching? column value (fun _ => by simp [Pattern.text])
  · rfl
  · rfl
  · have hnone : (operatorMeanings column value).find? (name == ·.1) = none := by
      simp only [operatorMeanings, List.find?_eq_none, List.forall_mem_cons, beq_iff_eq]
      and_intros <;> first | assumption | exact List.forall_mem_nil _
    rw [hnone]
    rfl

theorem map_expr_exactCondition? (column : String) (entry : Json) :
    (exactCondition? column entry).map Condition.expr = exactMeaning? column entry := by
  cases entry with
  | null => rfl
  | array items => exact map_expr_oneOf? column items
  | object fields =>
    cases hoperator : Fields.get? fields "operator" with
    | none =>
      simp only [exactCondition?, exactMeaning?, hoperator]
      rfl
    | some operator =>
      cases operator with
      | string text =>
        simp only [exactCondition?, exactMeaning?, hoperator, Option.bind_eq_bind,
          Option.bind_some, Json.string?]
        exact map_expr_operator text column _
      | _ =>
        simp only [exactCondition?, exactMeaning?, hoperator]
        rfl
  | string s => exact map_expr_compared column .eq (.string s)
  | number n => exact map_expr_compared column .eq (.number n)
  | bool b => exact map_expr_compared column .eq (.bool b)

theorem map_expr_exactConditions :
    (exactConditions allowlist spec).map Condition.expr =
      (exactEntries spec).filterMap
        (fun entry =>
          if entry.1 ∈ allowlist.columns then exactMeaning? entry.1 entry.2 else none) := by
  have hentry : ∀ entry : String × Json,
      (if allowlist.contains entry.1 then exactCondition? entry.1 entry.2 else none).map
        Condition.expr =
      if entry.1 ∈ allowlist.columns then exactMeaning? entry.1 entry.2 else none := by
    intro entry
    simp only [Allowlist.contains_iff]
    split
    · exact map_expr_exactCondition? entry.1 entry.2
    · rfl
  unfold exactConditions exactEntries
  generalize spec.get? "exact_values" = field
  cases field with
  | none => rfl
  | some value =>
    cases value with
    | object entries =>
      simp only [List.map_filterMap]
      congr 1
      funext entry
      exact hentry entry
    | _ => rfl

theorem map_expr_presetConditions :
    (presetConditions allowlist presets spec).map Condition.expr =
      presets.filterMap
        (fun preset => (spec.get? preset.key).bind (preset.meaning? allowlist ·)) := by
  unfold presetConditions
  rw [List.map_filterMap]
  congr 1
  funext preset
  rw [Option.map_bind]
  congr 1
  funext value
  exact preset.map_expr_condition?

/-- The compiled conditions have the structure of what the filter asks for. -/
theorem map_expr_conditions :
    (conditions allowlist presets spec).map Condition.expr = meaning allowlist presets spec := by
  have hbound : ∀ (ending : String) (op : Comparison),
      (spec.fields.filterMap (bound? allowlist presets ending op)).map Condition.expr =
        spec.fields.filterMap (boundMeaning? allowlist presets ending op) := by
    intro ending op
    rw [List.map_filterMap]
    congr 1
    funext field
    exact map_expr_bound? ending op field
  have hlist : (spec.fields.filterMap (list? allowlist presets)).map Condition.expr =
      spec.fields.filterMap (listMeaning? allowlist presets) := by
    rw [List.map_filterMap]
    congr 1
    funext field
    exact map_expr_list? field
  unfold conditions meaning
  rw [List.map_append, List.map_append, List.map_append, List.map_append, List.map_append,
    map_expr_presetConditions, hbound, hbound, hlist, map_expr_availability, map_expr_exactConditions]

theorem connective_eq_or_iff :
    spec.connective = .or ↔
      ∃ text, spec.get? "operator" = some (.string text) ∧ spells text "or" = true := by
  unfold FilterSpec.connective
  cases spec.get? "operator" with
  | none => simp
  | some value =>
    cases value with
    | string text =>
      have hsays : Filter.connectiveOf text = .or ↔ spells text "or" = true := by
        unfold connectiveOf spells
        split
        · next h => exact iff_of_true rfl h
        · next h => exact iff_of_false (by simp) h
      simpa [Json.string?] using hsays
    | _ => simp [Json.string?]

/-! ### Reading the clause of a filter -/

theorem isClosed_of_map {α : Type} {o : Option α} {f : α → Condition} {c : Condition}
    (h : o.map f = some c) (hf : ∀ x, (f x).IsClosed) : c.IsClosed := by
  obtain ⟨x, -, rfl⟩ := Option.map_eq_some_iff.mp h
  exact hf x

theorem isClosed_oneOf? {column : String} {items : List Json} {c : Condition}
    (h : oneOf? column items = some c) : c.IsClosed := by
  unfold oneOf? at h
  split at h
  · cases h
  · cases h
    trivial

theorem isClosed_rule? {preset : Preset} {value : Json} {c : Condition}
    (h : preset.rule? value allowlist = some c) : c.IsClosed := by
  cases preset with
  | contractType =>
    cases value with
    | array items => exact isClosed_oneOf? h
    | _ => cases h
  | hasExecutionData =>
    simp only [Preset.rule?, Preset.execution?] at h
    split at h
    · cases h
      exact Condition.isClosed_pair _ _ _
    · cases h
      exact Condition.isClosed_pair _ _ _
    · cases h
  | naicsCode =>
    simp only [Preset.rule?, Preset.industry?] at h
    split at h
    · cases h
    · split at h
      · cases h
        exact Condition.isClosed_pair _ _ _
      · cases h
        trivial
      · cases h
        trivial
      · cases h
  | awardId => exact isClosed_of_map h (fun _ => Condition.isClosed_pair _ _ _)
  | _ => exact isClosed_of_map h (fun _ => trivial)

theorem isClosed_exactCondition? {column : String} {entry : Json} {c : Condition}
    (h : exactCondition? column entry = some c) : c.IsClosed := by
  have hscalar : ∀ scalar : Json,
      (operand? scalar).map (fun operand => Condition.atom (.compare column .eq operand)) = some c →
      c.IsClosed :=
    fun _ hcondition => isClosed_of_map hcondition (fun _ => trivial)
  cases entry with
  | object fields =>
    obtain ⟨raw, -, hraw⟩ := Option.bind_eq_some_iff.mp h
    obtain ⟨op, -, hop⟩ := Option.bind_eq_some_iff.mp hraw
    cases op with
    | isNull =>
      cases hop
      trivial
    | isNotNull =>
      cases hop
      trivial
    | _ => exact isClosed_of_map hop (fun _ => trivial)
  | array items => exact isClosed_oneOf? h
  | null =>
    cases h
    trivial
  | string s => exact hscalar (.string s) h
  | number n => exact hscalar (.number n) h
  | bool b => exact hscalar (.bool b) h

theorem isClosed_availability {c : Condition} (h : c ∈ availability allowlist spec) :
    c.IsClosed := by
  unfold availability at h
  split at h
  · split at h
    · cases h
    · next columns hne =>
      rw [List.mem_singleton] at h
      rw [h]
      refine Condition.Fits.chain _ (fun hnil => hne (List.map_eq_nil_iff.mp hnil)) ?_
      intro part hpart
      obtain ⟨column, -, rfl⟩ := List.mem_map.mp hpart
      exact .conjunction .and (List.cons_ne_nil _ _) (by simp [Condition.Fits.atom])
  · cases h

theorem isClosed_condition? {preset : Preset} {c : Condition}
    (h : preset.condition? value allowlist = some c) : c.IsClosed := by
  unfold Preset.condition? at h
  split at h
  · exact isClosed_rule? h
  · cases h

theorem isClosed_bound? {ending : String} {op : Comparison} {field : String × Json} {c : Condition}
    (h : bound? allowlist presets ending op field = some c) : c.IsClosed := by
  obtain ⟨key, value⟩ := field
  simp only [bound?] at h
  split at h
  · split at h
    · split at h
      · exact isClosed_of_map h (fun _ => trivial)
      · cases h
    · cases h
  · cases h

theorem isClosed_list? {field : String × Json} {c : Condition}
    (h : list? allowlist presets field = some c) : c.IsClosed := by
  obtain ⟨key, value⟩ := field
  unfold list? at h
  split at h
  · split at h
    · exact isClosed_oneOf? h
    · cases h
  · cases h

theorem isClosed_exactConditions {c : Condition} (h : c ∈ exactConditions allowlist spec) :
    c.IsClosed := by
  unfold exactConditions at h
  split at h
  · obtain ⟨⟨column, entry⟩, -, hcondition⟩ := List.mem_filterMap.mp h
    simp only at hcondition
    split at hcondition
    · exact isClosed_exactCondition? hcondition
    · cases hcondition
  · cases h

/-- The conditions of a filter are atomic predicates and groups. -/
theorem isClosed_of_mem_conditions {c : Condition} (h : c ∈ conditions allowlist presets spec) :
    c.IsClosed := by
  simp only [conditions, List.mem_append] at h
  rcases h with ((((hpreset | hlower) | hupper) | hlist) | havailable) | hexact
  · obtain ⟨preset, -, hcondition⟩ := List.mem_filterMap.mp hpreset
    obtain ⟨value, -, hsome⟩ := Option.bind_eq_some_iff.mp hcondition
    exact isClosed_condition? hsome
  · obtain ⟨field, -, hcondition⟩ := List.mem_filterMap.mp hlower
    exact isClosed_bound? hcondition
  · obtain ⟨field, -, hcondition⟩ := List.mem_filterMap.mp hupper
    exact isClosed_bound? hcondition
  · obtain ⟨field, -, hcondition⟩ := List.mem_filterMap.mp hlist
    exact isClosed_list? hcondition
  · exact isClosed_availability havailable
  · exact isClosed_exactConditions hexact

theorem isReadable_compile (hplain : allowlist.IsPlain) :
    (compile allowlist presets spec).IsReadable where
  fits _ hc := (isClosed_of_mem_conditions hc).fits
  writable _ hc a ha := (comesFrom_conditions hc a ha).isWritable hplain

/-- The clause of a filter is empty exactly if the filter asks for nothing.  Otherwise it is read as
one part for each condition asked for, joined by the connective of the filter, and each part has the
value of its condition whatever the values of the predicates.  The connective is `or` exactly if the
operator of the filter says so. -/
theorem compile_reads_as_meaning (hplain : allowlist.IsPlain) (presets : List Preset)
    (spec : FilterSpec) :
    let clause := compile allowlist presets spec
    let asked := meaning allowlist presets spec
    (clause.isEmpty = true ↔ asked = []) ∧ (clause.text = "" ↔ asked = []) ∧
      (asked ≠ [] → ∃ parts,
        Expr.ofText? clause.text = some (.join spec.connective parts) ∧
          ∀ value : Predicate → Truth,
            parts.map (Expr.eval value) = asked.map (Expr.eval value) ∧
              (Expr.join spec.connective parts).eval value =
                spec.connective.combine (asked.map (Expr.eval value))) ∧
      (spec.connective = .or ↔
        ∃ text, spec.get? "operator" = some (.string text) ∧ spells text "or" = true) := by
  intro clause asked
  have hasked : clause.conditions.map Condition.expr = asked := map_expr_conditions
  have hclosed : ∀ c ∈ clause.conditions, c.IsClosed := fun c hc => isClosed_of_mem_conditions hc
  have hreadable : clause.IsReadable := isReadable_compile hplain
  have hnil : clause.conditions = [] ↔ asked = [] := by
    rw [← hasked, List.map_eq_nil_iff]
  refine ⟨?_, ?_, ?_, connective_eq_or_iff⟩
  · rw [← hnil]
    exact Clause.isEmpty_iff
  · rw [← hnil]
    exact hreadable.text_eq_empty_iff
  · intro hsome
    have hne : clause.conditions ≠ [] := fun h => hsome (hnil.mp h)
    refine ⟨clause.conditions.map (fun c => .ofProducts c.products), ?_, ?_⟩
    · rw [hreadable.ofText?_text hne, Clause.reading, Clause.condition,
        ofProducts_chain clause.connective hclosed]
      rfl
    · intro value
      have hparts : (clause.conditions.map (fun c => Expr.ofProducts c.products)).map
          (Expr.eval value) = asked.map (Expr.eval value) := by
        rw [← hasked, List.map_map, List.map_map]
        apply List.map_congr_left
        intro c hc
        exact eval_products (hclosed c hc).fits value
      refine ⟨hparts, ?_⟩
      rw [Expr.eval_join, hparts]

/-- A preset, a bound, columns that must hold data and exact entries, as alternatives.  An entry with
an unknown operator asks for nothing, nor does one for a column that is not allowed. -/
theorem compile_reads_as_meaning_alternatives :
    let allowlist : Allowlist := ⟨["AWARDEE", "a\"b", "STATE", "TITLE"]⟩
    let entries : Fields :=
      [("STATE", .object [("operator", .string " starts_with\t"), ("value", .string "V")]),
        ("AWARDEE", .object [("operator", .string "LIKE"), ("value", .string "V")]),
        ("TITLE", .object [("operator", .string "Is_Not_Null")]),
        ("CITY", .null),
        ("a\"b", .array [.bool true, .null, .string "x"])]
    let spec : FilterSpec :=
      ⟨[("operator", .string " Or "), ("awardee", .string "O'Neill"), ("a\"bMin", .string "1"),
        ("dataAvailability", .array [.string "a\"b", .string "AWARDEE"]),
        ("exact_values", .object entries)]⟩
    let asked := meaning allowlist Preset.all spec
    allowlist.IsPlain ∧ asked.length = 6 ∧
      asked.drop 3 =
        [.predicate (.like (.asText "STATE") "V%"), .predicate (.isNotNull (.column "TITLE")),
          .predicate (.oneOf (.column "a\"b") [.text "true", .text "x"])] ∧
      spec.connective = .or ∧
      ∃ parts,
        Expr.ofText? (compile allowlist Preset.all spec).text = some (.join .or parts) ∧
          ∀ value : Predicate → Truth,
            parts.map (Expr.eval value) = asked.map (Expr.eval value) ∧
              (Expr.join .or parts).eval value =
                Connective.or.combine (asked.map (Expr.eval value)) := by
  intro allowlist entries spec asked
  have hplain : allowlist.IsPlain := by
    unfold Allowlist.IsPlain
    decide
  have hlength : asked.length = 6 := by decide
  have hasked : asked ≠ [] := List.ne_nil_of_length_eq_add_one hlength
  obtain ⟨-, -, hreads, hor⟩ := compile_reads_as_meaning hplain Preset.all spec
  have hconnective : spec.connective = .or := hor.mpr ⟨" Or ", rfl, by decide⟩
  rw [hconnective] at hreads
  exact ⟨hplain, hlength, rfl, hconnective, hreads hasked⟩

end DatasetSearch.Filter
