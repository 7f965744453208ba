import DatasetSearch.Filter.Compile
import DatasetSearch.Proofs.Sql.ConditionTokens
import DatasetSearch.Search

/-!
# Where the names and texts of a clause come from

Every column that a compiled clause names is in the allowlist, and every text that it looks for is
the empty text, the text of a scalar of the filter, or a keyword.  The parts that are written
without quotes are numbers, and no list is empty.
-/

namespace DatasetSearch

/-- A text is that of a scalar somewhere in a JSON value. -/
inductive Json.HasScalar : Json → String → Prop
  | string (s : String) : HasScalar (.string s) s
  | number (n : Number) : HasScalar (.number n) n.text
  | bool (b : Bool) : HasScalar (.bool b) (if b then "true" else "false")
  | item {items : List Json} {value : Json} {text : String} (hmem : value ∈ items)
      (h : HasScalar value text) : HasScalar (.array items) text
  | field {fields : Fields} {name : String} {value : Json} {text : String}
      (hmem : (name, value) ∈ fields) (h : HasScalar value text) : HasScalar (.object fields) text

theorem Fields.mem_of_get? {fields : Fields} {name : String} {value : Json}
    (h : Fields.get? fields name = some value) : (name, value) ∈ fields := by
  obtain ⟨⟨key, found⟩, hfind, rfl⟩ := Option.map_eq_some_iff.mp h
  have hkey : key = name := by simpa using List.find?_some hfind
  rw [← hkey]
  exact List.mem_of_find?_eq_some hfind

/-- No name would be taken to carry its double quotes already. -/
def Allowlist.IsPlain (a : Allowlist) : Prop :=
  ∀ name ∈ a.columns,
    ¬(2 ≤ name.length ∧ name.toList.head? = some '"' ∧ name.toList.getLast? = some '"')

theorem Allowlist.IsPlain.isDelimited_eq_false {a : Allowlist} (h : a.IsPlain) {name : String}
    (hname : name ∈ a.columns) : Sql.isDelimited name.toList = false := by
  rw [Bool.eq_false_iff]
  intro hdelimited
  apply h name hname
  simpa [Sql.isDelimited, String.length_toList, and_assoc] using hdelimited

namespace Sql

def Atom.texts : Atom → List String
  | .compare _ _ (.text value) => [value]
  | .compare _ _ _ => []
  | .oneOf _ values => values
  | .like _ pattern | .notLike _ pattern => [pattern.value]
  | .rowContains value | .rowLacks value => [value]
  | .isNull _ | .isNotNull _ | .textIsEmpty _ | .textIsNotEmpty _ => []

/-- A well-formed atomic predicate on allowed columns with texts of a source. -/
structure Atom.ComesFrom (allowlist : Allowlist) (source : String → Prop) (a : Atom) : Prop where
  allowed : ∀ column ∈ a.columns, column ∈ allowlist.columns
  given : ∀ text ∈ a.texts, source text
  formed : a.IsFormed

theorem Atom.ComesFrom.isWritable {allowlist : Allowlist} {source : String → Prop} {a : Atom}
    (h : a.ComesFrom allowlist source) (hplain : allowlist.IsPlain) : a.IsWritable :=
  ⟨fun column hcolumn => hplain.isDelimited_eq_false (h.allowed column hcolumn), h.formed⟩

/-- A condition of such atomic predicates. -/
def Condition.ComesFrom (allowlist : Allowlist) (source : String → Prop) (c : Condition) : Prop :=
  ∀ a ∈ c.atoms, a.ComesFrom allowlist source

section

variable {allowlist : Allowlist} {source wider : String → Prop}

theorem Condition.ComesFrom.mono {c : Condition} (h : c.ComesFrom allowlist source)
    (hwider : ∀ text, source text → wider text) : c.ComesFrom allowlist wider := by
  intro a ha
  have hatom := h a ha
  exact ⟨hatom.allowed, fun text htext => hwider text (hatom.given text htext), hatom.formed⟩

theorem Condition.comesFrom_atom {a : Atom} (h : a.ComesFrom allowlist source) :
    (Condition.atom a).ComesFrom allowlist source := by
  intro b hb
  rw [Condition.atoms, List.mem_singleton] at hb
  rw [hb]
  exact h

theorem Condition.comesFrom_chain {connective : Connective} {parts : List Condition}
    (h : ∀ part ∈ parts, part.ComesFrom allowlist source) :
    (Condition.chain connective parts).ComesFrom allowlist source := by
  intro a ha
  obtain ⟨part, hpart, hatom⟩ := Condition.mem_atomsOf.mp ha
  exact h part hpart a hatom

theorem Condition.comesFrom_group {inner : Condition} (h : inner.ComesFrom allowlist source) :
    (Condition.group inner).ComesFrom allowlist source :=
  h

theorem Condition.comesFrom_pair {connective : Connective} {left right : Atom}
    (hleft : left.ComesFrom allowlist source) (hright : right.ComesFrom allowlist source) :
    (Condition.pair connective left right).ComesFrom allowlist source := by
  refine Condition.comesFrom_group (Condition.comesFrom_chain ?_)
  intro part hpart
  have hcases : part = .atom left ∨ part = .atom right := by simpa using hpart
  rcases hcases with rfl | rfl
  · exact Condition.comesFrom_atom hleft
  · exact Condition.comesFrom_atom hright

theorem Clause.comesFrom_condition {clause : Clause}
    (h : ∀ c ∈ clause.conditions, c.ComesFrom allowlist source) :
    clause.condition.ComesFrom allowlist source :=
  Condition.comesFrom_chain h

/-! ### Scalars -/

theorem hasScalar_of_scalarText? {value : Json} {text : String}
    (h : scalarText? value = some text) : value.HasScalar text := by
  cases value with
  | string s =>
    cases h
    exact .string _
  | number n =>
    cases h
    exact .number _
  | bool b =>
    cases b with
    | true =>
      cases h
      exact .bool true
    | false =>
      cases h
      exact .bool false
  | null => cases h
  | array _ => cases h
  | object _ => cases h

theorem hasScalar_of_nonEmptyText? {value : Json} {text : String}
    (h : nonEmptyText? value = some text) : value.HasScalar text ∧ text ≠ "" := by
  obtain ⟨htext, hne⟩ := Option.filter_eq_some_iff.mp h
  exact ⟨hasScalar_of_scalarText? htext, by simpa using hne⟩

theorem comesFrom_compare {value : Json} {operand : Operand} {column : String} {op : Comparison}
    (hcolumn : column ∈ allowlist.columns) (h : operand? value = some operand) :
    (Condition.atom (.compare column op operand)).ComesFrom allowlist value.HasScalar := by
  have hmem : ∀ name ∈ (Atom.compare column op operand).columns, name ∈ allowlist.columns := by
    intro name hname
    rw [List.mem_singleton.mp hname]
    exact hcolumn
  apply Condition.comesFrom_atom
  cases value with
  | string s =>
    cases h
    refine ⟨hmem, ?_, trivial⟩
    intro text htext
    rw [List.mem_singleton.mp htext]
    exact .string s
  | number n =>
    cases h
    exact ⟨hmem, by simp [Atom.texts], trivial⟩
  | bool b =>
    cases h
    exact ⟨hmem, by simp [Atom.texts], trivial⟩
  | null => cases h
  | array _ => cases h
  | object _ => cases h

theorem comesFrom_oneOf? {items : List Json} {column : String} {c : Condition}
    (hcolumn : column ∈ allowlist.columns) (h : oneOf? column items = some c) :
    c.ComesFrom allowlist (Json.array items).HasScalar := by
  unfold oneOf? at h
  split at h
  · cases h
  · next hne =>
    cases h
    apply Condition.comesFrom_atom
    refine ⟨?_, ?_, ?_⟩
    · intro name hname
      rw [List.mem_singleton.mp hname]
      exact hcolumn
    · intro text htext
      have hscalar : text ∈ items.filterMap scalarText? := htext
      obtain ⟨item, hitem, hsome⟩ := List.mem_filterMap.mp hscalar
      exact .item hitem (hasScalar_of_scalarText? hsome)
    · exact fun hnil => hne hnil

theorem comesFrom_like {column : String} {pattern : Pattern} (hcolumn : column ∈ allowlist.columns)
    (h : source pattern.value) :
    (Atom.like column pattern).ComesFrom allowlist source := by
  refine ⟨?_, ?_, trivial⟩
  · intro name hname
    rw [List.mem_singleton.mp hname]
    exact hcolumn
  · intro text htext
    rw [List.mem_singleton.mp htext]
    exact h

/-- A test of a column that looks for no text. -/
theorem comesFrom_test {a : Atom} {column : String} (hcolumn : column ∈ allowlist.columns)
    (hcolumns : a.columns = [column]) (htexts : a.texts = []) (hformed : a.IsFormed) :
    a.ComesFrom allowlist source := by
  refine ⟨?_, ?_, hformed⟩
  · intro name hname
    rw [hcolumns, List.mem_singleton] at hname
    rw [hname]
    exact hcolumn
  · intro text htext
    rw [htexts] at htext
    cases htext

end

end Sql

/-! ### The conditions of a filter -/

namespace Filter

open Sql

variable {allowlist : Allowlist}

/-- The texts of a JSON value, and the empty text. -/
def GivenBy (value : Json) (text : String) : Prop := text = "" ∨ value.HasScalar text

theorem comesFrom_matching? {column : String} {value : Json} {pattern : String → Pattern}
    {c : Condition} (hcolumn : column ∈ allowlist.columns)
    (hpattern : ∀ text, (pattern text).value = text)
    (h : ExactOperator.matching? column value pattern = some c) :
    c.ComesFrom allowlist value.HasScalar := by
  obtain ⟨text, htext, rfl⟩ := Option.map_eq_some_iff.mp h
  apply Condition.comesFrom_atom
  apply comesFrom_like hcolumn
  rw [hpattern]
  exact hasScalar_of_scalarText? htext

theorem comesFrom_operator {op : ExactOperator} {column : String} {value : Json} {c : Condition}
    (hcolumn : column ∈ allowlist.columns) (h : op.condition? column value = some c) :
    c.ComesFrom allowlist value.HasScalar := by
  cases op with
  | compare comparison =>
    obtain ⟨operand, hoperand, rfl⟩ := Option.map_eq_some_iff.mp h
    exact comesFrom_compare hcolumn hoperand
  | contains => exact comesFrom_matching? hcolumn (fun _ => rfl) h
  | startsWith => exact comesFrom_matching? hcolumn (fun _ => rfl) h
  | endsWith => exact comesFrom_matching? hcolumn (fun _ => rfl) h
  | isNull =>
    cases h
    exact Condition.comesFrom_atom (comesFrom_test hcolumn rfl rfl trivial)
  | isNotNull =>
    cases h
    exact Condition.comesFrom_atom (comesFrom_test hcolumn rfl rfl trivial)

theorem comesFrom_exactCondition? {column : String} {value : Json} {c : Condition}
    (hcolumn : column ∈ allowlist.columns) (h : exactCondition? column value = some c) :
    c.ComesFrom allowlist (GivenBy value) := by
  have hscalar : ∀ scalar : Json,
      (operand? scalar).map (fun operand => Condition.atom (.compare column .eq operand)) = some c →
      c.ComesFrom allowlist (GivenBy scalar) := by
    intro scalar hcondition
    obtain ⟨operand, hoperand, rfl⟩ := Option.map_eq_some_iff.mp hcondition
    exact (comesFrom_compare hcolumn hoperand).mono (fun text htext => .inr htext)
  cases value with
  | object fields =>
    obtain ⟨raw, -, hraw⟩ := Option.bind_eq_some_iff.mp h
    obtain ⟨op, -, hop⟩ := Option.bind_eq_some_iff.mp hraw
    refine (comesFrom_operator hcolumn hop).mono ?_
    intro text htext
    cases hvalue : Fields.get? fields "value" with
    | none =>
      rw [hvalue] at htext
      cases htext
      exact .inl rfl
    | some operand =>
      rw [hvalue] at htext
      exact .inr (.field (Fields.mem_of_get? hvalue) htext)
  | array items => exact (comesFrom_oneOf? hcolumn h).mono (fun text htext => .inr htext)
  | null =>
    cases h
    exact Condition.comesFrom_atom (comesFrom_test hcolumn rfl rfl trivial)
  | string s => exact hscalar (.string s) h
  | number n => exact hscalar (.number n) h
  | bool b => exact hscalar (.bool b) h

namespace Preset

theorem comesFrom_containing {column text : String} {value : Json}
    (hcolumn : column ∈ allowlist.columns) (h : nonEmptyText? value = some text) :
    (containing column text).ComesFrom allowlist value.HasScalar :=
  comesFrom_like hcolumn (hasScalar_of_nonEmptyText? h).1

theorem comesFrom_containing? {column : String} {value : Json} {c : Condition}
    (hcolumn : column ∈ allowlist.columns) (h : containing? column value = some c) :
    c.ComesFrom allowlist value.HasScalar := by
  obtain ⟨text, htext, rfl⟩ := Option.map_eq_some_iff.mp h
  exact Condition.comesFrom_atom (comesFrom_containing hcolumn htext)

theorem comesFrom_compared? {column : String} {op : Comparison} {value : Json} {c : Condition}
    (hcolumn : column ∈ allowlist.columns) (h : compared? column op value = some c) :
    c.ComesFrom allowlist value.HasScalar := by
  obtain ⟨operand, hoperand, rfl⟩ := Option.map_eq_some_iff.mp h
  exact comesFrom_compare hcolumn hoperand

theorem comesFrom_dated? {op : Comparison} {value : Json} {c : Condition}
    (hcolumn : ContractColumn.awardDate ∈ allowlist.columns) (h : dated? op value = some c) :
    c.ComesFrom allowlist value.HasScalar := by
  obtain ⟨text, htext, rfl⟩ := Option.map_eq_some_iff.mp h
  have hstring : operand? (.string text) = some (.text text) := rfl
  refine (comesFrom_compare hcolumn hstring).mono ?_
  intro other hother
  cases hother
  exact (hasScalar_of_nonEmptyText? htext).1

theorem comesFrom_execution? {value : Json} {c : Condition}
    (hcolumn : ContractColumn.awardId ∈ allowlist.columns) (h : execution? value = some c) :
    c.ComesFrom allowlist value.HasScalar := by
  unfold execution? at h
  split at h
  · cases h
    exact Condition.comesFrom_pair (comesFrom_test hcolumn rfl rfl trivial)
      (comesFrom_test hcolumn rfl rfl trivial)
  · cases h
    exact Condition.comesFrom_pair (comesFrom_test hcolumn rfl rfl trivial)
      (comesFrom_test hcolumn rfl rfl trivial)
  · cases h

/-- A code is compared with the number column only if it consists of digits. -/
theorem comesFrom_industry? {value : Json} {c : Condition}
    (h : industry? value allowlist = some c) :
    c.ComesFrom allowlist value.HasScalar := by
  unfold industry? at h
  split at h
  · cases h
  · next text htext =>
    have hgiven := hasScalar_of_nonEmptyText? htext
    have hnumber : (text.toList.all Char.isDigit &&
        allowlist.contains ContractColumn.industryNumber) = true →
        (Atom.compare ContractColumn.industryNumber .eq (.digits text)).ComesFrom allowlist
          value.HasScalar := by
      intro hboth
      rw [Bool.and_eq_true] at hboth
      refine comesFrom_test (Allowlist.contains_iff.mp hboth.2) rfl rfl ⟨?_, ?_⟩
      · intro hnil
        exact hgiven.2 (by rw [← String.ofList_toList (s := text), hnil])
      · exact fun digit hdigit => List.all_eq_true.mp hboth.1 digit hdigit
    have hmention : allowlist.contains ContractColumn.industryText = true →
        (containing ContractColumn.industryText text).ComesFrom allowlist value.HasScalar :=
      fun hcolumn => comesFrom_containing (Allowlist.contains_iff.mp hcolumn) htext
    simp only at h
    split at h
    · next hbyNumber hbyText =>
      cases h
      exact Condition.comesFrom_pair (hnumber hbyNumber) (hmention hbyText)
    · next hbyNumber _ =>
      cases h
      exact Condition.comesFrom_atom (hnumber hbyNumber)
    · next _ hbyText =>
      cases h
      exact Condition.comesFrom_atom (hmention hbyText)
    · cases h

theorem comesFrom_condition? {preset : Preset} {value : Json} {c : Condition}
    (h : preset.condition? value allowlist = some c) :
    c.ComesFrom allowlist value.HasScalar := by
  unfold condition? at h
  split at h
  · next hrequired =>
    have hcolumn : ∀ column ∈ preset.required, column ∈ allowlist.columns :=
      fun column hmem => Allowlist.contains_iff.mp (List.all_eq_true.mp hrequired column hmem)
    cases preset with
    | contractType =>
      cases value with
      | array items => exact comesFrom_oneOf? (hcolumn _ (by simp [required])) h
      | _ => cases h
    | hasExecutionData => exact comesFrom_execution? (hcolumn _ (by simp [required])) h
    | minAwardAmount => exact comesFrom_compared? (hcolumn _ (by simp [required])) h
    | maxAwardAmount => exact comesFrom_compared? (hcolumn _ (by simp [required])) h
    | agency => exact comesFrom_containing? (hcolumn _ (by simp [required])) h
    | naicsCode => exact comesFrom_industry? h
    | awardee => exact comesFrom_containing? (hcolumn _ (by simp [required])) h
    | pscCode => exact comesFrom_containing? (hcolumn _ (by simp [required])) h
    | awardId =>
      obtain ⟨text, htext, rfl⟩ := Option.map_eq_some_iff.mp h
      exact Condition.comesFrom_pair
        (comesFrom_containing (hcolumn _ (by simp [required])) htext)
        (comesFrom_containing (hcolumn _ (by simp [required])) htext)
    | awardDateStart => exact comesFrom_dated? (hcolumn _ (by simp [required])) h
    | awardDateEnd => exact comesFrom_dated? (hcolumn _ (by simp [required])) h
  · cases h

end Preset

variable {presets : List Preset} {spec : FilterSpec} {c : Condition}

theorem comesFrom_bound? {ending : String} {op : Comparison} {field : String × Json}
    (h : bound? allowlist presets ending op field = some c) :
    c.ComesFrom allowlist field.2.HasScalar := by
  obtain ⟨key, value⟩ := field
  simp only [bound?] at h
  split at h
  · split at h
    · split at h
      · next hcolumn =>
        obtain ⟨operand, hoperand, rfl⟩ := Option.map_eq_some_iff.mp h
        exact comesFrom_compare (Allowlist.contains_iff.mp hcolumn) hoperand
      · cases h
    · cases h
  · cases h

theorem comesFrom_list? {field : String × Json} (h : list? allowlist presets field = some c) :
    c.ComesFrom allowlist field.2.HasScalar := by
  unfold list? at h
  split at h
  · split at h
    · next hkey => exact comesFrom_oneOf? (Allowlist.contains_iff.mp hkey.2) h
    · cases h
  · cases h

theorem comesFrom_availability {source : String → Prop} (h : c ∈ availability allowlist spec) :
    c.ComesFrom allowlist source := by
  unfold availability at h
  split at h
  · next items _ =>
    split at h
    · cases h
    · rw [List.mem_singleton] at h
      subst h
      refine Condition.comesFrom_group (Condition.comesFrom_chain ?_)
      intro part hpart
      obtain ⟨column, hcolumn, rfl⟩ := List.mem_map.mp hpart
      have hallowed : column ∈ allowlist.columns :=
        Allowlist.contains_iff.mp (List.mem_filter.mp hcolumn).2
      refine Condition.comesFrom_chain ?_
      intro test htest
      have hcases : test = .atom (.isNotNull column) ∨ test = .atom (.textIsNotEmpty column) := by
        simpa using htest
      rcases hcases with rfl | rfl
      · exact Condition.comesFrom_atom (comesFrom_test hallowed rfl rfl trivial)
      · exact Condition.comesFrom_atom (comesFrom_test hallowed rfl rfl trivial)
  · cases h

theorem comesFrom_exactConditions (h : c ∈ exactConditions allowlist spec) :
    c.ComesFrom allowlist (GivenBy (.object spec.fields)) := by
  unfold exactConditions at h
  split at h
  · next fields hfields =>
    obtain ⟨⟨column, value⟩, hmem, hcondition⟩ := List.mem_filterMap.mp h
    simp only at hcondition
    split at hcondition
    · next hcolumn =>
      refine (comesFrom_exactCondition? (Allowlist.contains_iff.mp hcolumn) hcondition).mono ?_
      intro text htext
      rcases htext with hempty | hscalar
      · exact .inl hempty
      · exact .inr (.field (Fields.mem_of_get? hfields) (.field hmem hscalar))
    · cases hcondition
  · cases h

/-- The columns of a filter's conditions are allowed, and their texts are given by the filter. -/
theorem comesFrom_conditions (h : c ∈ conditions allowlist presets spec) :
    c.ComesFrom allowlist (GivenBy (.object spec.fields)) := by
  have hfield : ∀ field ∈ spec.fields, c.ComesFrom allowlist field.2.HasScalar →
      c.ComesFrom allowlist (GivenBy (.object spec.fields)) :=
    fun field hmem hc => hc.mono (fun text htext => .inr (.field hmem htext))
  simp only [conditions, List.mem_append] at h
  rcases h with ((((hpreset | hlower) | hupper) | hlist) | havailable) | hexact
  · obtain ⟨preset, -, hcondition⟩ := List.mem_filterMap.mp hpreset
    obtain ⟨value, hvalue, hsome⟩ := Option.bind_eq_some_iff.mp hcondition
    exact hfield _ (Fields.mem_of_get? hvalue) (Preset.comesFrom_condition? hsome)
  · obtain ⟨field, hmem, hcondition⟩ := List.mem_filterMap.mp hlower
    exact hfield field hmem (comesFrom_bound? hcondition)
  · obtain ⟨field, hmem, hcondition⟩ := List.mem_filterMap.mp hupper
    exact hfield field hmem (comesFrom_bound? hcondition)
  · obtain ⟨field, hmem, hcondition⟩ := List.mem_filterMap.mp hlist
    exact hfield field hmem (comesFrom_list? hcondition)
  · exact comesFrom_availability havailable
  · exact comesFrom_exactConditions hexact

end Filter

/-! ### The conditions of keywords -/

namespace Search

open Sql

/-- A text that keywords look for: a piece between commas without blanks around it, or what follows
the minus sign of one. -/
def IsKeyword (keywords : String) (text : String) : Prop :=
  ∃ piece ∈ (Text.split ',' keywords).map Text.trim,
    (piece = text ∧ text.toList.head? ≠ some '-') ∨ piece = String.ofList ('-' :: text.toList)

def Term.text : Term → String
  | .wanted text | .excluded text => text

theorem isKeyword_of_ofText? {keywords raw : String} {term : Term} (hraw : raw ∈ terms keywords)
    (h : Term.ofText? raw = some term) : IsKeyword keywords term.text := by
  refine ⟨raw, (List.mem_filter.mp hraw).1, ?_⟩
  unfold Term.ofText? at h
  split at h
  · cases h
  · next rest _ hminus =>
    cases h
    refine .inr ?_
    rw [Term.text, String.toList_ofList, ← hminus, String.ofList_toList]
  · next hnotBare hnotMinus =>
    cases h
    refine .inl ⟨rfl, ?_⟩
    intro hhead
    cases hraw : raw.toList with
    | nil => simp [Term.text, hraw] at hhead
    | cons first rest =>
      rw [Term.text, hraw, List.head?_cons, Option.some.injEq] at hhead
      exact hnotMinus rest (by rw [hraw, hhead])

section

variable {allowlist : Allowlist} {source : String → Prop} {term : Term}

theorem comesFrom_rowCondition (htext : source term.text) :
    (rowCondition term).ComesFrom allowlist source := by
  cases term with
  | wanted text =>
    have hgiven : ∀ given ∈ [text], source given := List.forall_mem_singleton.mpr htext
    exact Condition.comesFrom_atom ⟨by simp [Atom.columns], hgiven, trivial⟩
  | excluded text =>
    have hgiven : ∀ given ∈ [text], source given := List.forall_mem_singleton.mpr htext
    exact Condition.comesFrom_atom ⟨by simp [Atom.columns], hgiven, trivial⟩

theorem comesFrom_columnCondition {columns : List String}
    (hallowed : ∀ column ∈ columns, column ∈ allowlist.columns) (htext : source term.text) :
    (columnCondition columns term).ComesFrom allowlist source := by
  cases term with
  | wanted text =>
    refine Condition.comesFrom_group (Condition.comesFrom_chain ?_)
    intro part hpart
    obtain ⟨column, hcolumn, rfl⟩ := List.mem_map.mp hpart
    exact Condition.comesFrom_atom (comesFrom_like (hallowed column hcolumn) htext)
  | excluded text =>
    refine Condition.comesFrom_chain ?_
    intro part hpart
    obtain ⟨column, hcolumn, rfl⟩ := List.mem_map.mp hpart
    have hlike : (Atom.like column (.containing text)).ComesFrom allowlist source :=
      comesFrom_like (hallowed column hcolumn) htext
    exact Condition.comesFrom_atom ⟨hlike.allowed, hlike.given, trivial⟩

end

/-- The columns of a search's conditions are allowed, and their texts are keywords. -/
theorem comesFrom_conditions {keywords : String} {scope : Option Allowlist} {allowlist : Allowlist}
    {c : Condition} (hscope : ∀ a ∈ scope, a = allowlist) (h : c ∈ conditions keywords scope) :
    c.ComesFrom allowlist (IsKeyword keywords) := by
  have hterm : ∀ term ∈ (terms keywords).filterMap Term.ofText?, IsKeyword keywords term.text := by
    intro term hmem
    obtain ⟨raw, hraw, hsome⟩ := List.mem_filterMap.mp hmem
    exact isKeyword_of_ofText? hraw hsome
  cases scope with
  | none =>
    obtain ⟨term, hmem, rfl⟩ := List.mem_map.mp h
    exact comesFrom_rowCondition (hterm term hmem)
  | some searched =>
    have hsame : searched = allowlist := hscope searched rfl
    subst hsame
    unfold conditions at h
    simp only at h
    split at h
    · cases h
    · obtain ⟨term, hmem, rfl⟩ := List.mem_map.mp h
      have hallowed : ∀ column ∈ searchable searched, column ∈ searched.columns :=
        fun column hcolumn => (List.mem_filter.mp hcolumn).1
      exact comesFrom_columnCondition hallowed (hterm term hmem)

end Search

end DatasetSearch
