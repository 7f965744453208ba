import DatasetSearch.Proofs.Json.Codes
import DatasetSearch.Proofs.Matching

/-!
# Filters given in a query string

Some presets look for any text that they are given.  A query string gives the text of letters and
digits through what it denotes in JSON, so the preset looks for it as for a text of a JSON filter,
unless it is `null`, which asks for nothing, or a numeral that is read as a double, which is looked
for as the double is written.
-/

namespace DatasetSearch

open Sql

namespace Sql

/-- The patterns with which a clause is read. -/
theorem Clause.mem_patterns_reading {clause : Clause} {pattern : String} :
    pattern ∈ clause.reading.patterns ↔ ∃ c ∈ clause.conditions, pattern ∈ c.patterns := by
  rw [Clause.reading, Condition.patterns_products]
  constructor
  · intro h
    obtain ⟨a, ha, hpattern⟩ := List.mem_flatMap.mp h
    obtain ⟨c, hc, hatom⟩ := Condition.mem_atomsOf.mp ha
    exact ⟨c, hc, List.mem_flatMap.mpr ⟨a, hatom, hpattern⟩⟩
  · rintro ⟨c, hc, h⟩
    obtain ⟨a, ha, hpattern⟩ := List.mem_flatMap.mp h
    exact List.mem_flatMap.mpr ⟨a, Condition.mem_atomsOf.mpr ⟨c, hc, ha⟩, hpattern⟩

/-- An expression that holds where one of the columns, read as text, is like a text between percent
signs, and that has no other pattern. -/
structure Expr.Seeks (e : Expr) (columns : List String) (text : String) : Prop where
  patterns_ne_nil : e.patterns ≠ []
  pattern_eq : ∀ pattern ∈ e.patterns, pattern = "%" ++ text ++ "%"
  eval_eq : ∀ value : Predicate → Truth, e.eval value =
    Connective.or.combine (columns.map fun column =>
      value (.like (.asText column) ("%" ++ text ++ "%")))

def Clause.Seeks (clause : Clause) (columns : List String) (text : String) : Prop :=
  ∃ e, Expr.ofText? clause.text = some e ∧ e.Seeks columns text

end Sql

namespace Filter

namespace Preset

/-- The presets that look for any text in the columns that they need. -/
def textual : List Preset := [.agency, .awardee, .pscCode, .awardId]

/-- A text in one of the given columns. -/
def seeking (text : String) : List String → Condition
  | [column] => .atom (containing column text)
  | columns => .group (.chain .or (columns.map fun column => .atom (containing column text)))

theorem mem_textual {preset : Preset} (h : preset ∈ textual) :
    preset = .agency ∨ preset = .awardee ∨ preset = .pscCode ∨ preset = .awardId := by
  simpa [textual] using h

theorem rule?_of_mem_textual {preset : Preset} (h : preset ∈ textual) (value : Json)
    (allowlist : Allowlist) :
    preset.rule? value allowlist = (nonEmptyText? value).map (seeking · preset.required) := by
  rcases mem_textual h with rfl | rfl | rfl | rfl <;> rfl

theorem patterns_seeking {preset : Preset} (h : preset ∈ textual) (text : String) :
    (seeking text preset.required).patterns =
      preset.required.map fun _ => "%" ++ text ++ "%" := by
  rcases mem_textual h with rfl | rfl | rfl | rfl <;> rfl

theorem eval_seeking {preset : Preset} (h : preset ∈ textual) (text : String)
    (value : Predicate → Truth) :
    (seeking text preset.required).expr.eval value =
      Connective.or.combine (preset.required.map fun column =>
        value (.like (.asText column) ("%" ++ text ++ "%"))) := by
  rcases mem_textual h with rfl | rfl | rfl | rfl
  · exact (Connective.combine_singleton .or _).symm
  · exact (Connective.combine_singleton .or _).symm
  · exact (Connective.combine_singleton .or _).symm
  · rfl

theorem required_ne_nil {preset : Preset} (h : preset ∈ textual) : preset.required ≠ [] := by
  rcases mem_textual h with rfl | rfl | rfl | rfl <;> exact List.cons_ne_nil _ _

theorem seeking_injective {preset : Preset} (h : preset ∈ textual) :
    Function.Injective (seeking · preset.required) := by
  intro left right heq
  have hpatterns := congrArg Condition.patterns heq
  simp only [patterns_seeking h] at hpatterns
  obtain ⟨column, hcolumn⟩ := List.exists_mem_of_ne_nil _ (required_ne_nil h)
  have hpattern := List.map_inj_left.mp hpatterns column hcolumn
  have hchars := congrArg String.toList hpattern
  exact String.toList_injective (by simpa using hchars)

theorem isPlain_required (preset : Preset) : Allowlist.IsPlain ⟨preset.required⟩ := by
  unfold Allowlist.IsPlain
  cases preset <;> decide

theorem key_injective {left right : Preset} (h : left.key = right.key) : left = right := by
  cases left <;> cases right <;> first | rfl | exact absurd h (by decide)

end Preset

/-! ### A filter of one preset -/

section

variable {preset : Preset} {presets : List Preset} {allowlist : Allowlist} {value : Json}

/-- A filter that only gives a value to an enabled preset. -/
theorem conditions_key (henabled : preset ∈ presets) :
    conditions allowlist presets ⟨[(preset.key, value)]⟩ =
      presets.filterMap fun other =>
        if other = preset then preset.condition? value allowlist else none := by
  have hgeneric : isGeneric presets preset.key = false := by
    have hany : presets.any (·.key == preset.key) = true :=
      List.any_eq_true.mpr ⟨preset, henabled, beq_self_eq_true _⟩
    rw [isGeneric, hany]
    exact Bool.and_false _
  have hother {name : String} (hname : preset.key ≠ name) :
      FilterSpec.get? ⟨[(preset.key, value)]⟩ name = none := by
    simp [FilterSpec.get?, Fields.get?, hname]
  have havailability : preset.key ≠ "dataAvailability" := by cases preset <;> decide
  have hexact : preset.key ≠ "exact_values" := by cases preset <;> decide
  have hpresets : presetConditions allowlist presets ⟨[(preset.key, value)]⟩ =
      presets.filterMap fun other =>
        if other = preset then preset.condition? value allowlist else none := by
    refine List.filterMap_congr fun other _ => ?_
    by_cases hsame : other = preset
    · rw [if_pos hsame, hsame]
      simp [FilterSpec.get?, Fields.get?]
    · rw [if_neg hsame, hother fun hkey => hsame (Preset.key_injective hkey.symm)]
      rfl
  have hbound (ending : String) (op : Comparison) :
      bound? allowlist presets ending op (preset.key, value) = none := by
    rw [bound?, hgeneric]
    rfl
  have hlist : list? allowlist presets (preset.key, value) = none := by
    unfold list?
    split
    · next key items heq =>
      cases heq
      rw [hgeneric]
      rfl
    · rfl
  simp [conditions, hpresets, hbound, hlist, availability, exactConditions, hother havailability,
    hother hexact]

theorem connective_key : FilterSpec.connective ⟨[(preset.key, value)]⟩ = .and := by
  have hkey : preset.key ≠ "operator" := by cases preset <;> decide
  simp [FilterSpec.connective, FilterSpec.get?, Fields.get?, hkey]

theorem ofQueryPairs_key (raw : String) :
    FilterSpec.ofQueryPairs [(preset.key, raw)] =
      ⟨[(preset.key, FilterSpec.parameterValue raw)]⟩ := by
  cases preset <;> rfl

/-! ### What such a filter seeks -/

variable (hpreset : preset ∈ Preset.textual) (henabled : preset ∈ presets)
  (hcolumns : ∀ column ∈ preset.required, column ∈ allowlist.columns)

include hpreset henabled hcolumns

theorem mem_conditions_key {c : Condition} :
    c ∈ conditions allowlist presets ⟨[(preset.key, value)]⟩ ↔
      (nonEmptyText? value).map (Preset.seeking · preset.required) = some c := by
  have hcondition : preset.condition? value allowlist =
      (nonEmptyText? value).map (Preset.seeking · preset.required) := by
    rw [Preset.condition?, if_pos, Preset.rule?_of_mem_textual hpreset]
    exact List.all_eq_true.mpr fun column hcolumn =>
      Allowlist.contains_iff.mpr (hcolumns column hcolumn)
  rw [conditions_key henabled, List.mem_filterMap, ← hcondition]
  constructor
  · rintro ⟨other, -, hsome⟩
    split at hsome
    · exact hsome
    · cases hsome
  · intro hsome
    exact ⟨preset, henabled, by rw [if_pos rfl, hsome]⟩

theorem isReadable_key :
    (compile allowlist presets ⟨[(preset.key, value)]⟩).IsReadable where
  fits _ hc := (isClosed_of_mem_conditions hc).fits
  writable c hc a ha := by
    -- The columns of the allowlist need not be plain, those of the preset are.
    have hrequired : c ∈ conditions ⟨preset.required⟩ presets ⟨[(preset.key, value)]⟩ :=
      (mem_conditions_key hpreset henabled fun _ => id).mpr
        ((mem_conditions_key hpreset henabled hcolumns).mp hc)
    exact (comesFrom_conditions hrequired a ha).isWritable (Preset.isPlain_required preset)

/-- A preset seeks the text of its value in the columns that it needs. -/
theorem seeks_key {text : String} (htext : nonEmptyText? value = some text) :
    (compile allowlist presets ⟨[(preset.key, value)]⟩).Seeks preset.required text := by
  generalize hclause : compile allowlist presets ⟨[(preset.key, value)]⟩ = clause
  have hreadable : clause.IsReadable := hclause ▸ isReadable_key hpreset henabled hcolumns
  have hconnective : clause.connective = .and := by rw [← hclause, compile, connective_key]
  have hmem {c : Condition} :
      c ∈ clause.conditions ↔ c = Preset.seeking text preset.required := by
    rw [← hclause, compile, mem_conditions_key hpreset henabled hcolumns, htext, Option.map_some,
      Option.some_inj, eq_comm]
  have hne : clause.conditions ≠ [] := List.ne_nil_of_mem (hmem.mpr rfl)
  have hpatterns {pattern : String} : pattern ∈ clause.reading.patterns ↔
      pattern ∈ preset.required.map fun _ => "%" ++ text ++ "%" := by
    rw [Clause.mem_patterns_reading, ← Preset.patterns_seeking hpreset]
    simp only [hmem, exists_eq_left]
  refine ⟨clause.reading, hreadable.ofText?_text hne, ?_, ?_, ?_⟩
  · obtain ⟨column, hcolumn⟩ := List.exists_mem_of_ne_nil _ (Preset.required_ne_nil hpreset)
    exact List.ne_nil_of_mem (hpatterns.mpr (List.mem_map_of_mem hcolumn))
  · intro pattern hpattern
    obtain ⟨_, -, heq⟩ := List.mem_map.mp (hpatterns.mp hpattern)
    exact heq.symm
  · intro truth
    rw [hreadable.eval_reading hne, hconnective, List.map_map]
    -- A preset that is enabled twice gives its condition twice.
    refine Connective.combine_eq_of_forall_eq (fun hnil => hne (List.map_eq_nil_iff.mp hnil)) ?_
    intro found hfound
    obtain ⟨c, hc, rfl⟩ := List.mem_map.mp hfound
    rw [hmem.mp hc]
    exact Preset.eval_seeking hpreset text truth

/-- The clause of a preset is determined by the text of its value and determines it. -/
theorem compile_key_eq_iff {other : Json} :
    compile allowlist presets ⟨[(preset.key, value)]⟩ =
        compile allowlist presets ⟨[(preset.key, other)]⟩ ↔
      nonEmptyText? value = nonEmptyText? other := by
  constructor
  · intro heq
    have hconditions := congrArg Clause.conditions heq
    refine Option.map_injective (Preset.seeking_injective hpreset) (Option.ext fun c => ?_)
    rw [← mem_conditions_key hpreset henabled hcolumns,
      ← mem_conditions_key hpreset henabled hcolumns]
    exact iff_of_eq (congrArg (c ∈ ·) hconditions)
  · intro htext
    rw [compile, compile, connective_key, connective_key, conditions_key henabled,
      conditions_key henabled, Preset.condition?, Preset.condition?,
      Preset.rule?_of_mem_textual hpreset, Preset.rule?_of_mem_textual hpreset, htext]

theorem conditions_key_eq_nil (htext : nonEmptyText? value = none) :
    conditions allowlist presets ⟨[(preset.key, value)]⟩ = [] := by
  refine List.eq_nil_iff_forall_not_mem.mpr fun c hc => ?_
  rw [mem_conditions_key hpreset henabled hcolumns, htext] at hc
  cases hc

end

/-! ### The text of a parameter -/

theorem nonEmptyText?_of_scalarText? {value : Json} {text : String} (htext : text ≠ "")
    (h : scalarText? value = some text) : nonEmptyText? value = some text := by
  rw [nonEmptyText?, h, Option.filter_some, if_pos (by simpa using htext)]

theorem parameterValue_of_parse? {raw : String} {value : Json} (h : Json.parse? raw = some value) :
    FilterSpec.parameterValue raw = value := by
  rw [FilterSpec.parameterValue, h, Option.getD_some]

/-- A text of letters and digits is kept unless it is null or a double. -/
theorem nonEmptyText?_parameterValue {raw : String} (h : Json.IsAlphanumeric raw.toList) :
    nonEmptyText? (FilterSpec.parameterValue raw) = some raw ∨
      raw = "null" ∨
      ∃ x, Json.parse? raw = some (.number (.float x)) := by
  have hne : raw ≠ "" := by
    rintro rfl
    exact h.1 rfl
  have hdenotes := Json.denotes_parse? h
  generalize hparse : Json.parse? raw = found at hdenotes
  cases hdenotes with
  | nothing =>
    left
    refine nonEmptyText?_of_scalarText? hne ?_
    rw [FilterSpec.parameterValue, hparse]
    rfl
  | null hnull => exact .inr (.inl hnull)
  | bool b hbool =>
    left
    refine nonEmptyText?_of_scalarText? hne ?_
    rw [parameterValue_of_parse? hparse, hbool]
    cases b <;> rfl
  | int hdecimal =>
    left
    refine nonEmptyText?_of_scalarText? hne ?_
    rw [parameterValue_of_parse? hparse, scalarText?, hdecimal.text_natOf]
  | float _ x => exact .inr (.inr ⟨x, rfl⟩)

theorem nonEmptyText?_float {raw : String} {x : Binary64}
    (h : Json.parse? raw = some (.number (.float x))) :
    nonEmptyText? (FilterSpec.parameterValue raw) = some (Number.float x).text := by
  rw [parameterValue_of_parse? h]
  refine nonEmptyText?_of_scalarText? ?_ rfl
  intro hempty
  obtain ⟨c, hc, -⟩ := Json.exists_mem_floatText x
  rw [Number.text] at hempty
  rw [String.ofList_eq_empty_iff.mp hempty] at hc
  cases hc

theorem nonEmptyText?_parameterValue_iff {raw : String} (h : Json.IsAlphanumeric raw.toList) :
    nonEmptyText? (FilterSpec.parameterValue raw) = some raw ↔
      raw ≠ "null" ∧ ∀ x, Json.parse? raw ≠ some (.number (.float x)) := by
  constructor
  · intro hkept
    constructor
    · rintro rfl
      rw [parameterValue_of_parse? Json.parse?_null] at hkept
      cases hkept
    · intro x hfloat
      rw [nonEmptyText?_float hfloat] at hkept
      exact Json.text_float_ne h x (Option.some.inj hkept)
  · rintro ⟨hnull, hfloat⟩
    rcases nonEmptyText?_parameterValue h with hkept | hword | ⟨x, hparse⟩
    · exact hkept
    · exact absurd hword hnull
    · exact absurd hparse (hfloat x)

/-- A preset that looks for texts is given one of letters and digits.  As a text of a JSON filter it
is what the preset seeks.  In a query string it is the same, unless it is `null`, which adds no
condition, or denotes a double: then the preset seeks the text of the double, which differs. -/
theorem compile_ofQueryPairs_alphanumeric {preset : Preset} {presets : List Preset}
    {allowlist : Allowlist} {raw : String} (hraw : Json.IsAlphanumeric raw.toList)
    (hpreset : preset ∈ Preset.textual) (henabled : preset ∈ presets)
    (hcolumns : ∀ column ∈ preset.required, column ∈ allowlist.columns) :
    let inQuery := compile allowlist presets (.ofQueryPairs [(preset.key, raw)])
    let inJson := compile allowlist presets ⟨[(preset.key, .string raw)]⟩
    inJson.Seeks preset.required raw ∧
      (inQuery = inJson ↔ raw ≠ "null" ∧ ∀ x, Json.parse? raw ≠ some (.number (.float x))) ∧
      (raw = "null" → inQuery.isEmpty = true) ∧
      ∀ x, Json.parse? raw = some (.number (.float x)) →
        Json.IsInexact raw.toList ∧ inQuery.Seeks preset.required (Number.float x).text ∧
          (Number.float x).text ≠ raw := by
  intro inQuery inJson
  have hne : raw ≠ "" := by
    rintro rfl
    exact hraw.1 rfl
  have htext : nonEmptyText? (.string raw) = some raw := nonEmptyText?_of_scalarText? hne rfl
  have hquery : inQuery =
      compile allowlist presets ⟨[(preset.key, FilterSpec.parameterValue raw)]⟩ :=
    congrArg (compile allowlist presets) (ofQueryPairs_key raw)
  refine ⟨seeks_key hpreset henabled hcolumns htext, ?_, ?_, ?_⟩
  · rw [hquery, compile_key_eq_iff hpreset henabled hcolumns, htext,
      nonEmptyText?_parameterValue_iff hraw]
  · rintro rfl
    rw [hquery, parameterValue_of_parse? Json.parse?_null, Clause.isEmpty_iff]
    exact conditions_key_eq_nil hpreset henabled hcolumns rfl
  · intro x hfloat
    refine ⟨Json.isInexact_of_parse? hraw hfloat, ?_, Json.text_float_ne hraw x⟩
    rw [hquery]
    exact seeks_key hpreset henabled hcolumns (nonEmptyText?_float hfloat)

/-- A code of digits is read as an integer and sought as it is written; the code `null` is not
sought at all, and one with the letter of a power of ten is sought as a double. -/
theorem compile_ofQueryPairs_codes :
    let codes : Allowlist := ⟨["PRODUCT_OR_SERVICE_CODE"]⟩
    let inQuery := fun raw => compile codes [.pscCode] (.ofQueryPairs [("psc_code", raw)])
    let inJson := fun raw => compile codes [.pscCode] ⟨[("psc_code", .string raw)]⟩
    let double : Binary64 := ⟨false, 8246337208320000, -36⟩
    (Json.parse? "7030" = some (.number (.int 7030)) ∧ inQuery "7030" = inJson "7030" ∧
        (inQuery "7030").Seeks codes.columns "7030") ∧
      ((inQuery "null").isEmpty = true ∧ (inJson "null").Seeks codes.columns "null" ∧
        inQuery "null" ≠ inJson "null") ∧
      Json.parse? "12E4" = some (.number (.float double)) ∧
        (inQuery "12E4").Seeks codes.columns "120000.0" ∧ inQuery "12E4" ≠ inJson "12E4" := by
  intro codes inQuery inJson double
  have hpreset : Preset.pscCode ∈ Preset.textual := by decide
  have hcolumns : ∀ column ∈ Preset.pscCode.required, column ∈ codes.columns := fun _ => id
  have hlaw := fun (raw : String) (hraw : Json.IsAlphanumeric raw.toList) =>
    compile_ofQueryPairs_alphanumeric hraw hpreset (List.mem_singleton.mpr rfl) hcolumns
  refine ⟨?_, ?_, ?_⟩
  · have hparse : Json.parse? "7030" = some (.number (.int 7030)) := rfl
    obtain ⟨hseeks, hsame, -, -⟩ := hlaw "7030" (by decide)
    have heq : inQuery "7030" = inJson "7030" := by
      refine hsame.mpr ⟨by decide, fun x hfloat => ?_⟩
      rw [hparse] at hfloat
      cases hfloat
    refine ⟨hparse, heq, ?_⟩
    rw [heq]
    exact hseeks
  · obtain ⟨hseeks, hsame, hnull, -⟩ := hlaw "null" (by decide)
    exact ⟨hnull rfl, hseeks, fun heq => (hsame.mp heq).1 rfl⟩
  · have hparse : Json.parse? "12E4" = some (.number (.float double)) := rfl
    have htext : (Number.float double).text = "120000.0" := by decide +kernel
    obtain ⟨-, hsame, -, hfloat⟩ := hlaw "12E4" (by decide)
    obtain ⟨-, hseeks, -⟩ := hfloat double hparse
    rw [htext] at hseeks
    exact ⟨hparse, hseeks, fun heq => (hsame.mp heq).2 double hparse⟩

/-- A code with the letter of a power of ten is sought as the double that it denotes. -/
theorem power_of_ten_not_seeks_code :
    let codes : Allowlist := ⟨["PRODUCT_OR_SERVICE_CODE"]⟩
    let inQuery := compile codes [.pscCode] (.ofQueryPairs [("psc_code", "12E4")])
    let inJson := compile codes [.pscCode] ⟨[("psc_code", .string "12E4")]⟩
    Json.IsAlphanumeric "12E4".toList ∧ Preset.pscCode ∈ Preset.textual ∧
      inJson.text = "CAST(\"PRODUCT_OR_SERVICE_CODE\" AS TEXT) ILIKE '%12E4%'" ∧
      inQuery.text = "CAST(\"PRODUCT_OR_SERVICE_CODE\" AS TEXT) ILIKE '%120000.0%'" ∧
      ¬inQuery.Seeks codes.columns "12E4" ∧ inQuery ≠ inJson := by
  intro codes inQuery inJson
  obtain ⟨hraw, hpreset, hjson, hquery⟩ :
      Json.IsAlphanumeric "12E4".toList ∧ Preset.pscCode ∈ Preset.textual ∧
        inJson.text = "CAST(\"PRODUCT_OR_SERVICE_CODE\" AS TEXT) ILIKE '%12E4%'" ∧
        inQuery.text = "CAST(\"PRODUCT_OR_SERVICE_CODE\" AS TEXT) ILIKE '%120000.0%'" := by
    decide +kernel
  refine ⟨hraw, hpreset, hjson, hquery, ?_, ?_⟩
  · rintro ⟨e, hread, hseeks⟩
    have hnumber : Expr.ofText? inQuery.text =
        some (.predicate (.like (.asText "PRODUCT_OR_SERVICE_CODE") "%120000.0%")) := by
      rw [hquery]
      rfl
    cases hnumber.symm.trans hread
    exact absurd (hseeks.pattern_eq "%120000.0%" (List.mem_singleton.mpr rfl)) (by decide)
  · intro heq
    rw [heq, hjson] at hquery
    exact absurd hquery (by decide)

end Filter

end DatasetSearch
