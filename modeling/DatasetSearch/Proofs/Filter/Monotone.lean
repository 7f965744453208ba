import DatasetSearch.Proofs.Filter.Meaning
import DatasetSearch.Proofs.Sql.Restriction

/-!
# Filters with more fields

A field adds conditions to a filter and takes none away, wherever it stands among the others.  So a
filter with more fields selects no other rows under `AND`, and under `OR` it selects what the filter
with fewer fields did, unless that has no condition at all and selects every row.
-/

namespace DatasetSearch

/-! ### Looking fields up -/

theorem Fields.exists_get?_of_mem {fields : Fields} {name : String} {value : Json}
    (h : (name, value) ∈ fields) : ∃ found, get? fields name = some found := by
  have hfound : (fields.find? (·.1 == name)).isSome := List.find?_isSome.mpr ⟨_, h, by simp⟩
  obtain ⟨field, hfield⟩ := Option.isSome_iff_exists.mp hfound
  exact ⟨field.2, by rw [get?, hfield, Option.map_some]⟩

theorem Fields.get?_eq_some_iff {fields : Fields} (h : (fields.map Prod.fst).Nodup) {name : String}
    {value : Json} : get? fields name = some value ↔ (name, value) ∈ fields := by
  refine ⟨mem_of_get?, fun hmem => ?_⟩
  obtain ⟨before, after, rfl⟩ := List.append_of_mem hmem
  have hother : ∀ field ∈ before, ¬(field.1 == name) = true := by
    intro field hfield
    rw [List.map_append, List.map_cons, List.nodup_append] at h
    simpa using h.2.2 field.1 (List.mem_map_of_mem hfield) name List.mem_cons_self
  rw [get?, List.find?_append, List.find?_eq_none.mpr hother]
  simp

/-! ### Clauses with more conditions -/

namespace Sql.Clause

/-- The value of a clause; one without conditions holds. -/
def truth (clause : Clause) (value : Predicate → Truth) : Truth :=
  if clause.conditions = [] then .holds
  else clause.connective.combine (clause.conditions.map (·.expr.eval value))

theorem IsReadable.exists_ofClause? {clause : Clause} (h : clause.IsReadable) :
    ∃ e, Expr.ofClause? clause.text = some e ∧ ∀ value, e.eval value = clause.truth value := by
  by_cases hnil : clause.conditions = []
  · refine ⟨.always, ofClause?_of_nil hnil, fun value => ?_⟩
    rw [truth, if_pos hnil]
    rfl
  · refine ⟨clause.reading, ofClause?_of_ne_nil h hnil, fun value => ?_⟩
    rw [truth, if_neg hnil, h.eval_reading hnil, List.map_map]
    rfl

variable {narrow wide : Clause} {value : Predicate → Truth}

theorem truth_eq_holds_iff_of_and (h : wide.connective = .and) :
    wide.truth value = .holds ↔ ∀ c ∈ wide.conditions, c.expr.eval value = .holds := by
  unfold truth
  split
  · next hnil => simp [hnil]
  · rw [h, Connective.combine_and_eq_holds_iff, List.forall_mem_map]

theorem truth_eq_holds_iff_of_or (h : wide.connective = .or) (hne : wide.conditions ≠ []) :
    wide.truth value = .holds ↔ ∃ c ∈ wide.conditions, c.expr.eval value = .holds := by
  rw [truth, if_neg hne, h, Connective.combine_or_eq_holds_iff, List.mem_map]

/-- A conjunction that holds does so with fewer conditions. -/
theorem holds_of_subset_of_and (hnarrow : narrow.connective = .and) (hwide : wide.connective = .and)
    (hsub : narrow.conditions ⊆ wide.conditions) (h : wide.truth value = .holds) :
    narrow.truth value = .holds :=
  (truth_eq_holds_iff_of_and hnarrow).mpr fun c hc =>
    (truth_eq_holds_iff_of_and hwide).mp h c (hsub hc)

/-- A disjunction that holds does so with more conditions. -/
theorem holds_of_subset_of_or (hnarrow : narrow.connective = .or) (hwide : wide.connective = .or)
    (hsub : narrow.conditions ⊆ wide.conditions) (hne : narrow.conditions ≠ [])
    (h : narrow.truth value = .holds) : wide.truth value = .holds := by
  obtain ⟨c, hc, hholds⟩ := (truth_eq_holds_iff_of_or hnarrow hne).mp h
  have hwidened : wide.conditions ≠ [] := List.ne_nil_of_mem (hsub hc)
  exact (truth_eq_holds_iff_of_or hwide hwidened).mpr ⟨c, hsub hc, hholds⟩

/-- The order of the conditions does not matter, nor does it matter how often one occurs. -/
theorem truth_eq_of_subset_of_subset (hop : narrow.connective = wide.connective)
    (hsub : narrow.conditions ⊆ wide.conditions) (hsup : wide.conditions ⊆ narrow.conditions) :
    narrow.truth value = wide.truth value := by
  have hnil : narrow.conditions = [] ↔ wide.conditions = [] := by
    constructor
    · intro hnone
      exact List.subset_nil.mp (hnone ▸ hsup)
    · intro hnone
      exact List.subset_nil.mp (hnone ▸ hsub)
  simp only [truth, hnil, hop]
  congr 1
  refine Connective.combine_eq_of_mem_iff fun truth => ?_
  constructor
  · exact fun hmem => List.map_subset _ hsub hmem
  · exact fun hmem => List.map_subset _ hsup hmem

end Sql.Clause

namespace Filter

open Sql

/-! ### Conditions of filters with more fields -/

/-- A filter with a part of the fields of another, and the same connective. -/
structure IsPart (narrow wide : FilterSpec) : Prop where
  field : ∀ field ∈ narrow.fields, field ∈ wide.fields
  value : ∀ {key value}, narrow.get? key = some value → wide.get? key = some value
  connective : narrow.connective = wide.connective

variable {allowlist : Allowlist} {presets : List Preset} {narrow wide : FilterSpec}

theorem IsPart.of_nodup (hkeys : (wide.fields.map Prod.fst).Nodup)
    (hop : narrow.connective = wide.connective)
    (hsub : ∀ field ∈ narrow.fields, field ∈ wide.fields) : IsPart narrow wide where
  field := hsub
  value h := (Fields.get?_eq_some_iff hkeys).mpr (hsub _ (Fields.mem_of_get? h))
  connective := hop

/-- A filter that has all the fields of which it has a part says the same by each name. -/
theorem IsPart.symm (h : IsPart narrow wide)
    (hback : ∀ field ∈ wide.fields, field ∈ narrow.fields) : IsPart wide narrow where
  field := hback
  value {key value} hvalue := by
    have hmem : (key, value) ∈ narrow.fields := hback _ (Fields.mem_of_get? hvalue)
    obtain ⟨other, hother⟩ := Fields.exists_get?_of_mem hmem
    have hsame : some value = some other := hvalue.symm.trans (h.value hother)
    rw [hsame]
    exact hother
  connective := h.connective.symm

theorem IsPart.filterMap_subset (h : IsPart narrow wide)
    (rule : String × Json → Option Condition) :
    narrow.fields.filterMap rule ⊆ wide.fields.filterMap rule := by
  intro c hc
  obtain ⟨field, hfield, hrule⟩ := List.mem_filterMap.mp hc
  exact List.mem_filterMap.mpr ⟨field, h.field field hfield, hrule⟩

theorem IsPart.presetConditions_subset (h : IsPart narrow wide) :
    presetConditions allowlist presets narrow ⊆ presetConditions allowlist presets wide := by
  intro c hc
  obtain ⟨preset, hpreset, hrule⟩ := List.mem_filterMap.mp hc
  obtain ⟨value, hvalue, hcondition⟩ := Option.bind_eq_some_iff.mp hrule
  refine List.mem_filterMap.mpr ⟨preset, hpreset, ?_⟩
  rw [h.value hvalue]
  exact hcondition

theorem IsPart.availability_subset (h : IsPart narrow wide) :
    availability allowlist narrow ⊆ availability allowlist wide := by
  unfold availability
  cases hvalue : narrow.get? "dataAvailability" with
  | none => exact List.nil_subset _
  | some value =>
    rw [h.value hvalue, h.connective]
    exact List.Subset.refl _

theorem IsPart.exactConditions_subset (h : IsPart narrow wide) :
    exactConditions allowlist narrow ⊆ exactConditions allowlist wide := by
  unfold exactConditions
  cases hvalue : narrow.get? "exact_values" with
  | none => exact List.nil_subset _
  | some value =>
    rw [h.value hvalue]
    exact List.Subset.refl _

theorem IsPart.conditions_subset (h : IsPart narrow wide) :
    conditions allowlist presets narrow ⊆ conditions allowlist presets wide := by
  intro c hc
  simp only [conditions, List.mem_append] at hc ⊢
  rcases hc with ((((hpreset | hlower) | hupper) | hlist) | havailable) | hexact
  · exact .inl (.inl (.inl (.inl (.inl (h.presetConditions_subset hpreset)))))
  · exact .inl (.inl (.inl (.inl (.inr (h.filterMap_subset _ hlower)))))
  · exact .inl (.inl (.inl (.inr (h.filterMap_subset _ hupper))))
  · exact .inl (.inl (.inr (h.filterMap_subset _ hlist)))
  · exact .inl (.inr (h.availability_subset havailable))
  · exact .inr (h.exactConditions_subset hexact)

/-! ### The law -/

/-- Whatever the values of the predicates, more fields make the clause of a filter hold less often
under `AND` and more often under `OR`, unless the filter with fewer has an empty clause.  The same
fields in another order make a clause of the same value. -/
theorem compile_monotone (hplain : allowlist.IsPlain) (presets : List Preset)
    (hkeys : (wide.fields.map Prod.fst).Nodup) (hop : narrow.connective = wide.connective)
    (hsub : ∀ field ∈ narrow.fields, field ∈ wide.fields) :
    ∃ e f, Expr.ofClause? (compile allowlist presets narrow).text = some e ∧
      Expr.ofClause? (compile allowlist presets wide).text = some f ∧
      ∀ value : Predicate → Truth,
        (wide.connective = .and → f.eval value = .holds → e.eval value = .holds) ∧
        (wide.connective = .or → (compile allowlist presets narrow).text ≠ "" →
          e.eval value = .holds → f.eval value = .holds) ∧
        ((∀ field ∈ wide.fields, field ∈ narrow.fields) → e.eval value = f.eval value) := by
  have hnarrow : (compile allowlist presets narrow).IsReadable := isReadable_compile hplain
  have hwide : (compile allowlist presets wide).IsReadable := isReadable_compile hplain
  have hpart : IsPart narrow wide := .of_nodup hkeys hop hsub
  have hmore : (compile allowlist presets narrow).conditions ⊆
      (compile allowlist presets wide).conditions := hpart.conditions_subset
  obtain ⟨e, he, heval⟩ := hnarrow.exists_ofClause?
  obtain ⟨f, hf, hfeval⟩ := hwide.exists_ofClause?
  refine ⟨e, f, he, hf, fun value => ?_⟩
  rw [heval, hfeval]
  refine ⟨?_, ?_, ?_⟩
  · intro hand
    exact Clause.holds_of_subset_of_and (hop.trans hand) hand hmore
  · intro hor htext
    have hne := fun hnil => htext (hnarrow.text_eq_empty_iff.mpr hnil)
    exact Clause.holds_of_subset_of_or (hop.trans hor) hor hmore hne
  · intro hback
    exact Clause.truth_eq_of_subset_of_subset hop hmore (hpart.symm hback).conditions_subset

/-- One more alternative in front of a bound, and columns that must hold data behind it. -/
theorem compile_monotone_alternatives :
    let allowlist : Allowlist := ⟨["AWARDEE", "TITLE"]⟩
    let narrow : FilterSpec := ⟨[("operator", .string "or"), ("TITLEMin", .string "A")]⟩
    let wide : FilterSpec :=
      ⟨[("awardee", .string "Ltd"), ("TITLEMin", .string "A"),
        ("dataAvailability", .array [.string "AWARDEE"]), ("operator", .string "or")]⟩
    allowlist.IsPlain ∧ (wide.fields.map Prod.fst).Nodup ∧ narrow.connective = wide.connective ∧
      (∀ field ∈ narrow.fields, field ∈ wide.fields) ∧ wide.connective = .or ∧
      (compile allowlist Preset.all narrow).text ≠ "" ∧
      ∃ e f, Expr.ofClause? (compile allowlist Preset.all narrow).text = some e ∧
        Expr.ofClause? (compile allowlist Preset.all wide).text = some f ∧
        ∀ value : Predicate → Truth, e.eval value = .holds → f.eval value = .holds := by
  intro allowlist narrow wide
  have hplain : allowlist.IsPlain := by
    unfold Allowlist.IsPlain
    decide
  have hkeys : (wide.fields.map Prod.fst).Nodup := by decide
  have hop : narrow.connective = wide.connective := rfl
  have hor : wide.connective = .or := rfl
  have hsub : ∀ field ∈ narrow.fields, field ∈ wide.fields := by simp [narrow, wide]
  have htext : (compile allowlist Preset.all narrow).text ≠ "" := by decide
  obtain ⟨e, f, he, hf, hlaw⟩ := compile_monotone hplain Preset.all hkeys hop hsub
  exact ⟨hplain, hkeys, hop, hsub, hor, htext, e, f, he, hf,
    fun value => (hlaw value).2.1 hor htext⟩

end Filter

end DatasetSearch
