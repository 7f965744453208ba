import DatasetSearch.Proofs.Filter.Meaning
import Mathlib.Data.List.Basic

/-!
# The parts of a filter that matter

A filter may name columns in its keys, in the list of columns that must hold data and in the fields
of the exact conditions.  Whatever names no allowed column there is without influence: the filter
without it has the same clause.  So filters that differ in such parts only have the same clause,
whatever these parts say and wherever they stand.
-/

namespace DatasetSearch

open Sql

/-! ### The reduced filter -/

namespace Filter

/-- A key that a clause may depend on: a reserved one, that of an enabled preset, an allowed column,
or an allowed column with the ending of a bound. -/
def Matters (allowlist : Allowlist) (presets : List Preset) (key : String) : Prop :=
  key ∈ reservedKeys ∨ (∃ preset ∈ presets, preset.key = key) ∨ key ∈ allowlist.columns ∨
    ∃ column ∈ allowlist.columns, column ++ "Min" = key ∨ column ++ "Max" = key

instance (allowlist : Allowlist) (presets : List Preset) (key : String) :
    Decidable (Matters allowlist presets key) :=
  inferInstanceAs (Decidable (_ ∨ _ ∨ _ ∨ _))

/-- An item that is the name of an allowed column. -/
def NamesAllowed (allowlist : Allowlist) (item : Json) : Prop :=
  ∃ column ∈ allowlist.columns, item.string? = some column

instance (allowlist : Allowlist) (item : Json) : Decidable (NamesAllowed allowlist item) :=
  inferInstanceAs (Decidable (∃ column ∈ allowlist.columns, item.string? = some column))

/-- A value without the items and fields that name no allowed column, where such are expected. -/
def reducedValue (allowlist : Allowlist) (key : String) : Json → Json
  | .array items =>
    if key = "dataAvailability" then .array (items.filter (NamesAllowed allowlist ·))
    else .array items
  | .object fields =>
    if key = "exact_values" then .object (fields.filter (·.1 ∈ allowlist.columns))
    else .object fields
  | value => value

end Filter

/-- A filter without the parts that name no allowed column. -/
def FilterSpec.reduced (allowlist : Allowlist) (presets : List Filter.Preset) (spec : FilterSpec) :
    FilterSpec :=
  ⟨(spec.fields.filter (Filter.Matters allowlist presets ·.1)).map fun (key, value) =>
    (key, Filter.reducedValue allowlist key value)⟩

/-! ### Looking up what is kept -/

theorem Fields.get?_map_filter {keep : String → Prop} [DecidablePred keep]
    (change : String → Json → Json) {name : String} (hkeep : keep name) (fields : Fields) :
    get? ((fields.filter (keep ·.1)).map fun (key, value) => (key, change key value)) name =
      (get? fields name).map (change name) := by
  induction fields with
  | nil => rfl
  | cons field fields ih =>
    obtain ⟨key, value⟩ := field
    by_cases hname : key = name
    · subst hname
      rw [List.filter_cons_of_pos (by simpa using hkeep)]
      simp [get?]
    · have hskip : get? ((key, value) :: fields) name = get? fields name := by
        simp [get?, hname]
      rw [hskip, ← ih]
      by_cases hkey : keep key
      · rw [List.filter_cons_of_pos (by simpa using hkey)]
        simp [get?, hname]
      · rw [List.filter_cons_of_neg (by simpa using hkey)]

namespace Filter

variable {allowlist : Allowlist} {presets : List Preset}

theorem get?_reduced {key : String} (hkey : Matters allowlist presets key) (spec : FilterSpec) :
    (spec.reduced allowlist presets).get? key =
      (spec.get? key).map (reducedValue allowlist key) :=
  Fields.get?_map_filter (reducedValue allowlist) hkey spec.fields

theorem reducedValue_of_ne {key : String} (hlist : key ≠ "dataAvailability")
    (hexact : key ≠ "exact_values") (value : Json) : reducedValue allowlist key value = value := by
  cases value with
  | array items => exact if_neg hlist
  | object fields => exact if_neg hexact
  | _ => rfl

theorem get?_reduced_of_ne {key : String} (hkey : Matters allowlist presets key)
    (hlist : key ≠ "dataAvailability") (hexact : key ≠ "exact_values") (spec : FilterSpec) :
    (spec.reduced allowlist presets).get? key = spec.get? key := by
  rw [get?_reduced hkey]
  cases spec.get? key with
  | none => rfl
  | some value => exact congrArg some (reducedValue_of_ne hlist hexact value)

theorem connective_reduced (spec : FilterSpec) :
    (spec.reduced allowlist presets).connective = spec.connective := by
  have hoperator : Matters allowlist presets "operator" := .inl (by simp [reservedKeys])
  unfold FilterSpec.connective
  rw [get?_reduced_of_ne hoperator (by decide) (by decide)]

/-! ### Conditions that the keys of fields set -/

theorem reducedValue_of_isGeneric {key : String} (hgeneric : isGeneric presets key = true)
    (value : Json) : reducedValue allowlist key value = value := by
  have hcolumn := (isGeneric_iff.mp hgeneric).1
  refine reducedValue_of_ne ?_ ?_ value
  · rintro rfl
    exact hcolumn (by simp)
  · rintro rfl
    exact hcolumn (by simp)

/-- A rule for fields that name columns by their keys, and only for such whose keys matter. -/
structure IsKeyRule (allowlist : Allowlist) (presets : List Preset)
    (rule : String × Json → Option Condition) : Prop where
  generic : ∀ key value, isGeneric presets key = false → rule (key, value) = none
  matters : ∀ key value, rule (key, value) ≠ none → Matters allowlist presets key

/-- Such a rule sets the same conditions on the reduced filter. -/
theorem IsKeyRule.filterMap_reduced {rule : String × Json → Option Condition}
    (h : IsKeyRule allowlist presets rule) (spec : FilterSpec) :
    (spec.reduced allowlist presets).fields.filterMap rule = spec.fields.filterMap rule := by
  unfold FilterSpec.reduced
  rw [List.filterMap_map, List.filterMap_filter]
  refine List.filterMap_congr fun field _ => ?_
  obtain ⟨key, value⟩ := field
  have hvalue : rule (key, reducedValue allowlist key value) = rule (key, value) := by
    cases hgeneric : isGeneric presets key with
    | true => rw [reducedValue_of_isGeneric hgeneric]
    | false => rw [h.generic key _ hgeneric, h.generic key _ hgeneric]
  by_cases hkey : Matters allowlist presets key
  · simp only [hkey, decide_true, if_true]
    exact hvalue
  · have hnone : rule (key, value) = none := by
      by_contra hsome
      exact hkey (h.matters key value hsome)
    simp only [hkey, decide_false, hnone]
    rfl

theorem isKeyRule_bound? {ending : String} (hending : ending = "Min" ∨ ending = "Max")
    (op : Comparison) : IsKeyRule allowlist presets (bound? allowlist presets ending op) where
  generic key value hgeneric := by
    rw [bound?, hgeneric]
    rfl
  matters key value hsome := by
    simp only [bound?] at hsome
    split at hsome
    · split at hsome
      · next column hdrop =>
        split at hsome
        · next hallowed =>
          refine .inr (.inr (.inr ⟨column, Allowlist.contains_iff.mp hallowed, ?_⟩))
          have hkey := dropEnd?_eq_some_iff.mp hdrop
          rcases hending with rfl | rfl
          · exact .inl hkey
          · exact .inr hkey
        · exact absurd rfl hsome
      · exact absurd rfl hsome
    · exact absurd rfl hsome

theorem isKeyRule_list? : IsKeyRule allowlist presets (list? allowlist presets) where
  generic key value hgeneric := by
    cases value with
    | array items => simp [list?, hgeneric]
    | _ => rfl
  matters key value hsome := by
    unfold list? at hsome
    split at hsome
    · next key items heq =>
      cases heq
      split at hsome
      · next hkey => exact .inr (.inr (.inl (Allowlist.contains_iff.mp hkey.2)))
      · exact absurd rfl hsome
    · exact absurd rfl hsome

/-! ### Conditions that reserved keys and presets set -/

theorem presetConditions_reduced (spec : FilterSpec) :
    presetConditions allowlist presets (spec.reduced allowlist presets) =
      presetConditions allowlist presets spec := by
  refine List.filterMap_congr fun preset hpreset => ?_
  have hkey : Matters allowlist presets preset.key := .inr (.inl ⟨preset, hpreset, rfl⟩)
  rw [get?_reduced_of_ne hkey (by cases preset <;> decide) (by cases preset <;> decide)]

/-- The items that name allowed columns are all that counts of a list. -/
theorem filter_filterMap_string? (items : List Json) :
    ((items.filter (NamesAllowed allowlist ·)).filterMap Json.string?).filter allowlist.contains =
      (items.filterMap Json.string?).filter allowlist.contains := by
  rw [List.filterMap_filter, List.filter_filterMap, List.filter_filterMap]
  refine List.filterMap_congr fun item _ => ?_
  cases hname : item.string? with
  | none => simp
  | some name =>
    by_cases hallowed : name ∈ allowlist.columns
    · have hitem : NamesAllowed allowlist item := ⟨name, hallowed, hname⟩
      simp [hitem]
    · have hcontains : allowlist.contains name = false := by
        rw [← Bool.not_eq_true, Allowlist.contains_iff]
        exact hallowed
      split <;> simp [Option.filter, hcontains]

theorem availability_reduced (spec : FilterSpec) :
    availability allowlist (spec.reduced allowlist presets) = availability allowlist spec := by
  have hkey : Matters allowlist presets "dataAvailability" := .inl (by simp [reservedKeys])
  unfold availability
  rw [get?_reduced hkey, connective_reduced]
  cases spec.get? "dataAvailability" with
  | none => rfl
  | some value =>
    cases value with
    | array items => simp only [Option.map_some, reducedValue, if_true, filter_filterMap_string?]
    | _ => rfl

theorem exactConditions_reduced (spec : FilterSpec) :
    exactConditions allowlist (spec.reduced allowlist presets) =
      exactConditions allowlist spec := by
  have hkey : Matters allowlist presets "exact_values" := .inl (by simp [reservedKeys])
  unfold exactConditions
  rw [get?_reduced hkey]
  cases spec.get? "exact_values" with
  | none => rfl
  | some value =>
    cases value with
    | object fields =>
      simp only [Option.map_some, reducedValue, if_true]
      rw [List.filterMap_filter]
      refine List.filterMap_congr fun field _ => ?_
      obtain ⟨column, entry⟩ := field
      by_cases hallowed : column ∈ allowlist.columns
      · simp [hallowed]
      · simp [hallowed, Allowlist.contains_iff]
    | _ => rfl

/-! ### The law -/

/-- The reduced filter has the same clause, so two filters have the same if they differ in nothing
else than what is left out. -/
theorem compile_reduced (allowlist : Allowlist) (presets : List Preset) (spec : FilterSpec) :
    compile allowlist presets (spec.reduced allowlist presets) = compile allowlist presets spec ∧
      ∀ other : FilterSpec, other.reduced allowlist presets = spec.reduced allowlist presets →
        (compile allowlist presets other).text = (compile allowlist presets spec).text := by
  have hsame (spec : FilterSpec) :
      compile allowlist presets (spec.reduced allowlist presets) =
        compile allowlist presets spec := by
    unfold compile conditions
    rw [connective_reduced, presetConditions_reduced, availability_reduced,
      exactConditions_reduced, (isKeyRule_bound? (.inl rfl) .ge).filterMap_reduced,
      (isKeyRule_bound? (.inr rfl) .le).filterMap_reduced, isKeyRule_list?.filterMap_reduced]
  refine ⟨hsame spec, ?_⟩
  intro other hreduced
  rw [← hsame other, hreduced, hsame spec]

/-- Columns that are not allowed as a bound, as a list, among the columns that must hold data and in
an exact condition. -/
theorem compile_reduced_unknown_columns :
    let allowlist : Allowlist := ⟨["AWARDEE"]⟩
    let spec : FilterSpec :=
      ⟨[("AWARDEEMin", .string "A"), ("dataAvailability", .array [.string "AWARDEE"]),
        ("exact_values", .object [])]⟩
    let other : FilterSpec :=
      ⟨[("OWNERMax", .string "Z"), ("AWARDEEMin", .string "A"), ("OWNER", .array [.string "x"]),
        ("dataAvailability", .array [.string "OWNER", .string "AWARDEE", .null]),
        ("exact_values", .object [("OWNER", .string "' OR 1=1")])]⟩
    other.reduced allowlist Preset.all = spec.reduced allowlist Preset.all ∧
      (compile allowlist Preset.all other).text = (compile allowlist Preset.all spec).text := by
  intro allowlist spec other
  have hreduced : other.reduced allowlist Preset.all = spec.reduced allowlist Preset.all := by rfl
  exact ⟨hreduced, (compile_reduced allowlist Preset.all spec).2 other hreduced⟩

end Filter

end DatasetSearch
