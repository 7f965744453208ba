import Mathlib.Data.List.Induction
import DatasetSearch.Proofs.Occurrence
import DatasetSearch.Proofs.Service.QueryString
import DatasetSearch.Proofs.Text.Words

/-!
# What each pair of a query string means

A pair sets the parameter that its key names, or else a filter.  Pairs may repeat: the last one
counts, and a filter stands where its key was first given.  A pair that should hold a number and
holds none is refused, wherever it stands, and the first such pair is the one that is named.
-/

namespace DatasetSearch

/-! ### Fields that are set -/

namespace Fields

theorem map_fst_insert_of_mem {fields : Fields} {name : String} (h : name ∈ fields.map Prod.fst)
    (value : Json) : (insert name value fields).map Prod.fst = fields.map Prod.fst := by
  induction fields with
  | nil => cases h
  | cons field fields ih =>
    obtain ⟨key, old⟩ := field
    by_cases hkey : key = name
    · rw [insert, if_pos hkey, List.map_cons, List.map_cons]
    · have hrest : name ∈ fields.map Prod.fst := by
        rcases List.mem_cons.mp h with heq | hrest
        · exact absurd heq.symm hkey
        · exact hrest
      rw [insert, if_neg hkey, List.map_cons, List.map_cons, ih hrest]

/-- A field that has been set has its new value, and every other field is as before. -/
theorem eq_or_mem_of_mem_insert {fields : Fields} (h : (fields.map Prod.fst).Nodup) {name : String}
    {value : Json} {field : String × Json} (hmem : field ∈ insert name value fields) :
    field = (name, value) ∨ field ∈ fields ∧ field.1 ≠ name := by
  induction fields with
  | nil => exact .inl (List.mem_singleton.mp hmem)
  | cons first fields ih =>
    obtain ⟨key, old⟩ := first
    obtain ⟨hnotMem, hrest⟩ := List.nodup_cons.mp h
    by_cases hkey : key = name
    · subst hkey
      rw [insert, if_pos rfl] at hmem
      rcases List.mem_cons.mp hmem with rfl | hlater
      · exact .inl rfl
      · refine .inr ⟨List.mem_cons_of_mem _ hlater, ?_⟩
        intro hsame
        exact hnotMem (List.mem_map.mpr ⟨field, hlater, hsame⟩)
    · rw [insert, if_neg hkey] at hmem
      rcases List.mem_cons.mp hmem with rfl | hlater
      · exact .inr ⟨List.mem_cons_self, hkey⟩
      · rcases ih hrest hlater with heq | ⟨hold, hne⟩
        · exact .inl heq
        · exact .inr ⟨List.mem_cons_of_mem _ hold, hne⟩

end Fields

namespace Service

/-! ### The keys of parameters -/

/-- What a request can be given besides its filters. -/
inductive Parameter
  | page | pageSize | keywords | orderBy
deriving DecidableEq

/-- The keys of a parameter; two of the parameters have two. -/
def Parameter.keys : Parameter → List String
  | .page => ["page"]
  | .pageSize => ["page_size", "pageSize"]
  | .keywords => ["search_keywords", "keywords"]
  | .orderBy => ["order_by"]

def IsParameter (key : String) : Prop := ∃ parameter : Parameter, key ∈ parameter.keys

theorem isParameter_iff {key : String} :
    IsParameter key ↔ key ∈ FilterSpec.reservedParameters := by
  constructor
  · rintro ⟨parameter, hkey⟩
    have hall : ∀ key ∈ parameter.keys, key ∈ FilterSpec.reservedParameters := by
      rcases parameter <;> decide
    exact hall key hkey
  · intro hkey
    simp only [FilterSpec.reservedParameters, List.mem_cons, List.not_mem_nil, or_false] at hkey
    rcases hkey with rfl | rfl | rfl | rfl | rfl | rfl
    · exact ⟨.page, by decide⟩
    · exact ⟨.pageSize, by decide⟩
    · exact ⟨.pageSize, by decide⟩
    · exact ⟨.keywords, by decide⟩
    · exact ⟨.keywords, by decide⟩
    · exact ⟨.orderBy, by decide⟩

instance : DecidablePred IsParameter := fun _ => decidable_of_iff _ isParameter_iff.symm

/-- No key is that of two parameters. -/
theorem Parameter.eq_of_mem_keys {key : String} {parameter other : Parameter}
    (h : key ∈ parameter.keys) (hother : key ∈ other.keys) : parameter = other := by
  have hall : ∀ key ∈ parameter.keys, key ∈ other.keys → parameter = other := by
    rcases parameter <;> rcases other <;> decide
  exact hall key h hother

/-! ### The last value under a key -/

/-- The last of the values that are given under some keys. -/
def lastUnder (keys : List String) (pairs : List (String × String)) : Option String :=
  ((pairs.filter (·.1 ∈ keys)).getLast?).map Prod.snd

variable {keys : List String} {key : String}

theorem lastUnder_concat_of_mem (h : key ∈ keys) (pairs : List (String × String)) (raw : String) :
    lastUnder keys (pairs ++ [(key, raw)]) = some raw := by
  simp [lastUnder, List.filter_append, h]

theorem lastUnder_concat_of_notMem (h : key ∉ keys) (pairs : List (String × String))
    (raw : String) : lastUnder keys (pairs ++ [(key, raw)]) = lastUnder keys pairs := by
  simp [lastUnder, List.filter_append, h]

namespace SearchRequest

/-! ### Numbers -/

/-- A text that denotes a 32-bit word; blanks may stand around it. -/
def IsNumber (raw : String) (n : UInt32) : Prop :=
  ∃ text, Text.IsTrimmed raw text ∧ Text.IsWritten text n

theorem isNumber_iff {raw : String} {n : UInt32} :
    IsNumber raw n ↔ Text.word32? (Text.trim raw) = some n := by
  rw [Text.word32?_eq_some_iff]
  constructor
  · rintro ⟨text, htrimmed, hwritten⟩
    rwa [Text.isTrimmed_iff.mp htrimmed]
  · intro hwritten
    exact ⟨_, Text.isTrimmed_trim raw, hwritten⟩

/-- A text denotes one word at most. -/
theorem IsNumber.eq {raw : String} {m n : UInt32} (hm : IsNumber raw m) (hn : IsNumber raw n) :
    m = n := by
  rw [isNumber_iff] at hm hn
  exact Option.some_inj.mp (hm.symm.trans hn)

theorem number_eq_ok_iff {key raw : String} {n : UInt32} :
    number key raw = .ok n ↔ IsNumber raw n := by
  rw [isNumber_iff, number]
  cases Text.word32? (Text.trim raw) with
  | none => simp
  | some m => simp

/-! ### Pairs that should hold a number -/

def numberParameters : List String := ["page", "page_size", "pageSize"]

/-- A pair that holds a number if it should. -/
def IsReadable (parameter : String × String) : Prop :=
  parameter.1 ∈ numberParameters → ∃ n, IsNumber parameter.2 n

theorem exists_withParameter_eq_map (request : SearchRequest) (h : key ∈ numberParameters)
    (raw : String) :
    ∃ set, request.withParameter key raw = (number key raw).map set := by
  simp only [numberParameters, List.mem_cons, List.not_mem_nil, or_false] at h
  rcases h with rfl | rfl | rfl
  · rw [withParameter]
    exact ⟨_, rfl⟩
  · rw [withParameter]
    exact ⟨_, rfl⟩
  · rw [withParameter]
    exact ⟨_, rfl⟩

theorem exists_withParameter_eq_ok (request : SearchRequest) (h : key ∉ numberParameters)
    (raw : String) :
    ∃ later, request.withParameter key raw = .ok later := by
  unfold withParameter
  split
  · exact absurd (by decide) h
  · exact absurd (by decide) h
  · exact absurd (by decide) h
  · exact ⟨_, rfl⟩
  · exact ⟨_, rfl⟩
  · exact ⟨_, rfl⟩
  · exact ⟨_, rfl⟩

/-- The error that names a pair and what it holds instead of a number. -/
def noNumber (parameter : String × String) : Error :=
  .validation (parameter.1 ++ " must be a positive integer, got '" ++ parameter.2 ++ "'")

theorem withParameter_cases (request : SearchRequest) (p : String × String) :
    (¬IsReadable p ∧ request.withParameter p.1 p.2 = .error (noNumber p)) ∨
      (IsReadable p ∧ ∃ later, request.withParameter p.1 p.2 = .ok later) := by
  by_cases hkey : p.1 ∈ numberParameters
  · obtain ⟨set, hset⟩ := exists_withParameter_eq_map request hkey p.2
    rw [hset, number]
    cases hraw : Text.word32? (Text.trim p.2) with
    | none =>
      refine .inl ⟨?_, rfl⟩
      intro hreadable
      obtain ⟨n, hn⟩ := hreadable hkey
      rw [isNumber_iff, hraw] at hn
      cases hn
    | some n => exact .inr ⟨fun _ => ⟨n, isNumber_iff.mpr hraw⟩, _, rfl⟩
  · exact .inr ⟨fun h => absurd h hkey, exists_withParameter_eq_ok request hkey p.2⟩

/-- The first of some pairs that should hold a number and holds none. -/
def IsFirstFault (parameters : List (String × String)) (p : String × String) : Prop :=
  ∃ before after, parameters = before ++ p :: after ∧ (∀ q ∈ before, IsReadable q) ∧ ¬IsReadable p

section

variable {parameters : List (String × String)} {p q : String × String}

theorem IsFirstFault.mem (h : IsFirstFault parameters p) : p ∈ parameters := by
  obtain ⟨before, after, rfl, -⟩ := h
  exact List.mem_append_right before List.mem_cons_self

theorem IsFirstFault.not_isReadable (h : IsFirstFault parameters p) : ¬IsReadable p := by
  obtain ⟨-, -, -, -, hfault⟩ := h
  exact hfault

theorem IsFirstFault.eq (h : IsFirstFault parameters p) (hq : IsFirstFault parameters q) :
    p = q := by
  classical
  have hfind : ∀ {r : String × String}, IsFirstFault parameters r →
      parameters.find? (¬IsReadable ·) = some r := by
    rintro r ⟨before, after, hparts, hbefore, hr⟩
    rw [List.find?_eq_some_iff_append]
    exact ⟨by simpa using hr, before, after, hparts, by simpa using hbefore⟩
  exact Option.some_inj.mp ((hfind h).symm.trans (hfind hq))

end

theorem withParameters_cons (request : SearchRequest) (p : String × String)
    (parameters : List (String × String)) :
    request.withParameters (p :: parameters) =
      request.withParameter p.1 p.2 >>= (·.withParameters parameters) := rfl

/-- Parameters are read unless one of them should be a number and is none, wherever it stands.  The
first such one is named. -/
theorem withParameters_cases (request : SearchRequest) (parameters : List (String × String)) :
    (∃ p, IsFirstFault parameters p ∧ request.withParameters parameters = .error (noNumber p)) ∨
      ((∀ p ∈ parameters, IsReadable p) ∧
        ∃ later, request.withParameters parameters = .ok later) := by
  induction parameters generalizing request with
  | nil => exact .inr ⟨by simp, request, rfl⟩
  | cons p parameters ih =>
    rcases request.withParameter_cases p with ⟨hfault, hfirst⟩ | ⟨hreadable, next, hfirst⟩
    · refine .inl ⟨p, ⟨[], parameters, rfl, by simp, hfault⟩, ?_⟩
      rw [withParameters_cons, hfirst]
      rfl
    · have hrest : request.withParameters (p :: parameters) = next.withParameters parameters := by
        rw [withParameters_cons, hfirst]
        rfl
      rw [hrest]
      rcases ih next with ⟨q, ⟨before, after, rfl, hbefore, hq⟩, herror⟩ | ⟨hall, hok⟩
      · exact .inl ⟨q, ⟨p :: before, after, rfl, List.forall_mem_cons.mpr ⟨hreadable, hbefore⟩, hq⟩,
          herror⟩
      · exact .inr ⟨List.forall_mem_cons.mpr ⟨hreadable, hall⟩, hok⟩

/-! ### What the parameters are set to -/

/-- A request holds a parameter as the last value that is given for it says, if there is one. -/
def Holds (request : SearchRequest) (last : Option String) : Parameter → Prop
  | .page => Option.Rel IsNumber last request.page
  | .pageSize => Option.Rel IsNumber last request.pageSize
  | .keywords => request.keywords = last.getD ""
  | .orderBy => request.orderBy = last

/-- The request after a parameter has been set to what a text gives. -/
inductive Sets (raw : String) (request : SearchRequest) : Parameter → SearchRequest → Prop
  | page {n : UInt32} (h : IsNumber raw n) : Sets raw request .page { request with page := some n }
  | pageSize {n : UInt32} (h : IsNumber raw n) :
      Sets raw request .pageSize { request with pageSize := some n }
  | keywords : Sets raw request .keywords { request with keywords := raw }
  | orderBy : Sets raw request .orderBy { request with orderBy := some raw }

variable {raw : String} {request later : SearchRequest} {pairs done : List (String × String)}
  {parameter other : Parameter}

theorem Sets.filters_eq (h : Sets raw request parameter later) :
    later.filters = request.filters := by
  cases h <;> rfl

theorem Sets.holds (h : Sets raw request parameter later) : later.Holds (some raw) parameter := by
  cases h with
  | page hn => exact .some hn
  | pageSize hn => exact .some hn
  | keywords => rfl
  | orderBy => rfl

theorem Sets.holds_of_ne (h : Sets raw request parameter later) (hne : other ≠ parameter)
    {last : Option String} (hheld : request.Holds last other) : later.Holds last other := by
  cases h <;> cases other <;> first | exact hheld | exact absurd rfl hne

theorem number_map_eq_ok {set : UInt32 → SearchRequest}
    (h : (number key raw).map set = .ok later) : ∃ n, IsNumber raw n ∧ set n = later := by
  cases hnumber : number key raw with
  | error e =>
    rw [hnumber] at h
    cases h
  | ok n =>
    rw [hnumber] at h
    cases h
    exact ⟨n, number_eq_ok_iff.mp hnumber, rfl⟩

/-- A pair that is read sets the parameter that has its key; if none has it, nothing changes. -/
theorem withParameter_eq_ok (h : request.withParameter key raw = .ok later) :
    (∃ parameter : Parameter, key ∈ parameter.keys ∧ Sets raw request parameter later) ∨
      ¬IsParameter key ∧ later = request := by
  by_cases hkey : IsParameter key
  · obtain ⟨parameter, hkey⟩ := hkey
    refine .inl ⟨parameter, hkey, ?_⟩
    cases parameter with
    | page =>
      simp only [Parameter.keys, List.mem_cons, List.not_mem_nil, or_false] at hkey
      subst hkey
      rw [withParameter] at h
      obtain ⟨n, hn, rfl⟩ := number_map_eq_ok h
      exact .page hn
    | pageSize =>
      simp only [Parameter.keys, List.mem_cons, List.not_mem_nil, or_false] at hkey
      rcases hkey with rfl | rfl
      all_goals
        rw [withParameter] at h
        obtain ⟨n, hn, rfl⟩ := number_map_eq_ok h
        exact .pageSize hn
    | keywords =>
      rw [withParameter_keywords hkey] at h
      cases h
      exact .keywords
    | orderBy =>
      simp only [Parameter.keys, List.mem_cons, List.not_mem_nil, or_false] at hkey
      subst hkey
      rw [withParameter] at h
      cases h
      exact .orderBy
  · rw [withParameter_of_notMem (mt isParameter_iff.mpr hkey)] at h
    cases h
    exact .inr ⟨hkey, rfl⟩

/-- One more pair sets the parameter that has its key, and leaves the others and the filters. -/
theorem holds_withParameter
    (h : ∀ parameter : Parameter, request.Holds (lastUnder parameter.keys done) parameter)
    (hlater : request.withParameter key raw = .ok later) :
    later.filters = request.filters ∧
      ∀ parameter : Parameter,
        later.Holds (lastUnder parameter.keys (done ++ [(key, raw)])) parameter := by
  rcases withParameter_eq_ok hlater with ⟨parameter, hkey, hsets⟩ | ⟨hkey, rfl⟩
  · refine ⟨hsets.filters_eq, ?_⟩
    intro other
    by_cases hsame : other = parameter
    · subst hsame
      rw [lastUnder_concat_of_mem hkey]
      exact hsets.holds
    · rw [lastUnder_concat_of_notMem fun hother => hsame (Parameter.eq_of_mem_keys hother hkey)]
      exact hsets.holds_of_ne hsame (h other)
  · refine ⟨rfl, ?_⟩
    intro other
    rw [lastUnder_concat_of_notMem fun hother => hkey ⟨other, hother⟩]
    exact h other

/-- The last pair under a key counts, over all the pairs that are read. -/
theorem holds_withParameters
    (h : ∀ parameter : Parameter, request.Holds (lastUnder parameter.keys done) parameter)
    (hlater : request.withParameters pairs = .ok later) :
    later.filters = request.filters ∧
      ∀ parameter : Parameter,
        later.Holds (lastUnder parameter.keys (done ++ pairs)) parameter := by
  induction pairs generalizing done request with
  | nil =>
    cases hlater
    rw [List.append_nil]
    exact ⟨rfl, h⟩
  | cons p pairs ih =>
    rw [withParameters_cons] at hlater
    cases hnext : request.withParameter p.1 p.2 with
    | error e =>
      rw [hnext] at hlater
      cases hlater
    | ok next =>
      rw [hnext] at hlater
      obtain ⟨hfilters, hholds⟩ := holds_withParameter h hnext
      obtain ⟨hrest, hall⟩ := ih hholds hlater
      rw [List.append_assoc, List.singleton_append] at hall
      exact ⟨hrest.trans hfilters, hall⟩

theorem holds_empty (filters : FilterSpec) (parameter : Parameter) :
    Holds { empty with filters := filters } (lastUnder parameter.keys []) parameter := by
  cases parameter with
  | page => exact .none
  | pageSize => exact .none
  | keywords => rfl
  | orderBy => rfl

end SearchRequest

/-! ### The other pairs -/

variable {raw : String} {pairs : List (String × String)} {spec other : FilterSpec}

/-- The keys of the pairs that set no parameter. -/
def otherKeys (pairs : List (String × String)) : List String :=
  (pairs.map Prod.fst).filter (¬IsParameter ·)

/-- What a text gives a filter: the JSON value that it is, or else the text itself. -/
def GivesValue (raw : String) (value : Json) : Prop :=
  Json.parse? raw = some value ∨ Json.parse? raw = none ∧ value = .string raw

/-- The filters that pairs set: each stands where its key was first given, and has what the last
pair with its key gives. -/
structure HoldsFilters (pairs : List (String × String)) (spec : FilterSpec) : Prop where
  keys : AreFirsts (spec.fields.map Prod.fst) (otherKeys pairs)
  values : ∀ field ∈ spec.fields, ∃ raw,
    lastUnder [field.1] pairs = some raw ∧ GivesValue raw field.2

theorem givesValue_iff {value : Json} :
    GivesValue raw value ↔ FilterSpec.parameterValue raw = value := by
  unfold GivesValue FilterSpec.parameterValue
  cases hparse : Json.parse? raw with
  | none => simp [eq_comm]
  | some read => simp

theorem mem_otherKeys : key ∈ otherKeys pairs ↔ (∃ p ∈ pairs, p.1 = key) ∧ ¬IsParameter key := by
  simp [otherKeys]

theorem otherKeys_concat_of_isParameter (h : IsParameter key) :
    otherKeys (pairs ++ [(key, raw)]) = otherKeys pairs := by
  simp [otherKeys, List.filter_append, h]

theorem otherKeys_concat (h : ¬IsParameter key) :
    otherKeys (pairs ++ [(key, raw)]) = otherKeys pairs ++ [key] := by
  simp [otherKeys, List.filter_append, h]

theorem ofQueryPairs_concat_of_isParameter (h : IsParameter key) :
    FilterSpec.ofQueryPairs (pairs ++ [(key, raw)]) = .ofQueryPairs pairs := by
  rw [isParameter_iff] at h
  simp [FilterSpec.ofQueryPairs, List.filter_append, h]

theorem ofQueryPairs_concat (h : ¬IsParameter key) :
    FilterSpec.ofQueryPairs (pairs ++ [(key, raw)]) =
      (FilterSpec.ofQueryPairs pairs).insert key (FilterSpec.parameterValue raw) := by
  rw [isParameter_iff] at h
  simp [FilterSpec.ofQueryPairs, FilterSpec.insert, Fields.ofPairs, List.filter_append, h]

/-- A pair that sets a parameter leaves the filters as they are. -/
theorem HoldsFilters.concat_of_isParameter (h : HoldsFilters pairs spec) (hkey : IsParameter key)
    (raw : String) : HoldsFilters (pairs ++ [(key, raw)]) spec where
  keys := by
    rw [otherKeys_concat_of_isParameter hkey]
    exact h.keys
  values := by
    intro field hfield
    have hother : field.1 ∈ otherKeys pairs :=
      (h.keys.mem_iff field.1).mp (List.mem_map_of_mem hfield)
    have hne : key ∉ [field.1] := by
      intro hsame
      rw [List.mem_singleton.mp hsame] at hkey
      exact (mem_otherKeys.mp hother).2 hkey
    rw [lastUnder_concat_of_notMem hne]
    exact h.values field hfield

/-- Any other pair sets the filter that has its key: in place if it is present, else at the end. -/
theorem HoldsFilters.insert (h : HoldsFilters pairs spec) (hkey : ¬IsParameter key)
    (raw : String) :
    HoldsFilters (pairs ++ [(key, raw)]) (spec.insert key (FilterSpec.parameterValue raw)) where
  keys := by
    rw [otherKeys_concat hkey, FilterSpec.insert]
    by_cases hpresent : key ∈ spec.fields.map Prod.fst
    · rw [Fields.map_fst_insert_of_mem hpresent]
      exact h.keys.concat_of_mem ((h.keys.mem_iff key).mp hpresent)
    · rw [Fields.insert_of_notMem hpresent, List.map_append]
      exact h.keys.concat_of_notMem (mt (h.keys.mem_iff key).mpr hpresent)
  values := by
    intro field hfield
    rcases Fields.eq_or_mem_of_mem_insert h.keys.nodup hfield with rfl | ⟨hold, hne⟩
    · exact ⟨raw, lastUnder_concat_of_mem List.mem_cons_self pairs raw, givesValue_iff.mpr rfl⟩
    · rw [lastUnder_concat_of_notMem (by simpa using hne.symm)]
      exact h.values field hold

theorem holdsFilters_ofQueryPairs (pairs : List (String × String)) :
    HoldsFilters pairs (FilterSpec.ofQueryPairs pairs) := by
  induction pairs using List.reverseRecOn with
  | nil => exact ⟨.nil, by simp [FilterSpec.ofQueryPairs, Fields.ofPairs]⟩
  | append_singleton pairs p ih =>
    by_cases hkey : IsParameter p.1
    · rw [ofQueryPairs_concat_of_isParameter hkey]
      exact ih.concat_of_isParameter hkey p.2
    · rw [ofQueryPairs_concat hkey]
      exact ih.insert hkey p.2

/-- The order and the values determine the filters. -/
theorem HoldsFilters.eq (h : HoldsFilters pairs spec) (hother : HoldsFilters pairs other) :
    spec = other := by
  have hkeys : spec.fields.map Prod.fst = other.fields.map Prod.fst := h.keys.eq hother.keys
  have hfields : spec.fields = other.fields := by
    apply List.ext_getElem
    · simpa using congrArg List.length hkeys
    · intro i hi hiother
      have hkey : spec.fields[i].1 = other.fields[i].1 := by
        simpa [hi, hiother] using congrArg (·[i]?) hkeys
      obtain ⟨raw, hlast, hgives⟩ := h.values _ (List.getElem_mem hi)
      obtain ⟨last, hlastOther, hgivesOther⟩ := hother.values _ (List.getElem_mem hiother)
      rw [hkey, hlastOther] at hlast
      cases hlast
      rw [givesValue_iff] at hgives hgivesOther
      exact Prod.ext hkey (hgives.symm.trans hgivesOther)
  exact congrArg FilterSpec.mk hfields

/-! ### Each pair has one meaning -/

namespace SearchRequest

/-- A request is what some pairs say: each parameter is as the last pair for it says, the filters
are as the other pairs say, and each pair is for exactly one parameter or else for a filter. -/
structure IsReading (pairs : List (String × String)) (request : SearchRequest) : Prop where
  parameters : ∀ parameter : Parameter,
    request.Holds (lastUnder parameter.keys pairs) parameter
  filters : HoldsFilters pairs request.filters
  once : ∀ p ∈ pairs,
    (∃! parameter : Parameter, p.1 ∈ parameter.keys) ∧
        p.1 ∉ request.filters.fields.map Prod.fst ∨
      (∀ parameter : Parameter, p.1 ∉ parameter.keys) ∧
        p.1 ∈ request.filters.fields.map Prod.fst

variable {request other : SearchRequest}

theorem isReading_of_holds
    (hparameters : ∀ parameter : Parameter,
      request.Holds (lastUnder parameter.keys pairs) parameter)
    (hfilters : HoldsFilters pairs request.filters) : IsReading pairs request where
  parameters := hparameters
  filters := hfilters
  once := by
    intro p hp
    rw [hfilters.keys.mem_iff, mem_otherKeys]
    by_cases hkey : IsParameter p.1
    · obtain ⟨parameter, hmem⟩ := hkey
      refine .inl ⟨⟨parameter, hmem, fun _ hother => Parameter.eq_of_mem_keys hother hmem⟩, ?_⟩
      exact fun h => h.2 ⟨parameter, hmem⟩
    · exact .inr ⟨fun parameter hmem => hkey ⟨parameter, hmem⟩, ⟨p, hp, rfl⟩, hkey⟩

theorem eq_of_rel_isNumber {last : Option String} {m n : Option UInt32}
    (hm : Option.Rel IsNumber last m) (hn : Option.Rel IsNumber last n) : m = n := by
  cases hm with
  | none =>
    cases hn
    rfl
  | some hm =>
    cases hn with
    | some hn => rw [hm.eq hn]

/-- Pairs say one thing. -/
theorem IsReading.eq (h : IsReading pairs request) (hother : IsReading pairs other) :
    request = other := by
  have hfilters := h.filters.eq hother.filters
  have hpage := eq_of_rel_isNumber (h.parameters .page) (hother.parameters .page)
  have hpageSize := eq_of_rel_isNumber (h.parameters .pageSize) (hother.parameters .pageSize)
  have hkeywords := (h.parameters .keywords).trans (hother.parameters .keywords).symm
  have horderBy := (h.parameters .orderBy).trans (hother.parameters .orderBy).symm
  rcases request with ⟨filters, keywords, page, pageSize, orderBy⟩
  cases hfilters
  cases hpage
  cases hpageSize
  cases hkeywords
  cases horderBy
  rfl

theorem isReading_of_ofQueryPairs (h : ofQueryPairs pairs = .ok request) :
    IsReading pairs request := by
  obtain ⟨hfilters, hparameters⟩ := holds_withParameters (holds_empty _) h
  rw [List.nil_append] at hparameters
  apply isReading_of_holds hparameters
  rw [hfilters]
  exact holdsFilters_ofQueryPairs pairs

theorem ofQueryPairs_cases (pairs : List (String × String)) :
    (∃ p, IsFirstFault pairs p ∧ ofQueryPairs pairs = .error (noNumber p)) ∨
      ((∀ p ∈ pairs, IsReadable p) ∧ ∃ request, ofQueryPairs pairs = .ok request) :=
  withParameters_cases _ pairs

theorem ofQueryPairs_eq_error_iff {error : Error} :
    ofQueryPairs pairs = .error error ↔ ∃ p, IsFirstFault pairs p ∧ error = noNumber p := by
  rcases ofQueryPairs_cases pairs with ⟨first, hfirst, hread⟩ | ⟨hreadable, request, hread⟩
  · rw [hread]
    constructor
    · intro h
      cases h
      exact ⟨first, hfirst, rfl⟩
    · rintro ⟨p, hp, rfl⟩
      rw [hfirst.eq hp]
  · rw [hread]
    constructor
    · intro h
      cases h
    · rintro ⟨p, hp, -⟩
      exact absurd (hreadable p hp.mem) hp.not_isReadable

theorem ofQueryPairs_eq_ok_iff :
    ofQueryPairs pairs = .ok request ↔ (∀ p ∈ pairs, IsReadable p) ∧ IsReading pairs request := by
  rcases ofQueryPairs_cases pairs with ⟨first, hfirst, hread⟩ | ⟨hreadable, later, hread⟩
  · rw [hread]
    constructor
    · intro h
      cases h
    · rintro ⟨hall, -⟩
      exact absurd (hall first hfirst.mem) hfirst.not_isReadable
  · constructor
    · exact fun h => ⟨hreadable, isReading_of_ofQueryPairs h⟩
    · rintro ⟨-, h⟩
      rw [hread, (isReading_of_ofQueryPairs hread).eq h]

/-- Pairs are refused if and only if one of them should hold a number and holds none, and the error
names the first such pair.  Otherwise they are read, and a request is what is read if and only if it
is what the pairs say, each of which has exactly one meaning. -/
theorem ofQueryPairs_iff_isReading (pairs : List (String × String)) :
    ((∃ error, ofQueryPairs pairs = .error error) ↔ ∃ p ∈ pairs, ¬IsReadable p) ∧
      (∀ error, ofQueryPairs pairs = .error error ↔
        ∃ key raw, IsFirstFault pairs (key, raw) ∧ error =
          .validation (key ++ " must be a positive integer, got '" ++ raw ++ "'")) ∧
      ∀ request, ofQueryPairs pairs = .ok request ↔
        (∀ p ∈ pairs, IsReadable p) ∧ IsReading pairs request := by
  refine ⟨?_, ?_, fun request => ofQueryPairs_eq_ok_iff⟩
  · constructor
    · rintro ⟨error, herror⟩
      obtain ⟨p, hp, -⟩ := ofQueryPairs_eq_error_iff.mp herror
      exact ⟨p, hp.mem, hp.not_isReadable⟩
    · rintro ⟨p, hp, hfault⟩
      rcases ofQueryPairs_cases pairs with ⟨first, -, hread⟩ | ⟨hreadable, -⟩
      · exact ⟨_, hread⟩
      · exact absurd (hreadable p hp) hfault
  · intro error
    rw [ofQueryPairs_eq_error_iff]
    constructor
    · rintro ⟨p, hp, rfl⟩
      exact ⟨p.1, p.2, hp, rfl⟩
    · rintro ⟨key, raw, hfirst, rfl⟩
      exact ⟨(key, raw), hfirst, rfl⟩

/-- The last page counts, and the state stands where it was first given, with its last value. -/
example :
    ((ofQueryPairs [("state", "TX"), ("page", "1"), ("city", "Reno"), ("state", "NV"),
        ("page", " +2 ")]).toOption.map fun request =>
      (request.page, request.filters.fields.map fun (key, value) => (key, value.string?))) =
    some (some 2, [("state", some "NV"), ("city", some "Reno")]) := by decide +kernel

end SearchRequest

end Service

end DatasetSearch
