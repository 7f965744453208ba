import Mathlib.Data.List.Perm.Basic
import DatasetSearch.Proofs.Sql.Numeral
import DatasetSearch.Service.SearchRequest

/-!
# Requests as query strings

A request is written as the pairs of a query string: one for each field of its filters, in their
order, and one for each other thing that it sets, anywhere between them.  Reading such pairs gives
the request back.
-/

namespace DatasetSearch

/-! ### Fields with distinct names -/

namespace Fields

theorem insert_of_notMem {fields : Fields} {name : String} (h : name ∉ fields.map Prod.fst)
    (value : Json) : insert name value fields = fields ++ [(name, value)] := by
  induction fields with
  | nil => rfl
  | cons field fields ih =>
    obtain ⟨key, old⟩ := field
    simp only [List.map_cons, List.mem_cons, not_or] at h
    rw [insert, if_neg (Ne.symm h.1), ih h.2, List.cons_append]

/-- Fields with distinct names are what setting them one after the other gives. -/
theorem ofPairs_of_nodup {fields : Fields} (h : (fields.map Prod.fst).Nodup) :
    ofPairs fields = fields := by
  have hset : ∀ done : Fields, ((done ++ fields).map Prod.fst).Nodup →
      fields.foldl (fun set field => insert field.1 field.2 set) done = done ++ fields := by
    clear h
    induction fields with
    | nil => simp
    | cons field fields ih =>
      intro done hdone
      obtain ⟨name, value⟩ := field
      have hnew : name ∉ done.map Prod.fst := by
        rw [List.map_append, List.nodup_append] at hdone
        intro hname
        exact hdone.2.2 name hname name List.mem_cons_self rfl
      rw [List.foldl_cons]
      dsimp only
      rw [insert_of_notMem hnew, ih, List.append_assoc, List.singleton_append]
      rwa [List.append_assoc, List.singleton_append]
  exact hset [] h

end Fields

/-! ### Numbers -/

namespace Text

theorem isBlank_of_isDigit {c : Char} (h : c.isDigit = true) : isBlank c = false := by
  simp only [Char.isDigit, Bool.and_eq_true, decide_eq_true_eq] at h
  have hlow : 48 ≤ c.toNat := h.1
  have hhigh : c.toNat ≤ 57 := h.2
  simp [isBlank]
  omega

theorem trimChars_of_digits {s : List Char} (h : ∀ c ∈ s, c.isDigit = true) : trimChars s = s := by
  apply trimChars_eq_self
  · exact fun c hc => isBlank_of_isDigit (h c (List.mem_of_head? hc))
  · exact fun c hc => isBlank_of_isDigit (h c (List.mem_of_getLast? hc))

theorem isDigit_of_mem_toDigits {n : Nat} {c : Char} (h : c ∈ Nat.toDigits 10 n) :
    c.isDigit = true := Nat.isDigit_of_mem_toDigits (by decide) (by decide) h

theorem digitsValue?_toDigits (n : Nat) : digitsValue? (Nat.toDigits 10 n) = some n := by
  have hall : (Nat.toDigits 10 n).all Char.isDigit = true :=
    List.all_eq_true.mpr fun c hc => isDigit_of_mem_toDigits hc
  have hvalue : (Nat.toDigits 10 n).foldl (fun n c => n * 10 + (c.toNat - 48)) 0 = n := by
    simpa [Nat.ofDigitChars, Nat.mul_comm] using Nat.ofDigitChars_ten_toDigits (n := n)
  unfold digitsValue?
  split
  · next hnil => exact absurd hnil Nat.toDigits_ne_nil
  · rw [if_pos hall, hvalue]

/-- A word that is written in decimal is read back. -/
theorem word32?_trim_toString (n : UInt32) : word32? (trim (toString n.toNat)) = some n := by
  have hlist : (toString n.toNat).toList = Nat.toDigits 10 n.toNat := by
    rw [Nat.toString_eq_ofList_toDigits, String.toList_ofList]
  have htrim : trim (toString n.toNat) = toString n.toNat := by
    rw [trim, hlist, trimChars_of_digits fun c hc => isDigit_of_mem_toDigits hc, ← hlist,
      String.ofList_toList]
  have hbound : n.toNat ≤ 4294967295 := Nat.le_sub_one_of_lt n.toNat_lt
  unfold word32? natUpTo?
  rw [htrim, hlist]
  split
  · next rest hplus =>
    have hdigit : '+'.isDigit = true := isDigit_of_mem_toDigits (hplus ▸ List.mem_cons_self)
    exact absurd hdigit (by decide)
  · simp [digitsValue?_toDigits, hbound]

end Text

namespace Service.SearchRequest

/-! ### What encodes a request -/

/-- The pairs of the filters: each key with its value as text. -/
def filterPairs (q : SearchRequest) : List (String × String) :=
  q.filters.fields.map fun (key, value) => (key, value.text)

/-- The pairs of everything else that a request sets.  Two of the parameters have two names each;
keywords that are empty need not be written. -/
def otherPairs (size : String) (keywords : Option String) (q : SearchRequest) :
    List (String × String) :=
  q.page.toList.map (fun n => ("page", toString n.toNat)) ++
    q.pageSize.toList.map (fun n => (size, toString n.toNat)) ++
    keywords.toList.map (fun name => (name, q.keywords)) ++
    q.orderBy.toList.map (fun column => ("order_by", column))

/-- The pairs of a request: those of its filters in their order, and the others anywhere. -/
structure IsEncoding (q : SearchRequest) (pairs : List (String × String)) : Prop where
  filters : q.filterPairs.Sublist pairs
  all : ∃ size ∈ ["page_size", "pageSize"], ∃ keywords : Option String,
    (∀ name ∈ keywords, name ∈ ["search_keywords", "keywords"]) ∧
      (keywords = none → q.keywords = "") ∧
        pairs.Perm (q.filterPairs ++ q.otherPairs size keywords)

/-! ### What a pair does -/

variable {q : SearchRequest}

/-- What reading one pair of a request may do: nothing, or to set something as in the request. -/
inductive Update (q : SearchRequest) : (SearchRequest → SearchRequest) → Prop
  | nothing : Update q id
  | page : Update q fun r => { r with page := q.page }
  | pageSize : Update q fun r => { r with pageSize := q.pageSize }
  | keywords : Update q fun r => { r with keywords := q.keywords }
  | orderBy : Update q fun r => { r with orderBy := q.orderBy }

/-- It does not matter in which order a request is updated. -/
theorem Update.comm {f g : SearchRequest → SearchRequest} (hf : Update q f) (hg : Update q g)
    (r : SearchRequest) : g (f r) = f (g r) := by
  cases hf <;> cases hg <;> rfl

theorem number_toString (key : String) (n : UInt32) : number key (toString n.toNat) = .ok n := by
  rw [number, Text.word32?_trim_toString]

theorem withParameter_page (r : SearchRequest) (n : UInt32) :
    r.withParameter "page" (toString n.toNat) = .ok { r with page := some n } := by
  rw [withParameter, number_toString]
  rfl

theorem withParameter_pageSize {size : String} (h : size ∈ ["page_size", "pageSize"])
    (r : SearchRequest) (n : UInt32) :
    r.withParameter size (toString n.toNat) = .ok { r with pageSize := some n } := by
  simp only [List.mem_cons, List.not_mem_nil, or_false] at h
  rcases h with rfl | rfl
  · rw [withParameter, number_toString]
    rfl
  · rw [withParameter, number_toString]
    rfl

theorem withParameter_keywords {name : String} (h : name ∈ ["search_keywords", "keywords"])
    (r : SearchRequest) (raw : String) :
    r.withParameter name raw = .ok { r with keywords := raw } := by
  simp only [List.mem_cons, List.not_mem_nil, or_false] at h
  rcases h with rfl | rfl
  · rfl
  · rfl

/-- A pair whose key is no parameter's leaves the request as it is. -/
theorem withParameter_of_notMem {key : String} (h : key ∉ FilterSpec.reservedParameters)
    (r : SearchRequest) (raw : String) : r.withParameter key raw = .ok r := by
  simp only [FilterSpec.reservedParameters, List.mem_cons, List.not_mem_nil, or_false,
    not_or] at h
  unfold withParameter
  split <;> simp_all

/-- A pair that sets something has the key of a parameter, and sets it as in the request. -/
theorem update_of_mem_otherPairs {size : String} {keywords : Option String}
    (hsize : size ∈ ["page_size", "pageSize"])
    (hkeywords : ∀ name ∈ keywords, name ∈ ["search_keywords", "keywords"])
    {p : String × String} (hp : p ∈ q.otherPairs size keywords) :
    p.1 ∈ FilterSpec.reservedParameters ∧
      ∃ f, Update q f ∧ ∀ r : SearchRequest, r.withParameter p.1 p.2 = .ok (f r) := by
  simp only [otherPairs, List.mem_append, List.mem_map, Option.mem_toList] at hp
  rcases hp with ((⟨n, hn, rfl⟩ | ⟨n, hn, rfl⟩) | ⟨name, hname, rfl⟩) | ⟨column, hcolumn, rfl⟩
  · refine ⟨by simp [FilterSpec.reservedParameters], _, .page, fun r => ?_⟩
    rw [withParameter_page, hn]
  · refine ⟨?_, _, .pageSize, fun r => by rw [withParameter_pageSize hsize, hn]⟩
    simp only [List.mem_cons, List.not_mem_nil, or_false] at hsize
    rcases hsize with rfl | rfl <;> simp [FilterSpec.reservedParameters]
  · have hnames := hkeywords name hname
    refine ⟨?_, _, .keywords, fun r => withParameter_keywords hnames r q.keywords⟩
    simp only [List.mem_cons, List.not_mem_nil, or_false] at hnames
    rcases hnames with rfl | rfl <;> simp [FilterSpec.reservedParameters]
  · refine ⟨by simp [FilterSpec.reservedParameters], _, .orderBy, fun r => ?_⟩
    rw [withParameter, hcolumn]

/-! ### Reading pairs in any order -/

theorem withParameters_of_perm {pairs others : List (String × String)} (h : pairs.Perm others)
    (hpairs : ∀ p ∈ pairs, ∃ f, Update q f ∧
      ∀ r : SearchRequest, r.withParameter p.1 p.2 = .ok (f r)) (r : SearchRequest) :
    r.withParameters pairs = r.withParameters others := by
  induction h generalizing r with
  | nil => rfl
  | cons p _ ih =>
    obtain ⟨f, -, hf⟩ := hpairs p List.mem_cons_self
    have hrest := ih (fun other hother => hpairs other (List.mem_cons_of_mem p hother)) (f r)
    simp only [withParameters, hf]
    exact hrest
  | swap p other rest =>
    obtain ⟨f, hupdate, hf⟩ := hpairs other List.mem_cons_self
    obtain ⟨g, hsecond, hg⟩ := hpairs p (List.mem_cons_of_mem other List.mem_cons_self)
    simp only [withParameters, hf, hg]
    exact congrArg (fun r => withParameters r rest) (hupdate.comm hsecond r)
  | trans hfirst _ ih later =>
    rw [ih hpairs r, later (fun p hp => hpairs p (hfirst.mem_iff.mpr hp)) r]

theorem withParameters_append (r : SearchRequest) (pairs others : List (String × String)) :
    r.withParameters (pairs ++ others) =
      (do (← r.withParameters pairs).withParameters others) := by
  induction pairs generalizing r with
  | nil => rfl
  | cons p pairs ih =>
    simp only [List.cons_append, withParameters]
    cases r.withParameter p.1 p.2 with
    | error e => rfl
    | ok s => exact ih s

/-- Pairs whose keys are no parameters' leave the request as it is. -/
theorem withParameters_of_notMem {pairs : List (String × String)}
    (h : ∀ p ∈ pairs, p.1 ∉ FilterSpec.reservedParameters) (r : SearchRequest) :
    r.withParameters pairs = .ok r := by
  induction pairs with
  | nil => rfl
  | cons p pairs ih =>
    simp only [withParameters, withParameter_of_notMem (h p List.mem_cons_self)]
    exact ih fun other hother => h other (List.mem_cons_of_mem p hother)

theorem withParameters_toList {α : Type} {o : Option α} {f : α → String × String}
    {r s : SearchRequest} (hnone : o = none → r = s)
    (hsome : ∀ a ∈ o, r.withParameter (f a).1 (f a).2 = .ok s) :
    r.withParameters (o.toList.map f) = .ok s := by
  cases o with
  | none => rw [hnone rfl]; rfl
  | some a =>
    simp only [Option.toList_some, List.map_cons, List.map_nil, withParameters, hsome a rfl]
    rfl

/-- Reading what sets the rest of a request, in the order in which it is listed. -/
theorem withParameters_otherPairs {size : String} {keywords : Option String}
    (hsize : size ∈ ["page_size", "pageSize"])
    (hkeywords : ∀ name ∈ keywords, name ∈ ["search_keywords", "keywords"])
    (hnone : keywords = none → q.keywords = "") :
    withParameters { empty with filters := q.filters } (q.otherPairs size keywords) = .ok q := by
  have hpage : withParameters { empty with filters := q.filters }
      (q.page.toList.map fun n => ("page", toString n.toNat)) =
        .ok { empty with filters := q.filters, page := q.page } := by
    refine withParameters_toList (fun h => by rw [h]; rfl) fun n hn => ?_
    rw [withParameter_page, hn]
  have hpageSize : withParameters { empty with filters := q.filters, page := q.page }
      (q.pageSize.toList.map fun n => (size, toString n.toNat)) =
        .ok { q with keywords := "", orderBy := none } := by
    refine withParameters_toList (fun h => by rw [h]; rfl) fun n hn => ?_
    rw [withParameter_pageSize hsize, hn]
    rfl
  have hwords : withParameters { q with keywords := "", orderBy := none }
      (keywords.toList.map fun name => (name, q.keywords)) = .ok { q with orderBy := none } :=
    withParameters_toList (fun h => by rw [hnone h])
      fun name hname => withParameter_keywords (hkeywords name hname) _ _
  have horder : withParameters { q with orderBy := none }
      (q.orderBy.toList.map fun column => ("order_by", column)) = .ok q := by
    refine withParameters_toList (fun h => by rw [← h]) fun column hcolumn => ?_
    rw [withParameter, ← hcolumn]
  unfold otherPairs
  rw [withParameters_append, withParameters_append, withParameters_append, hpage]
  simp only [bind, Except.bind, hpageSize, hwords, horder]

/-! ### Reading what encodes a request -/

/-- Of the pairs that encode a request, those of its filters are the ones whose keys are no
parameters'. -/
theorem IsEncoding.filter_eq {pairs : List (String × String)} (h : q.IsEncoding pairs)
    (hreserved : ∀ p ∈ q.filterPairs, p.1 ∉ FilterSpec.reservedParameters) :
    pairs.filter (fun (key, _) => !FilterSpec.reservedParameters.contains key) = q.filterPairs := by
  obtain ⟨hfilters, size, hsize, keywords, hkeywords, -, hperm⟩ := h
  have hkept : q.filterPairs.filter (fun (key, _) => !FilterSpec.reservedParameters.contains key) =
      q.filterPairs := by
    refine List.filter_eq_self.mpr fun p hp => ?_
    simpa using hreserved p hp
  have hgone : (q.otherPairs size keywords).filter
      (fun (key, _) => !FilterSpec.reservedParameters.contains key) = [] := by
    refine List.filter_eq_nil_iff.mpr fun p hp => ?_
    simpa using (update_of_mem_otherPairs hsize hkeywords hp).1
  have hsub := hfilters.filter (fun (key, _) => !FilterSpec.reservedParameters.contains key)
  have hlength := (hperm.filter
    (fun (key, _) => !FilterSpec.reservedParameters.contains key)).length_eq
  rw [List.filter_append, hkept, hgone, List.append_nil] at hlength
  rw [hkept] at hsub
  exact (hsub.eq_of_length hlength.symm).symm

theorem ofQueryPairs_of_isEncoding {pairs : List (String × String)}
    (hreserved : ∀ p ∈ q.filters.fields, p.1 ∉ FilterSpec.reservedParameters)
    (hkeys : (q.filters.fields.map Prod.fst).Nodup)
    (hvalues : ∀ p ∈ q.filters.fields, Json.parse? p.2.text = some p.2)
    (h : q.IsEncoding pairs) : ofQueryPairs pairs = .ok q := by
  have hkept : ∀ p ∈ q.filterPairs, p.1 ∉ FilterSpec.reservedParameters := by
    intro p hp
    obtain ⟨field, hfield, rfl⟩ := List.mem_map.mp hp
    exact hreserved field hfield
  have hfilters : FilterSpec.ofQueryPairs pairs = q.filters := by
    have hread : q.filterPairs.map (fun (key, raw) => (key, FilterSpec.parameterValue raw)) =
        q.filters.fields := by
      unfold filterPairs
      rw [List.map_map]
      refine (List.map_congr_left fun p hp => ?_).trans (List.map_id _)
      simp only [Function.comp_apply, FilterSpec.parameterValue, hvalues p hp, Option.getD_some,
        id_eq]
    unfold FilterSpec.ofQueryPairs
    dsimp only
    rw [h.filter_eq hkept, hread, Fields.ofPairs_of_nodup hkeys]
  obtain ⟨-, size, hsize, keywords, hkeywords, hnone, hperm⟩ := h
  have hupdates : ∀ p ∈ pairs, ∃ f, Update q f ∧
      ∀ r : SearchRequest, r.withParameter p.1 p.2 = .ok (f r) := by
    intro p hp
    rcases List.mem_append.mp (hperm.mem_iff.mp hp) with hfilter | hother
    · exact ⟨id, .nothing, fun r => withParameter_of_notMem (hkept p hfilter) r p.2⟩
    · exact (update_of_mem_otherPairs hsize hkeywords hother).2
  unfold ofQueryPairs
  rw [hfilters, withParameters_of_perm hperm hupdates, withParameters_append,
    withParameters_of_notMem hkept]
  exact withParameters_otherPairs hsize hkeywords hnone

end Service.SearchRequest

end DatasetSearch
