import DatasetSearch.Proofs.Http.Answered

/-!
# What goes with a dataset

The results of a dataset are stored under its name, the column lists of all datasets under a label
of their own, each followed by a colon and digits of a digest.  A request to invalidate the name of
a dataset evicts all results of that dataset.  It looks at keys as texts, though: other results go
with them when the name occurs in their keys as well, be it in a longer name or in the digits.
-/

namespace DatasetSearch

open Cache (Call Entry Session Store)
open Service (Column)

variable {σ : Type}

/-! ### Whose results there are -/

/-- Whose results are stored under a key. -/
inductive Owner where
  | dataset (name : String)
  /-- The column lists of all tables. -/
  | columns
deriving DecidableEq, Repr

def Owner.label : Owner → String
  | .dataset name => name
  | .columns => Column.cacheLabel

/-- The beginning of a digest. -/
def IsDigestStart (digits : String) : Prop :=
  digits.toList.length ≤ 64 ∧ ∀ c ∈ digits.toList, c ∈ "0123456789abcdef".toList

theorem Cache.isDigestStart_digestPart (k : Cache.KeyDigest) (statement : Statement) :
    IsDigestStart (Cache.digestPart k statement) := by
  obtain ⟨hlength, hdigits⟩ :=
    Text.Sha256.isDigest_hex (Text.Utf8.encode (Cache.digestInput statement))
  cases k with
  | full => exact ⟨hlength.le, hdigits⟩
  | truncated count =>
    unfold Cache.digestPart Cache.KeyDigest.cut
    constructor
    · rw [String.toList_ofList, List.length_take, hlength]
      exact Nat.min_le_right _ _
    · rw [String.toList_ofList]
      exact fun c hc => hdigits c (List.mem_of_mem_take hc)

theorem IsDigestStart.colon_notMem {digits : String} (h : IsDigestStart digits) :
    ':' ∉ digits.toList := by
  intro hcolon
  exact absurd (h.2 ':' hcolon) (by decide)

namespace Service

/-- The keys under which a service stores results, by their owners. -/
inductive Stores (service : Service) : Owner → String → Prop
  | rows {d : Dataset} (hd : d ∈ service.datasets) (sql : String) :
      Stores service (.dataset d.name) ((service.call d sql).key service.settings)
  | columns {d : Dataset} (hd : d ∈ service.datasets) :
      Stores service .columns
        ((Column.lookupCall d.table service.columnTtl).key service.settings)

variable {service : Service} {warehouse : Warehouse σ} {owner other : Owner} {key : String}

theorem Stores.key_eq (h : service.Stores owner key) :
    ∃ digits, IsDigestStart digits ∧ key = owner.label ++ ":" ++ digits := by
  cases h with
  | rows hd sql => exact ⟨_, Cache.isDigestStart_digestPart _ _, rfl⟩
  | columns hd => exact ⟨_, Cache.isDigestStart_digestPart _ _, rfl⟩

theorem Stores.owner_eq (h : service.Stores owner key) :
    owner = .columns ∨ ∃ d ∈ service.datasets, owner = .dataset d.name := by
  cases h with
  | rows hd sql => exact .inr ⟨_, hd, rfl⟩
  | columns hd => exact .inl rfl

/-- If no dataset bears the label of the column lists, a key has one owner. -/
theorem Stores.eq_owner (hlabel : ∀ d ∈ service.datasets, d.name ≠ Column.cacheLabel)
    (h : service.Stores owner key) (hother : service.Stores other key) : other = owner := by
  obtain ⟨digits, hdigits, hkey⟩ := h.key_eq
  obtain ⟨second, hsecond, hsame⟩ := hother.key_eq
  have hlabels : owner.label = other.label :=
    (Cache.eq_of_append_colon_eq hdigits.colon_notMem hsecond.colon_notMem
      (hkey.symm.trans hsame)).1
  rcases h.owner_eq with rfl | ⟨d, hd, rfl⟩
  · rcases hother.owner_eq with rfl | ⟨e, he, rfl⟩
    · rfl
    · exact absurd hlabels.symm (hlabel e he)
  · rcases hother.owner_eq with rfl | ⟨e, he, rfl⟩
    · exact absurd hlabels (hlabel d hd)
    · exact congrArg Owner.dataset hlabels.symm

/-- A call that is not bypassed stores its result under a key with an owner. -/
theorem Makes.exists_owner {call : Call} (h : service.Makes call) (hused : call.bypass = false) :
    ∃ owner, service.Stores owner (call.key service.settings) := by
  cases h with
  | lookup hd => exact ⟨.columns, .columns hd⟩
  | @statement d hd sql => exact ⟨.dataset d.name, .rows hd sql⟩
  | version => cases hused

end Service

/-! ### What goes -/

namespace Http.Server

variable {server : Server} {warehouse : Warehouse σ}

/-- Every entry has an owner. -/
theorem exists_owner_replay (state : σ) (incidents : List Incident) :
    ∀ p ∈ (server.replay warehouse (.start state) incidents).store.entries,
      ∃ owner, server.service.Stores owner p.1 := by
  intro p hp
  obtain ⟨call, hcall, hused, hkey⟩ := areKeyed_replay state incidents p hp
  rw [hkey]
  exact hcall.exists_owner hused

/-- A name that is given as the pattern keeps the keys that do not contain it. -/
theorem keeps_iff_of_name {request : Request} {name : String}
    (hbody : bodyValue server.bodyLimit patternBody request = .ok (some name)) (key : String) :
    server.Keeps request key ↔ ¬name.toList <:+: key.toList := by
  constructor
  · rintro ⟨pattern, hpattern, hkept⟩
    rw [hbody] at hpattern
    cases hpattern
    exact hkept
  · exact fun hkept => ⟨name, hbody, hkept⟩

/-- If no dataset bears the label of the column lists, every cached result is that of one dataset or
a column list.  A request to invalidate the name of a dataset evicts all results of this dataset,
and of the others those whose keys contain the name: none of an owner whose label, followed by a
colon and the digits of any digest, does not contain it. -/
theorem respond_invalidate_name {request : Request} {name : String}
    (hlabel : ∀ d ∈ server.service.datasets, d.name ≠ Column.cacheLabel)
    (h : request.endpoint? = some .invalidate)
    (hbody : bodyValue server.bodyLimit patternBody request = .ok (some name))
    (warehouse : Warehouse σ) (now : String) (state : σ) (incidents : List Incident) :
    let s := server.replay warehouse (.start state) incidents
    ∃ (response : Response) (t : Session σ),
      (server.respond warehouse now request).on s = (.ok response, t) ∧
      response.status = 200 ∧
      (∀ p ∈ t.store.entries, p ∈ s.store.entries) ∧
      ∀ p ∈ s.store.entries, ∃ owner,
        (∀ other, server.service.Stores other p.1 ↔ other = owner) ∧
        (owner = .dataset name → p ∉ t.store.entries) ∧
        (p ∈ t.store.entries ↔ ¬name.toList <:+: p.1.toList) ∧
        ((∀ digits, IsDigestStart digits →
          ¬name.toList <:+: (owner.label ++ ":" ++ digits).toList) → p ∈ t.store.entries) := by
  intro s
  obtain ⟨kept, journal, hkept, hanswer⟩ := on_answer_invalidate server warehouse now request s
  have hresponse := @on_respond_of_endpoint? _ server warehouse request _ h now s
  rw [hanswer] at hresponse
  refine ⟨_, _, hresponse, rfl, fun p hp => List.mem_of_mem_filter hp, ?_⟩
  intro p hp
  have hstays : p ∈ s.store.entries.filter kept ↔ ¬name.toList <:+: p.1.toList := by
    rw [List.mem_filter, hkept, keeps_iff_of_name hbody]
    exact and_iff_right hp
  obtain ⟨owner, howner⟩ := exists_owner_replay state incidents p hp
  obtain ⟨digits, hdigits, hkey⟩ := howner.key_eq
  refine ⟨owner, ?_, ?_, hstays, ?_⟩
  · intro other
    constructor
    · exact fun hother => howner.eq_owner hlabel hother
    · rintro rfl
      exact howner
  · rintro rfl hp'
    apply hstays.mp hp'
    rw [hkey, String.toList_append, String.toList_append, List.append_assoc]
    exact (List.prefix_append _ _).isInfix
  · intro hdisjoint
    rw [hstays, hkey]
    exact hdisjoint digits hdigits

/-- The columns outlive the results of the dataset: a letter of its name is neither in their label
nor a digit of a digest. -/
theorem respond_invalidate_name_budget :
    let request := budgetRequest [("content-type", "application/json")]
    (∀ d ∈ standard.service.datasets, d.name ≠ Column.cacheLabel) ∧
      request.endpoint? = some .invalidate ∧
      bodyValue standard.bodyLimit patternBody request = .ok (some "budget") ∧
      (searched standard "budget").store.size = 3 ∧
      ∃ response t,
        (standard.respond oneColumn "" request).on (searched standard "budget") =
          (.ok response, t) ∧
        ∀ p ∈ (searched standard "budget").store.entries,
          (standard.service.Stores (.dataset "budget") p.1 → p ∉ t.store.entries) ∧
          (standard.service.Stores .columns p.1 → p ∈ t.store.entries) := by
  intro request
  have hlabel : ∀ d ∈ standard.service.datasets, d.name ≠ Column.cacheLabel := by decide
  have hendpoint : request.endpoint? = some .invalidate := by decide
  have hbody : bodyValue standard.bodyLimit patternBody request = .ok (some "budget") := by
    decide +kernel
  refine ⟨hlabel, hendpoint, hbody, by decide +kernel, ?_⟩
  obtain ⟨response, t, hrespond, -, -, hentries⟩ := respond_invalidate_name hlabel hendpoint hbody
    oneColumn "" () [.request "" ⟨"GET", "/api/datasets/" ++ "budget", [], []⟩]
  refine ⟨response, t, hrespond, ?_⟩
  intro p hp
  obtain ⟨owner, howner, hgone, -, hkept⟩ := hentries p hp
  constructor
  · intro hrows
    exact hgone ((howner _).mp hrows).symm
  · intro hcolumns
    rw [← (howner _).mp hcolumns] at hkept
    apply hkept
    intro digits hdigits hinfix
    have hmem : 'u' ∈ (Owner.columns.label ++ ":" ++ digits).toList :=
      hinfix.subset (by decide)
    rw [String.toList_append, List.mem_append] at hmem
    rcases hmem with hfront | hdigit
    · exact absurd hfront (by decide)
    · exact absurd (hdigits.2 _ hdigit) (by decide)

/-- The standard server with two datasets, one of whose names begins with the other. -/
def twoBudgets : Server :=
  { standard with
    service := { standard.service with
      datasets :=
        [⟨"budget", ⟨["public", "budget"]⟩, false, none⟩,
          ⟨"budget_2024", ⟨["public", "budget_2024"]⟩, false, none⟩] } }

/-- A request to invalidate a dataset evicts both results of another with a longer name. -/
theorem respond_invalidate_evicts_longer_name :
    ofConfig (.standardWith
      [("budget", ⟨"public.budget", false, none⟩),
        ("budget_2024", ⟨"public.budget_2024", false, none⟩)]) = .ok twoBudgets ∧
      bodyValue twoBudgets.bodyLimit patternBody
        (budgetRequest [("content-type", "application/json")]) = .ok (some "budget") ∧
      (searched twoBudgets "budget_2024").store.entries.map Prod.fst =
        ["budget_2024:0d1e15fa4fd20794b791c2ca63dcf0a1",
          "budget_2024:036d0321f793de4013beeb30efaa8f25",
          "schema:c86e362e2b05a0eed3df2e3a74c03b00"] ∧
      ((twoBudgets.respond oneColumn "" (budgetRequest [("content-type", "application/json")])).on
        (searched twoBudgets "budget_2024")).2.store.entries.map Prod.fst =
          ["schema:c86e362e2b05a0eed3df2e3a74c03b00"] := by
  refine ⟨rfl, ?_⟩
  decide +kernel

end Http.Server

end DatasetSearch
