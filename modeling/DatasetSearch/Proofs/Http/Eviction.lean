import Mathlib.Data.List.Basic
import DatasetSearch.Proofs.Http.Moves

/-!
# What a request evicts

A request to invalidate keeps the entries whose keys do not contain the pattern that its body
gives.  A body that gives none keeps nothing, and it does not matter why it gives none: a body that
is refused evicts as much as no body at all.
-/

namespace DatasetSearch

open Cache (Entry Session Store)

variable {σ : Type}

/-- An eviction keeps what does not contain the pattern, if there is one. -/
theorem Cache.Store.invalidate_eq (store : Store) (pattern : Option String) :
    ∃ kept : String × Entry → Bool,
      (∀ p, kept p = true ↔ ∃ text, pattern = some text ∧ ¬text.toList <:+: p.1.toList) ∧
      store.invalidate pattern =
        (store.entries.countP (!kept ·), { store with entries := store.entries.filter kept }) := by
  have hcount : ∀ kept : String × Entry → Bool,
      store.entries.length - (store.entries.filter kept).length =
        store.entries.countP (!kept ·) := by
    intro kept
    have hsplit := List.length_eq_length_filter_add kept (l := store.entries)
    rw [List.countP_eq_length_filter]
    omega
  cases pattern with
  | none =>
    refine ⟨fun _ => false, by simp, ?_⟩
    rw [← hcount, List.filter_false]
    rfl
  | some text =>
    refine ⟨fun p => !Text.contains p.1 text, ?_, ?_⟩
    · intro p
      simp [← Text.contains_iff]
    · rw [← hcount]
      rfl

namespace Http.Server

variable {server : Server} {request : Request}

/-- Whether a request leaves the entries of a key. -/
def Keeps (server : Server) (request : Request) (key : String) : Prop :=
  ∃ pattern, bodyValue server.bodyLimit patternBody request = .ok (some pattern) ∧
    ¬pattern.toList <:+: key.toList

theorem keeps_iff (key : String) :
    server.Keeps request key ↔
      ∃ text, server.pattern? request = some text ∧ ¬text.toList <:+: key.toList := by
  unfold Keeps pattern?
  cases bodyValue server.bodyLimit patternBody request with
  | error fault => simp
  | ok pattern =>
    constructor
    · rintro ⟨text, hpattern, hkept⟩
      cases hpattern
      -- The empty text is contained in every key.
      have htext : text ≠ "" := by
        rintro rfl
        exact hkept List.nil_infix
      exact ⟨text, by simp [htext], hkept⟩
    · rintro ⟨text, hpattern, hkept⟩
      obtain ⟨hpattern, -⟩ := Option.filter_eq_some_iff.mp hpattern
      exact ⟨text, by rw [hpattern], hkept⟩

theorem on_answer_invalidate (server : Server) (warehouse : Warehouse σ) (now : String)
    (request : Request) (s : Session σ) :
    ∃ (kept : String × Entry → Bool) (journal : List Log.Event),
      (∀ p, kept p = true ↔ server.Keeps request p.1) ∧
      (server.answer warehouse now request .invalidate).on s =
        (.ok (.ok (.object
          [("evicted", .ofNat (s.store.entries.countP (!kept ·))),
            ("pattern", .ofOption Json.string (server.pattern? request))])),
          { s with
            store := { s.store with entries := s.store.entries.filter kept }
            journal := journal }) := by
  obtain ⟨kept, hkept, hinvalidate⟩ := s.store.invalidate_eq (server.pattern? request)
  obtain ⟨journal, hrun⟩ := Cache.run_invalidate (server.pattern? request) s
  refine ⟨kept, journal, fun p => (hkept p).trans (keeps_iff p.1).symm, on_answer_of_ok ?_⟩
  have hendpoint := @on_invalidateAnswer _ server request s
  rw [hrun, hinvalidate] at hendpoint
  exact hendpoint

/-- A request to invalidate is answered with the number of the entries that it does not keep, and
nothing but these goes.  A body that is refused keeps none. -/
theorem respond_invalidate_keeps (server : Server) (warehouse : Warehouse σ) (now : String)
    (h : request.endpoint? = some .invalidate) (s : Session σ) :
    ∃ (kept : String × Entry → Bool) (response : Response) (t : Session σ),
      (server.respond warehouse now request).on s = (.ok response, t) ∧
      t = { s with
        store := { s.store with entries := s.store.entries.filter kept }
        journal := t.journal } ∧
      (∀ p, kept p = true ↔ server.Keeps request p.1) ∧
      (∀ fault, bodyValue server.bodyLimit patternBody request = .error fault →
        t.store.entries = []) ∧
      response.status = 200 ∧
      response.body = some (.object
        [("evicted", .ofNat (s.store.entries.countP (!kept ·))),
          ("pattern", .ofOption Json.string (server.pattern? request))]) := by
  have hmethod : request.method = "POST" := by simpa [Endpoint.methods] using Request.method_mem h
  obtain ⟨kept, journal, hkept, hanswer⟩ := on_answer_invalidate server warehouse now request s
  have hresponse := @on_respond_of_endpoint? _ server warehouse request _ h now s
  rw [hanswer] at hresponse
  refine ⟨kept, _, _, hresponse, rfl, hkept, ?_, rfl, ?_⟩
  · intro fault hfault
    refine List.filter_eq_nil_iff.mpr fun p _ hp => ?_
    obtain ⟨text, hpattern, -⟩ := (hkept p).mp hp
    rw [hfault] at hpattern
    cases hpattern
  · simp [responseOf, hmethod, Answer.ok]

/-- What a server holds after a search of a dataset, in a session that begins with it. -/
def searched (server : Server) (name : String) : Session Unit :=
  server.replay oneColumn (.start ()) [.request "" ⟨"GET", "/api/datasets/" ++ name, [], []⟩]

/-- A request to invalidate what the cache holds of a dataset. -/
def budgetRequest (headers : List (String × String)) : Request :=
  ⟨"POST", "/api/cache/invalidate", headers,
    Text.Utf8.encode "\x7b\"pattern\":\"budget\"\x7d"⟩

/-- Of what a search has stored, both results go and the columns stay. -/
theorem respond_invalidate_keeps_columns :
    let request := budgetRequest [("content-type", "application/json")]
    let s := searched standard "budget"
    request.endpoint? = some .invalidate ∧
      s.store.entries.map Prod.fst =
        ["budget:1aad119d5a421d88212611a05778a063", "budget:1340cd2369de1716b81f4d980d21b6f2",
          "schema:6468e91ac65e75dde61db6973e37ee6b"] ∧
      ∃ response t,
        (standard.respond oneColumn "" request).on s = (.ok response, t) ∧
        t.store.entries.map Prod.fst = ["schema:6468e91ac65e75dde61db6973e37ee6b"] ∧
        response.body = some (.object [("evicted", .ofNat 2), ("pattern", .string "budget")]) := by
  intro request s
  have hendpoint : request.endpoint? = some .invalidate := by decide
  have hread : bodyValue standard.bodyLimit patternBody request = .ok (some "budget") := by
    decide +kernel
  have hpattern : standard.pattern? request = some "budget" := by
    rw [pattern?, hread]
    rfl
  have hkeys : s.store.entries.map Prod.fst =
      ["budget:1aad119d5a421d88212611a05778a063", "budget:1340cd2369de1716b81f4d980d21b6f2",
        "schema:6468e91ac65e75dde61db6973e37ee6b"] := by
    decide +kernel
  refine ⟨hendpoint, hkeys, ?_⟩
  obtain ⟨kept, response, t, hrespond, ht, hkept, -, -, hbody⟩ :=
    respond_invalidate_keeps standard oneColumn "" hendpoint s
  have hkeeps : kept = (fun key => !Text.contains key "budget") ∘ Prod.fst := by
    funext p
    rw [Bool.eq_iff_iff, hkept, keeps_iff, hpattern]
    simp [← Text.contains_iff]
  -- What goes and what stays shows in the keys.
  have hcount : s.store.entries.countP (!kept ·) = 2 := by
    have hmap := @List.countP_map _ _ (fun key => !!Text.contains key "budget") Prod.fst
      s.store.entries
    rw [hkeys] at hmap
    rw [hkeeps]
    exact hmap.symm
  refine ⟨response, t, hrespond, ?_, ?_⟩
  · rw [ht, hkeeps, ← List.filter_map, hkeys]
    decide +kernel
  · rw [hbody, hpattern, hcount]
    rfl

/-- A body that is not said to be JSON evicts what its pattern is not in. -/
theorem respond_invalidate_evicts_columns :
    bodyValue standard.bodyLimit patternBody (budgetRequest []) = .error .notJson ∧
      (searched standard "budget").store.size = 3 ∧
      ((standard.respond oneColumn "" (budgetRequest [])).on
        (searched standard "budget")).2.store.size = 0 := by
  decide +kernel

end Http.Server

end DatasetSearch
