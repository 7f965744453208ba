import DatasetSearch.Proofs.Http.Moves
import DatasetSearch.Proofs.Service.QueryString

/-!
# The same search by either method

A search may be asked for by the parameters of a query string or by a JSON body.  If both say the
same, the same statements are sent in the same order, and the same comes back.
-/

namespace DatasetSearch.Http.Server

open Cache (Session)
open Service (SearchRequest)

variable {σ : Type} {server : Server} {warehouse : Warehouse σ}

/-- What is answered depends on a request only as far as its endpoint does. -/
theorem answer_congr {now : String} {request other : Request} {endpoint second : Endpoint}
    (h : server.endpointAnswer warehouse now request endpoint =
      server.endpointAnswer warehouse now other second) :
    server.answer warehouse now request endpoint = server.answer warehouse now other second := by
  unfold answer
  rw [h]

theorem endpointAnswer_searchByBody {q : SearchRequest} {query body : Request}
    (hquery : SearchRequest.ofQueryPairs query.parameters = .ok q)
    (hbody : bodyValue server.bodyLimit searchBody body = .ok q) (now segment : String) :
    server.endpointAnswer warehouse now query (.searchByQuery segment) =
      server.endpointAnswer warehouse now body (.searchByBody segment) := by
  simp only [endpointAnswer, hquery, hbody]

/-- A request that is written as pairs is read back from them.  A request for these pairs and one
whose body denotes the same do the same to a session, and get the same status and body. -/
theorem respond_query_eq_respond_body {q : SearchRequest} {pairs : List (String × String)}
    (hreserved : ∀ p ∈ q.filters.fields, p.1 ∉ FilterSpec.reservedParameters)
    (hkeys : (q.filters.fields.map Prod.fst).Nodup)
    (hvalues : ∀ p ∈ q.filters.fields, Json.parse? p.2.text = some p.2)
    (hpairs : q.IsEncoding pairs) :
    SearchRequest.ofQueryPairs pairs = .ok q ∧
      ∀ {σ : Type} (server : Server) (warehouse : Warehouse σ) (s : Session σ)
        (now segment : String) (query body : Request), query.method = "GET" →
        query.endpoint? = some (.searchByQuery segment) → query.parameters = pairs →
        body.endpoint? = some (.searchByBody segment) →
        bodyValue server.bodyLimit searchBody body = .ok q →
        ((server.respond warehouse now query).on s).2 =
            ((server.respond warehouse now body).on s).2 ∧
          ((server.respond warehouse now query).on s).1.map (fun r => (r.status, r.body)) =
            ((server.respond warehouse now body).on s).1.map (fun r => (r.status, r.body)) := by
  have hread := SearchRequest.ofQueryPairs_of_isEncoding hreserved hkeys hvalues hpairs
  refine ⟨hread, ?_⟩
  intro σ server warehouse s now segment query body hget hquery hparameters hpost hbody
  subst hparameters
  have hmethod : body.method = "POST" := by simpa [Endpoint.methods] using Request.method_mem hpost
  have hanswer : server.answer warehouse now query (.searchByQuery segment) =
      server.answer warehouse now body (.searchByBody segment) :=
    answer_congr (endpointAnswer_searchByBody hread hbody now segment)
  rw [on_respond_of_endpoint? hquery, on_respond_of_endpoint? hpost, hanswer]
  refine ⟨rfl, ?_⟩
  cases ((server.answer warehouse now body (.searchByBody segment)).on s).1 with
  | error obstacle => rfl
  | ok given => simp [Except.map, responseOf, hget, hmethod]

/-- A request with a list, a text that looks like JSON, keywords, a page and its size. -/
def awards : SearchRequest :=
  ⟨⟨[("TYPE", .array [.string "Award"]), ("NOTE", .string "true")]⟩, "a,b", some 2, some 5, none⟩

/-- The request as a query string; its parameters stand among its filters. -/
def awardsQuery : Request :=
  ⟨"GET",
    "/api/datasets/budget?page=2&TYPE=%5B%22Award%22%5D&keywords=a,b&NOTE=%22true%22&pageSize=5",
    [], []⟩

/-- The request as a body. -/
def awardsBody : Request :=
  ⟨"POST", "/api/datasets/budget", [("content-type", "application/json")],
    Text.Utf8.encode ("\x7b\"filters\":\x7b\"TYPE\":[\"Award\"],\"NOTE\":\"true\"\x7d," ++
      "\"search_keywords\":\"a,b\",\"page\":2,\"page_size\":5\x7d")⟩

theorem respond_query_eq_respond_body_awards :
    awards.IsEncoding awardsQuery.parameters ∧
      bodyValue standard.bodyLimit searchBody awardsBody = .ok awards ∧
      SearchRequest.ofQueryPairs awardsQuery.parameters = .ok awards ∧
      ((standard.respond (.steady ⟨.ok [], 0⟩) "" awardsQuery).on (.start ())).2 =
        ((standard.respond (.steady ⟨.ok [], 0⟩) "" awardsBody).on (.start ())).2 := by
  have hparameters : awardsQuery.parameters =
      [("page", "2"), ("TYPE", "[\"Award\"]"), ("keywords", "a,b"), ("NOTE", "\"true\""),
        ("pageSize", "5")] := by decide +kernel
  have hpairs : awards.IsEncoding awardsQuery.parameters := by
    rw [hparameters]
    exact ⟨by decide, "pageSize", by decide, some "keywords", by decide, nofun, by decide⟩
  have htype : Json.parse? (Json.array [.string "Award"]).text = some (.array [.string "Award"]) := by
    cbv
  have hnote : Json.parse? (Json.string "true").text = some (.string "true") := by cbv
  have hvalues : ∀ p ∈ awards.filters.fields, Json.parse? p.2.text = some p.2 := by
    intro p hp
    simp only [awards, List.mem_cons, List.not_mem_nil, or_false] at hp
    rcases hp with rfl | rfl
    · exact htype
    · exact hnote
  have hbody : bodyValue standard.bodyLimit searchBody awardsBody = .ok awards := by
    have hread : searchBody awardsBody.bodyChars = .ok (awards, []) := by
      rw [Request.bodyChars_of_encode rfl]
      simp only [String.reduceAppend, String.reduceToList]
      rfl
    rw [bodyValue, if_neg (by decide +kernel), if_neg (by decide +kernel), hread]
  obtain ⟨hreadBack, hsame⟩ :=
    respond_query_eq_respond_body (by decide) (by decide) hvalues hpairs
  obtain ⟨hsession, -⟩ := hsame standard (.steady ⟨.ok [], 0⟩) (.start ()) "" "budget" awardsQuery
    awardsBody rfl (by decide) rfl (by decide) hbody
  exact ⟨hpairs, hbody, hreadBack, hsession⟩

end DatasetSearch.Http.Server
