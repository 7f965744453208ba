import DatasetSearch.Filter.Spec
import DatasetSearch.Json.Typed
import DatasetSearch.Service.Error
import DatasetSearch.Text.Blank
import DatasetSearch.Text.Integer

/-!
# Search requests

What a client asks for: filters, keywords, a page and an order.  A request comes as the parameters
of a query string, in which every other parameter is a filter, or as a JSON record.
-/

namespace DatasetSearch.Service

structure SearchRequest where
  filters : FilterSpec
  keywords : String
  page : Option UInt32
  pageSize : Option UInt32
  orderBy : Option String
deriving Repr

namespace SearchRequest

/-- The request that leaves everything open. -/
def empty : SearchRequest := ⟨.empty, "", none, none, none⟩

/-! ### Query strings -/

/-- The number of a parameter; blanks around it do not matter. -/
def number (key raw : String) : Except Error UInt32 :=
  match Text.word32? (Text.trim raw) with
  | some n => .ok n
  | none => .error (.validation (key ++ " must be a positive integer, got '" ++ raw ++ "'"))

/-- The request after one more parameter; one that sets a filter changes nothing else. -/
def withParameter (request : SearchRequest) (key raw : String) : Except Error SearchRequest :=
  match key with
  | "page" => (number key raw).map (fun n => { request with page := some n })
  | "page_size" | "pageSize" => (number key raw).map (fun n => { request with pageSize := some n })
  | "search_keywords" | "keywords" => .ok { request with keywords := raw }
  | "order_by" => .ok { request with orderBy := some raw }
  | _ => .ok request

def withParameters (request : SearchRequest) :
    List (String × String) → Except Error SearchRequest
  | [] => .ok request
  | (key, raw) :: rest => do
    let request ← request.withParameter key raw
    request.withParameters rest

def ofQueryPairs (pairs : List (String × String)) : Except Error SearchRequest :=
  withParameters { empty with filters := .ofQueryPairs pairs } pairs

/-! ### JSON -/

def field {α : Type} (names : List String) (read : Json.Typed α)
    (set : SearchRequest → α → SearchRequest) : Json.RecordField SearchRequest where
  names := names
  take request s := (read s).map (fun (value, rest) => (set request value, rest))
  hasDefault := true

/-- The fields of a request as a record.  One level of nesting is taken by the record itself. -/
def fields : List (Json.RecordField SearchRequest) :=
  [field ["filters"] (Json.typedObject (Json.depthLimit - 1))
      (fun r filters => { r with filters := ⟨filters⟩ }),
    field ["search_keywords"] Json.typedString (fun r text => { r with keywords := text }),
    field ["page"] (Json.typedNullable Json.typedWord32) (fun r n => { r with page := n }),
    field ["page_size", "pageSize"] (Json.typedNullable Json.typedWord32)
      (fun r n => { r with pageSize := n }),
    field ["order_by"] (Json.typedNullable Json.typedString)
      (fun r column => { r with orderBy := column })]

def ofJsonText (text : String) : Except Json.TextFault SearchRequest :=
  (Json.typedRecord fields empty text.toList).map (·.1)

end SearchRequest

end DatasetSearch.Service
