import DatasetSearch.Config.Settings
import DatasetSearch.Filter.Compile
import DatasetSearch.Service.Columns
import DatasetSearch.Service.SearchRequest
import DatasetSearch.Sql.Plan

/-!
# The dataset service

A search looks up the columns of its table, plans the two statements and runs them through the
cache: first the one that counts, then the one that reads a page.  What is wrong with a request
itself is found before any statement is sent.
-/

namespace DatasetSearch

structure Dataset where
  name : String
  table : TableName
  /-- Whether the contract presets are enabled. -/
  presets : Bool
  orderBy : Option String
deriving DecidableEq, Repr

/-- The service: its datasets in order of their names, and how it pages, searches and caches. -/
structure Service where
  datasets : List Dataset
  paging : Config.Search
  cacheEnabled : Bool
  settings : Cache.Settings
  /-- How long column lists stay fresh in milliseconds. -/
  columnTtl : Nat
deriving Repr

namespace Service

/-! ### Datasets -/

def datasetOf (name : String) (d : Config.Dataset) : Except Error Dataset :=
  match TableName.parse? d.table with
  | some table => .ok ⟨name, table, d.presets, d.orderBy⟩
  | none => .error (.tableName d.table)

/-- The service of a configuration; it needs valid table names. -/
def ofConfig (config : Config) : Except Error Service := do
  let datasets ← config.datasets.mapM (fun (name, d) => datasetOf name d)
  return {
    datasets
    paging := config.search
    cacheEnabled := config.cache.enabled
    settings := config.cache.settings
    columnTtl := config.cache.schemaTtl }

def dataset (service : Service) (name : String) : Except Error Dataset :=
  match service.datasets.find? (·.name == name) with
  | some dataset => .ok dataset
  | none => .error (.datasetNotFound name)

def tables (service : Service) : Json :=
  .object (service.datasets.map (fun d => (d.name, .string d.table.text)))

/-! ### Planning -/

/-- The page that a request asks for: the first, of the default size, unless it says otherwise. -/
def pagination (service : Service) (request : SearchRequest) : Except Error Pagination :=
  let size := request.pageSize.getD service.paging.defaultPageSize
  match Pagination.make (request.page.getD 1) size with
  | .ok page => .ok (page.clamped service.paging.maxPageSize)
  | .error error => .error (.pagination error.message)

def presetsOf (d : Dataset) : List Filter.Preset := if d.presets then Filter.Preset.all else []

/-- The clauses of a request over the columns of a dataset: filters and keywords. -/
def clauses (service : Service) (d : Dataset) (allowlist : Allowlist) (request : SearchRequest) :
    Sql.Clause × Sql.Clause :=
  (Filter.compile allowlist (presetsOf d) request.filters,
    Search.compile request.keywords (some allowlist) service.paging.termJoin)

/-- The statements of a request over the columns of a dataset. -/
def plan (service : Service) (d : Dataset) (allowlist : Allowlist) (page : Pagination)
    (request : SearchRequest) : Sql.Plan :=
  let (filter, search) := service.clauses d allowlist request
  Sql.Plan.assemble d.table filter search page allowlist (request.orderBy.or d.orderBy)

def planEvents (service : Service) (d : Dataset) (allowlist : Allowlist) (page : Pagination)
    (request : SearchRequest) : List Log.Event :=
  let (filter, search) := service.clauses d allowlist request
  Filter.events request.filters filter ++
    Search.events request.keywords (some allowlist) search ++
    Sql.Plan.events d.table (service.plan d allowlist page request)

/-! ### Answers -/

/-- One page of the rows that a search selects. -/
structure Page where
  rows : List Row
  totalCount : Int
  page : UInt32
  pageSize : UInt32
  elapsedMs : UInt64
  cached : Bool
  message : Option String
deriving Repr

namespace Page

def empty (p : Pagination) (message : String) : Page :=
  ⟨[], 0, p.page, p.pageSize, 0, false, some message⟩

def toJson (p : Page) : Json :=
  .object
    ([("data", .array (p.rows.map Json.object)),
      ("total_count", .number (.int p.totalCount)),
      ("page", .ofNat p.page.toNat),
      ("page_size", .ofNat p.pageSize.toNat),
      ("execution_time_ms", .ofNat p.elapsedMs.toNat),
      ("cached", .bool p.cached)] ++
      p.message.toList.map (fun message => ("message", .string message)))

end Page

def countColumn : String := "total_count"

/-- The times of two results add up to a 64-bit word. -/
def TimesFit (count data : QueryResult) : Prop :=
  count.elapsedMs.toNat + data.elapsedMs.toNat < UInt64.size

instance (count data : QueryResult) : Decidable (TimesFit count data) :=
  inferInstanceAs (Decidable (_ < _))

/-- The page that the results of the two statements make up if their times add up. -/
def pageOf (p : Pagination) (count data : QueryResult) : Page :=
  ⟨data.rows, (count.firstInt? countColumn).getD 0, p.page, p.pageSize,
    count.elapsedMs + data.elapsedMs, data.cached && count.cached, none⟩

def completedEvent (name : String) (page : Page) : Log.Event where
  level := .info
  target := "fedspend::services::dataset"
  message := "Dataset search completed"
  fields :=
    [("dataset", .quoted name), ("page", .number page.page.toNat),
      ("page_size", .number page.pageSize.toNat), ("rows", .number page.rows.length),
      ("total_count", .number page.totalCount), ("cached", .flag page.cached)]

def noColumnsEvent (d : Dataset) : Log.Event where
  level := .warn
  target := "fedspend::services::dataset"
  message := "No columns found"
  fields := [("dataset", .quoted d.name), ("table", .plain d.table.text)]

/-! ### Work -/

section

variable {σ : Type}

def decided {α : Type} : Except Error α → Work σ α
  | .ok value => pure value
  | .error error => throw (.error error)

/-- A call for a statement of a dataset.  Without the cache it is bypassed. -/
def call (service : Service) (d : Dataset) (sql : String) : Cache.Call :=
  ⟨⟨sql, []⟩, d.name, none, !service.cacheEnabled⟩

def columns (service : Service) (warehouse : Warehouse σ) (d : Dataset) : Work σ (List Column) :=
  Column.ofTable service.settings warehouse service.columnTtl d.table

def searchOver (service : Service) (warehouse : Warehouse σ) (d : Dataset) (page : Pagination)
    (allowlist : Allowlist) (request : SearchRequest) : Work σ Page := do
  let plan := service.plan d allowlist page request
  reportAll (service.planEvents d allowlist page request)
  let count ← query service.settings warehouse (service.call d plan.countQuery)
  let data ← query service.settings warehouse (service.call d plan.dataQuery)
  let result := pageOf page count data
  reportAll [completedEvent d.name result]
  if TimesFit count data then return result else throw (.overflow .elapsed)

def search (service : Service) (warehouse : Warehouse σ) (name : String)
    (request : SearchRequest) : Work σ Page := do
  let d ← decided (service.dataset name)
  let page ← decided (service.pagination request)
  let columns ← service.columns warehouse d
  if columns.isEmpty then
    reportAll [noColumnsEvent d]
    return .empty page ("No columns found in " ++ name ++ " table")
  else
    service.searchOver warehouse d page (.ofList (columns.map (·.name))) request

/-- What is known of a dataset: its table, whether it has presets, and its columns. -/
def metadata (service : Service) (warehouse : Warehouse σ) (name : String) : Work σ Json := do
  let d ← decided (service.dataset name)
  let columns ← service.columns warehouse d
  return .object
    [("dataset", .string name), ("table", .string d.table.text), ("presets", .bool d.presets),
      ("columns", .array (columns.map Column.toJson))]

/-- The call for the version of the warehouse, which never is answered from the cache. -/
def versionCall : Cache.Call := ⟨⟨"SELECT version() AS version", []⟩, "health", none, true⟩

def warehouseVersion (service : Service) (warehouse : Warehouse σ) : Work σ (Option String) := do
  let result ← query service.settings warehouse versionCall
  return (result.rows.head?.bind (Fields.get? · "version")).bind Json.string?

end

end Service

end DatasetSearch
