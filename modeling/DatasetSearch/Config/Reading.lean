import DatasetSearch.Config.Settings

/-!
# Reading the settings

The shape of the settings is the same in every notation: sections are records, the datasets are a
table, and each setting has its type.  A notation only says how its values are read, so that one
definition serves the strict and the lenient notation.  A section or setting that is missing takes
its default; of the datasets there is then none.
-/

namespace DatasetSearch.Config

/-- How the values of a notation are read. -/
structure Reading (σ : Type) where
  /-- The fields of a record by name; the names are given in their order. -/
  record? : List String → σ → Option (String → Option σ)
  entries? : σ → Option (List (String × σ))
  items? : σ → Option (List σ)
  text? : σ → Option String
  flag? : σ → Option Bool
  /-- A natural number of at most a limit. -/
  natural? : Nat → σ → Option Nat
  constant? : σ → Option String
  /-- Whether a value stands for nothing. -/
  isNull : σ → Bool

namespace Reading

variable {σ : Type}

/-- A value that may be missing: its default stands in for it. -/
def orDefault {α : Type} (default : α) (decode : σ → Option α) : Option σ → Option α
  | none => some default
  | some value => decode value

/-- A value that may stand for nothing. -/
def optional? {α : Type} (r : Reading σ) (decode : σ → Option α) (value : σ) :
    Option (Option α) :=
  if r.isNull value then some none else (decode value).map some

def texts? (r : Reading σ) (value : σ) : Option (List String) :=
  (r.items? value).bind (·.mapM r.text?)

def word16? (r : Reading σ) (value : σ) : Option UInt16 :=
  (r.natural? (UInt16.size - 1) value).map UInt16.ofNat

def word32? (r : Reading σ) (value : σ) : Option UInt32 :=
  (r.natural? (UInt32.size - 1) value).map UInt32.ofNat

def word64? (r : Reading σ) (value : σ) : Option UInt64 :=
  (r.natural? (UInt64.size - 1) value).map UInt64.ofNat

def termJoin? (r : Reading σ) (value : σ) : Option Search.TermJoin :=
  (r.constant? value).bind Search.TermJoin.ofName?

end Reading

open Reading (orDefault)

/-! ### The names of the settings -/

def sectionNames : List String := ["server", "database", "datasets", "search", "cache", "logging"]

def Server.names : List String := ["host", "port", "cors_origins", "max_request_body_size"]

def Database.names : List String := ["url", "max_connections", "acquire_timeout_seconds"]

def Dataset.names : List String := ["table", "presets", "order_by"]

def Search.names : List String := ["default_page_size", "max_page_size", "term_join"]

def Caching.names : List String :=
  ["enabled", "default_ttl_seconds", "schema_ttl_seconds", "key_length", "single_flight"]

def Logging.names : List String :=
  ["level", "json", "file_enabled", "file_directory", "file_prefix", "file_rotation",
    "service_name"]

/-! ### The sections -/

section

variable {σ : Type} (r : Reading σ)

def Server.read? (value : σ) : Option Server := do
  let field ← r.record? names value
  let d := standard
  let host ← orDefault d.host r.text? (field "host")
  let port ← orDefault d.port r.word16? (field "port")
  let origins ← orDefault d.corsOrigins r.texts? (field "cors_origins")
  let size ← orDefault d.maxRequestBodySize r.word64? (field "max_request_body_size")
  some ⟨host, port, origins, size⟩

def Database.read? (value : σ) : Option Database := do
  let field ← r.record? names value
  let d := standard
  let url ← orDefault d.url r.text? (field "url")
  let connections ← orDefault d.maxConnections r.word32? (field "max_connections")
  let timeout ← orDefault d.acquireTimeoutSeconds r.word64? (field "acquire_timeout_seconds")
  some ⟨url, connections, timeout⟩

/-- A dataset; it needs a table. -/
def Dataset.read? (value : σ) : Option Dataset := do
  let field ← r.record? names value
  let table ← (field "table").bind r.text?
  let presets ← orDefault false r.flag? (field "presets")
  let orderBy ← orDefault none (r.optional? r.text?) (field "order_by")
  some ⟨table, presets, orderBy⟩

def readDatasets? (value : σ) : Option (List (String × Dataset)) := do
  let entries ← r.entries? value
  let datasets ← entries.mapM fun (entry : String × σ) =>
    (Dataset.read? r entry.2).map (entry.1, ·)
  some (sortByName datasets)

def Search.read? (value : σ) : Option Search := do
  let field ← r.record? names value
  let d := standard
  let defaultSize ← orDefault d.defaultPageSize r.word32? (field "default_page_size")
  let maxSize ← orDefault d.maxPageSize r.word32? (field "max_page_size")
  let termJoin ← orDefault d.termJoin r.termJoin? (field "term_join")
  some ⟨defaultSize, maxSize, termJoin⟩

def Caching.read? (value : σ) : Option Caching := do
  let field ← r.record? names value
  let d := standard
  let enabled ← orDefault d.enabled r.flag? (field "enabled")
  let ttl ← orDefault d.defaultTtlSeconds r.word64? (field "default_ttl_seconds")
  let schemaTtl ← orDefault d.schemaTtlSeconds r.word64? (field "schema_ttl_seconds")
  let keyLength ← orDefault d.keyLength r.word64? (field "key_length")
  let singleFlight ← orDefault d.singleFlight r.flag? (field "single_flight")
  some ⟨enabled, ttl, schemaTtl, keyLength, singleFlight⟩

def Logging.read? (value : σ) : Option Logging := do
  let field ← r.record? names value
  let d := standard
  let level ← orDefault d.level r.text? (field "level")
  let asJson ← orDefault d.json r.flag? (field "json")
  let fileEnabled ← orDefault d.fileEnabled r.flag? (field "file_enabled")
  let directory ← orDefault d.fileDirectory r.text? (field "file_directory")
  let stem ← orDefault d.fileStem r.text? (field "file_prefix")
  let rotation ← orDefault d.fileRotation r.text? (field "file_rotation")
  let serviceName ← orDefault d.serviceName r.text? (field "service_name")
  some ⟨level, asJson, fileEnabled, directory, stem, rotation, serviceName⟩

def read? (value : σ) : Option Config := do
  let field ← r.record? sectionNames value
  let server ← orDefault .standard (Server.read? r) (field "server")
  let database ← orDefault .standard (Database.read? r) (field "database")
  let datasets ← orDefault [] (readDatasets? r) (field "datasets")
  let search ← orDefault .standard (Search.read? r) (field "search")
  let cache ← orDefault .standard (Caching.read? r) (field "cache")
  let logging ← orDefault .standard (Logging.read? r) (field "logging")
  some ⟨server, database, datasets, search, cache, logging⟩

end

end DatasetSearch.Config
