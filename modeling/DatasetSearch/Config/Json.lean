import DatasetSearch.Config.Reading
import DatasetSearch.Json.Record

/-!
# Settings as JSON

JSON is the strict notation: every value has exactly its type.
-/

namespace DatasetSearch.Config

def strict : Reading Json where
  record? := Json.record?
  entries? := Json.object?
  items? := Json.list? some
  text? := Json.string?
  flag? := Json.bool?
  natural? := Json.natUpTo?
  constant? := Json.constant?
  isNull
    | .null => true
    | _ => false

/-- The settings that a JSON value denotes. -/
def ofJson? (json : Json) : Option Config := read? strict json

/-! ### Writing -/

def objectOf (names : List String) (values : List Json) : Json := .object (names.zip values)

def Server.toJson (s : Server) : Json :=
  objectOf names
    [.string s.host, .ofNat s.port.toNat, .array (s.corsOrigins.map Json.string),
      .ofNat s.maxRequestBodySize.toNat]

def Database.toJson (d : Database) : Json :=
  objectOf names
    [.string d.url, .ofNat d.maxConnections.toNat, .ofNat d.acquireTimeoutSeconds.toNat]

def Dataset.toJson (d : Dataset) : Json :=
  objectOf names [.string d.table, .bool d.presets, .ofOption Json.string d.orderBy]

def Search.toJson (s : Search) : Json :=
  objectOf names
    [.ofNat s.defaultPageSize.toNat, .ofNat s.maxPageSize.toNat, .string s.termJoin.name]

def Caching.toJson (c : Caching) : Json :=
  objectOf names
    [.bool c.enabled, .ofNat c.defaultTtlSeconds.toNat, .ofNat c.schemaTtlSeconds.toNat,
      .ofNat c.keyLength.toNat, .bool c.singleFlight]

def Logging.toJson (l : Logging) : Json :=
  objectOf names
    [.string l.level, .bool l.json, .bool l.fileEnabled, .string l.fileDirectory,
      .string l.fileStem, .string l.fileRotation, .string l.serviceName]

def toJson (c : Config) : Json :=
  objectOf sectionNames
    [c.server.toJson, c.database.toJson,
      .object (c.datasets.map (fun (name, d) => (name, d.toJson))),
      c.search.toJson, c.cache.toJson, c.logging.toJson]

end DatasetSearch.Config
