import DatasetSearch.Config.Setting

/-!
# Tables under construction

A document sets each key once and defines each table once.  So that a second definition can be
told, a table remembers how it came about: by its own header, by the header of a table inside it, or
by a key with points.
-/

namespace DatasetSearch.Config.Toml

/-- How a table came about. -/
inductive Origin where
  | header
  /-- By the header of a table inside it; a header of its own may follow. -/
  | implied
  /-- By a key with points. -/
  | dotted
deriving DecidableEq, Repr

/-- What a key stands for: a value, a table, or tables in order of their headers. -/
inductive Item where
  | value (value : Setting)
  | table (origin : Origin) (entries : List (String × Item))
  | tables (last : List (String × Item)) (before : List (List (String × Item)))

structure Table where
  origin : Origin
  entries : List (String × Item)

namespace Table

def empty (origin : Origin) : Table := ⟨origin, []⟩

/-- The entries with one of them set. -/
def put (key : String) (item : Item) : List (String × Item) → List (String × Item)
  | [] => [(key, item)]
  | (name, old) :: rest =>
    if name = key then (name, item) :: rest else (name, old) :: put key item rest

def set (t : Table) (key : String) (item : Item) : Table :=
  { t with entries := put key item t.entries }

/-- The table with the table at the end of a path changed.  Tables on the way that are missing come
about with the origin `fresh`; of several tables the last one is meant.  A value is in the way, and
so is a table with a header for a key with points. -/
def changeAt (fresh : Origin) (change : Table → Option Table) : List String → Table → Option Table
  | [], t => change t
  | key :: path, t =>
    match t.entries.lookup key with
    | none =>
      (changeAt fresh change path (empty fresh)).map (fun c => t.set key (.table c.origin c.entries))
    | some (.value _) => none
    | some (.table origin entries) =>
      if fresh = .dotted ∧ origin = .header then none
      else
        (changeAt fresh change path ⟨origin, entries⟩).map
          (fun c => t.set key (.table c.origin c.entries))
    | some (.tables last before) =>
      (changeAt fresh change path ⟨.header, last⟩).map
        (fun c => t.set key (.tables c.entries before))

def setNew (key : String) (value : Setting) (t : Table) : Option Table :=
  if (t.entries.lookup key).isSome then none else some (t.set key (.value value))

/-- The table with a value set at the end of a path.  A key with points does not reach into a table
that a header brought about. -/
def setAt (t : Table) (path : List String) (value : Setting) : Option Table :=
  match path.reverse with
  | [] => none
  | [key] => t.setNew key value
  | key :: above =>
    changeAt .dotted
      (fun inner => if inner.origin = .dotted then inner.setNew key value else none)
      above.reverse t

/-- The table with a header for one of its keys: the key is new, or an implied table. -/
def define (key : String) (t : Table) : Option Table :=
  match t.entries.lookup key with
  | none => some (t.set key (.table .header []))
  | some (.table .implied entries) => some (t.set key (.table .header entries))
  | _ => none

/-- The table with one more table under a key that is new or has tables already. -/
def append (key : String) (t : Table) : Option Table :=
  match t.entries.lookup key with
  | none => some (t.set key (.tables [] []))
  | some (.tables last before) => some (t.set key (.tables [] (last :: before)))
  | _ => none

mutual

def settingOf : Item → Setting
  | .value value => value
  | .table _ entries => .table (settingsOf entries)
  | .tables last before => .list ((.table (settingsOf last) :: tablesOf before).reverse)

def settingsOf : List (String × Item) → Entries
  | [] => []
  | (key, item) :: rest => (key, settingOf item) :: settingsOf rest

def tablesOf : List (List (String × Item)) → List Setting
  | [] => []
  | entries :: rest => .table (settingsOf entries) :: tablesOf rest

end

def toSetting (t : Table) : Setting := .table (settingsOf t.entries)

end Table

end DatasetSearch.Config.Toml
