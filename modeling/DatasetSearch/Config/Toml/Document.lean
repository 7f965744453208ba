import DatasetSearch.Config.Toml.Value

/-!
# TOML documents

A document is a sequence of lines: a pair of a key and a value, the header of a table, the header
of one more of several tables, or nothing.  Pairs belong to the table of the header before them.
-/

namespace DatasetSearch.Config.Toml

/-- A line of a document that says something. -/
inductive Line where
  | pair (path : List String) (value : Setting)
  | header (path : List String)
  | nextTable (path : List String)

/-- A document read so far: its table, and the path of the table that pairs belong to. -/
structure Document where
  root : Table
  current : List String

namespace Document

def empty : Document := ⟨.empty .header, []⟩

/-- The document after a header, which `enter` gives effect in the table around it. -/
def atHeader (d : Document) (path : List String)
    (enter : String → Table → Option Table) : Option Document :=
  match path.reverse with
  | [] => none
  | key :: above =>
    (Table.changeAt .implied (enter key) above.reverse d.root).map (⟨·, path⟩)

def add (d : Document) : Line → Option Document
  | .pair path value =>
    (Table.changeAt .implied (·.setAt path value) d.current d.root).map (⟨·, d.current⟩)
  | .header path => d.atHeader path Table.define
  | .nextTable path => d.atHeader path Table.append

end Document

/-- A header between brackets, after the opening ones. -/
def headerPath (close : List Char) : Reader (List String) := fun s => do
  let (path, rest) ← key s
  if close.isPrefixOf rest then some (path, rest.drop close.length) else none

/-- What a line says, if it says anything. -/
def line : Reader (Option Line) := fun s =>
  match skipBlanks s with
  | '[' :: '[' :: rest =>
    (headerPath [']', ']'] rest).map (fun (path, rest) => (some (.nextTable path), rest))
  | '[' :: rest => (headerPath [']'] rest).map (fun (path, rest) => (some (.header path), rest))
  | s =>
    match s.head? with
    | none | some '\n' | some '\r' | some '#' => some (none, s)
    | _ => do
      let (path, rest) ← key s
      match rest with
      | '=' :: rest =>
        let (setting, rest) ← value (skipBlanks rest)
        some (some (.pair path setting), rest)
      | _ => none

/-- The document after the lines of a text.  The first argument bounds their number. -/
def addLines : Nat → Document → List Char → Option Document
  | 0, _, _ => none
  | fuel + 1, d, s => do
    let (said, rest) ← line s
    let d ← match said with
      | some l => d.add l
      | none => some d
    match ← lineEnd? rest with
    | [] => some d
    | rest => addLines fuel d rest

/-- The entries of the document that a text denotes.  A byte order mark may stand before it. -/
def parse? (text : String) : Option Entries :=
  let s := match text.toList with
    | '\ufeff' :: rest => rest
    | s => s
  (addLines (s.length + 1) .empty s).map (fun d => Table.settingsOf d.root.entries)

end DatasetSearch.Config.Toml
