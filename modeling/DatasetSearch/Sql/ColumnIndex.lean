import DatasetSearch.Sql.Allowlist
import Std.Data.HashSet

/-!
# Columns with an index

An allowlist is gathered from names in one pass.  Beside the columns in their order stands an index
of their names, and it is the index that is asked whether a name is known.
-/

namespace DatasetSearch

/-- Columns in order and an index of their names.  `ColumnIndex.ofList` keeps the two in step. -/
structure ColumnIndex where
  columns : List String
  index : Std.HashSet String

namespace ColumnIndex

def empty : ColumnIndex := ⟨[], ∅⟩

/-- Whether the index holds a name; case matters. -/
def contains (c : ColumnIndex) (name : String) : Bool := c.index.contains name

/-- The columns with one more name.  A name that is new to the index goes to the end. -/
def add (c : ColumnIndex) (name : String) : ColumnIndex :=
  if c.contains name then c else ⟨c.columns ++ [name], c.index.insert name⟩

/-- The columns that are gathered from names. -/
def ofList (names : List String) : ColumnIndex := names.foldl add empty

def first? (c : ColumnIndex) : Option String := c.columns.head?

def size (c : ColumnIndex) : Nat := c.columns.length

def isEmpty (c : ColumnIndex) : Bool := c.columns.isEmpty

/-! ### One more name -/

theorem contains_empty (name : String) : empty.contains name = false := by
  simp [empty, contains]

theorem add_of_contains {c : ColumnIndex} {name : String} (h : c.contains name = true) :
    c.add name = c := by
  rw [add, if_pos h]

theorem columns_add_of_new {c : ColumnIndex} {name : String} (h : c.contains name = false) :
    (c.add name).columns = c.columns ++ [name] := by
  rw [add, if_neg (by simp [h])]

theorem size_index_add_of_new {c : ColumnIndex} {name : String} (h : c.contains name = false) :
    (c.add name).index.size = c.index.size + 1 := by
  have hnew : name ∉ c.index := by
    rw [Std.HashSet.mem_iff_contains, Bool.not_eq_true]
    exact h
  rw [add, if_neg (by simp [h]), Std.HashSet.size_insert, if_neg hnew]

theorem contains_add {c : ColumnIndex} {name other : String} :
    (c.add name).contains other = true ↔ c.contains other = true ∨ other = name := by
  by_cases hknown : c.contains name = true
  · rw [add_of_contains hknown]
    constructor
    · exact .inl
    · rintro (hother | rfl)
      · exact hother
      · exact hknown
  · rw [add, if_neg hknown, or_comm]
    simp [contains, eq_comm (a := name)]

theorem ofList_concat (names : List String) (name : String) :
    ofList (names ++ [name]) = (ofList names).add name := by
  simp [ofList]

end ColumnIndex

end DatasetSearch
