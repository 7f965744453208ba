/-!
# Column allowlists

The columns that a statement may name: distinct names in order of first occurrence.
-/

namespace DatasetSearch

/-- An ordered set of column names.  `Allowlist.ofList` keeps the names distinct. -/
structure Allowlist where
  columns : List String
deriving DecidableEq, Repr

namespace Allowlist

def empty : Allowlist := ⟨[]⟩

/-- Whether a name is one of the columns; case matters. -/
def contains (a : Allowlist) (name : String) : Bool := a.columns.contains name

theorem contains_iff {a : Allowlist} {name : String} :
    a.contains name = true ↔ name ∈ a.columns := by
  simp [contains]

/-- The allowlist with one more column at the end, unless it is there already. -/
def push (a : Allowlist) (name : String) : Allowlist :=
  if a.contains name then a else ⟨a.columns ++ [name]⟩

/-- The distinct names in order of first occurrence. -/
def ofList (names : List String) : Allowlist := names.foldl push empty

def first? (a : Allowlist) : Option String := a.columns.head?

def size (a : Allowlist) : Nat := a.columns.length

def isEmpty (a : Allowlist) : Bool := a.columns.isEmpty

/-! ### The allowlist of a list of names -/

theorem mem_push {a : Allowlist} {name other : String} :
    other ∈ (a.push name).columns ↔ other ∈ a.columns ∨ other = name := by
  unfold push
  split
  · next hknown =>
    have hmem : name ∈ a.columns := contains_iff.mp hknown
    constructor
    · exact .inl
    · rintro (hother | rfl)
      · exact hother
      · exact hmem
  · simp

theorem mem_foldl_push {names : List String} {a : Allowlist} {name : String} :
    name ∈ (names.foldl push a).columns ↔ name ∈ a.columns ∨ name ∈ names := by
  induction names generalizing a with
  | nil => simp
  | cons first names ih => rw [List.foldl_cons, ih, mem_push, List.mem_cons, or_assoc]

theorem mem_ofList {names : List String} {name : String} :
    name ∈ (ofList names).columns ↔ name ∈ names := by
  rw [ofList, mem_foldl_push]
  simp [empty]

theorem first?_push {a : Allowlist} {first : String} (h : a.first? = some first)
    (name : String) : (a.push name).first? = some first := by
  unfold push
  split
  · exact h
  · rw [first?] at h ⊢
    rw [List.head?_append, h]
    rfl

theorem first?_ofList (names : List String) : (ofList names).first? = names.head? := by
  have hkept : ∀ (names : List String) (a : Allowlist) (first : String),
      a.first? = some first → (names.foldl push a).first? = some first := by
    intro names
    induction names with
    | nil => exact fun _ _ h => h
    | cons name names ih => exact fun a first h => ih _ first (first?_push h name)
  cases names with
  | nil => rfl
  | cons name names => exact hkept names (empty.push name) name rfl

end Allowlist

end DatasetSearch
