import Mathlib.Data.Finset.Card
import DatasetSearch.Proofs.Occurrence
import DatasetSearch.Sql.ColumnIndex

/-!
# Columns and their index agree

Columns that are gathered from names are their first occurrences, and the index holds these names
and no others.  So they are the columns of the allowlist that compilers are given.  Gathering them
once more changes nothing, and names that follow add those that are new.
-/

namespace DatasetSearch.ColumnIndex

/-- The columns are the first occurrences of some names, and the index holds just these names. -/
structure IsGathered (c : ColumnIndex) (names : List String) : Prop where
  firsts : AreFirsts c.columns names
  contains_iff : ∀ name, c.contains name = true ↔ name ∈ names
  size_index : c.index.size = c.columns.length

variable {c : ColumnIndex} {names : List String} {name : String}

/-- One more name keeps the columns and the index in step. -/
theorem IsGathered.add (h : c.IsGathered names) (name : String) :
    (c.add name).IsGathered (names ++ [name]) := by
  by_cases hknown : c.contains name = true
  · have hmem : name ∈ names := (h.contains_iff name).mp hknown
    rw [add_of_contains hknown]
    refine ⟨h.firsts.concat_of_mem hmem, ?_, h.size_index⟩
    intro other
    rw [h.contains_iff, List.mem_append, List.mem_singleton]
    constructor
    · exact .inl
    · rintro (hother | rfl)
      · exact hother
      · exact hmem
  · have hnew : name ∉ names := fun hmem => hknown ((h.contains_iff name).mpr hmem)
    rw [Bool.not_eq_true] at hknown
    refine ⟨?_, ?_, ?_⟩
    · rw [columns_add_of_new hknown]
      exact h.firsts.concat_of_notMem hnew
    · intro other
      rw [contains_add, h.contains_iff, List.mem_append, List.mem_singleton]
    · rw [columns_add_of_new hknown, List.length_append, size_index_add_of_new hknown,
        h.size_index, List.length_singleton]

theorem isGathered_ofList (names : List String) : (ofList names).IsGathered names := by
  induction names using List.reverseRecOn with
  | nil => exact ⟨.nil, by simp [ofList, contains_empty], rfl⟩
  | append_singleton names name ih =>
    rw [ofList_concat]
    exact ih.add name

/-- The index is asked where an allowlist looks through its columns, with the same answer. -/
theorem contains_ofList_eq (names : List String) (name : String) :
    (ofList names).contains name = (Allowlist.ofList names).contains name := by
  rw [Bool.eq_iff_iff, (isGathered_ofList names).contains_iff, Allowlist.contains_iff,
    Allowlist.mem_ofList]

theorem columns_ofList_eq (names : List String) :
    (ofList names).columns = (Allowlist.ofList names).columns := by
  induction names using List.reverseRecOn with
  | nil => rfl
  | append_singleton names name ih =>
    have hpush : Allowlist.ofList (names ++ [name]) = (Allowlist.ofList names).push name := by
      simp [Allowlist.ofList]
    have hsame := contains_ofList_eq names name
    rw [ofList_concat, hpush, Allowlist.push]
    by_cases hknown : (ofList names).contains name = true
    · rw [add_of_contains hknown, if_pos (hsame ▸ hknown), ih]
    · rw [Bool.not_eq_true] at hknown
      rw [columns_add_of_new hknown, if_neg (by simp [← hsame, hknown]), ih]

/-- Columns that were gathered are gathered again as they are, with the same index. -/
theorem ofList_columns_ofList (names : List String) :
    ofList (ofList names).columns = ofList names := by
  induction names using List.reverseRecOn with
  | nil => rfl
  | append_singleton names name ih =>
    rw [ofList_concat]
    by_cases hknown : (ofList names).contains name = true
    · rw [add_of_contains hknown, ih]
    · rw [Bool.not_eq_true] at hknown
      rw [columns_add_of_new hknown, ofList_concat, ih]

theorem columns_ofList_append (names more : List String) :
    (ofList (names ++ more)).columns =
      (ofList names).columns ++ (ofList more).columns.filter fun name =>
        !(ofList names).contains name := by
  have hfirsts := (isGathered_ofList names).firsts.append (isGathered_ofList more).firsts
  rw [(isGathered_ofList (names ++ more)).firsts.eq hfirsts]
  congr 1
  apply List.filter_congr
  intro name _
  rw [Bool.eq_iff_iff]
  simp [← (isGathered_ofList names).contains_iff]

theorem size_ofList (names : List String) : (ofList names).size = names.toFinset.card := by
  have hfirsts := (isGathered_ofList names).firsts
  rw [size, ← List.toFinset_card_of_nodup hfirsts.nodup]
  congr 1
  ext name
  rw [List.mem_toFinset, List.mem_toFinset, hfirsts.mem_iff]

/-- Gathered columns are distinct and in order of first occurrence, and the index holds the names
that were given, which are those of the columns.  There are as many as there are distinct names, and
the first is the first.  Gathering the columns again gives the same columns and the same index, and
names that follow others add their columns that are new.  The allowlist of the same names has the
same columns and the same answers. -/
theorem ofList_isOrderedSet (names : List String) :
    let c := ofList names
    c.columns.Nodup ∧ (c.columns.Pairwise fun left right => names.idxOf left < names.idxOf right) ∧
      (∀ name, c.contains name = true ↔ name ∈ names) ∧
      (∀ name, c.contains name = true ↔ name ∈ c.columns) ∧ c.index.size = c.size ∧
      c.size = names.toFinset.card ∧ c.first? = names.head? ∧ ofList c.columns = c ∧
      (∀ more, (ofList (names ++ more)).columns =
        c.columns ++ (ofList more).columns.filter fun name => !c.contains name) ∧
      c.columns = (Allowlist.ofList names).columns ∧
      ∀ name, c.contains name = (Allowlist.ofList names).contains name := by
  intro c
  have h : c.IsGathered names := isGathered_ofList names
  refine ⟨h.firsts.nodup, h.firsts.inOrder, h.contains_iff, ?_, h.size_index, size_ofList names,
    ?_, ofList_columns_ofList names, columns_ofList_append names, columns_ofList_eq names,
    contains_ofList_eq names⟩
  · intro name
    rw [h.contains_iff, h.firsts.mem_iff]
  · rw [first?, columns_ofList_eq]
    exact Allowlist.first?_ofList names

end DatasetSearch.ColumnIndex
