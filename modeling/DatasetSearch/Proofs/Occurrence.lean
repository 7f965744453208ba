import Mathlib.Data.List.Nodup

/-!
# Order of first occurrence

The distinct members of a list, in the order in which each of them first occurs.  There is one such
list, and it grows at its end: what is appended to a list adds its own first occurrences, without
those that occurred before.
-/

namespace DatasetSearch

variable {α : Type} [DecidableEq α] {distinct others more xs ys : List α} {x : α}

/-- The distinct members of a list, ordered by where they first occur in it. -/
structure AreFirsts (distinct xs : List α) : Prop where
  mem_iff : ∀ x, x ∈ distinct ↔ x ∈ xs
  inOrder : distinct.Pairwise fun x y => xs.idxOf x < xs.idxOf y

namespace AreFirsts

theorem nodup (h : AreFirsts distinct xs) : distinct.Nodup := by
  apply h.inOrder.imp
  rintro x y hlt rfl
  exact Nat.lt_irrefl _ hlt

/-- The members and their order determine a list. -/
theorem eq (h : AreFirsts distinct xs) (hothers : AreFirsts others xs) : distinct = others := by
  have hperm : distinct.Perm others := by
    rw [List.perm_ext_iff_of_nodup h.nodup hothers.nodup]
    intro x
    rw [h.mem_iff, hothers.mem_iff]
  apply hperm.eq_of_pairwise _ h.inOrder hothers.inOrder
  intro x y _ _ hbefore hafter
  omega

theorem nil : AreFirsts ([] : List α) [] where
  mem_iff _ := Iff.rfl
  inOrder := .nil

theorem singleton (x : α) : AreFirsts [x] [x] where
  mem_iff _ := Iff.rfl
  inOrder := List.pairwise_singleton _ x

/-- What is appended adds the first occurrences of its own that have not occurred before. -/
theorem append (h : AreFirsts distinct xs) (hmore : AreFirsts more ys) :
    AreFirsts (distinct ++ more.filter (· ∉ xs)) (xs ++ ys) where
  mem_iff x := by
    rw [List.mem_append, List.mem_append, List.mem_filter, h.mem_iff, hmore.mem_iff]
    by_cases hx : x ∈ xs <;> simp [hx]
  inOrder := by
    have hearly : ∀ x ∈ distinct, (xs ++ ys).idxOf x = xs.idxOf x := by
      intro x hx
      rw [List.idxOf_append, if_pos ((h.mem_iff x).mp hx)]
    have hlate : ∀ x ∈ more.filter (· ∉ xs), (xs ++ ys).idxOf x = ys.idxOf x + xs.length := by
      intro x hx
      rw [List.idxOf_append, if_neg (by simpa using (List.mem_filter.mp hx).2)]
    rw [List.pairwise_append]
    refine ⟨?_, ?_, ?_⟩
    · apply h.inOrder.imp_of_mem
      intro x y hx hy hlt
      rwa [hearly x hx, hearly y hy]
    · apply (hmore.inOrder.filter _).imp_of_mem
      intro x y hx hy hlt
      rw [hlate x hx, hlate y hy]
      omega
    · intro x hx y hy
      have hbound : xs.idxOf x < xs.length := List.idxOf_lt_length_of_mem ((h.mem_iff x).mp hx)
      rw [hearly x hx, hlate y hy]
      omega

theorem concat_of_mem (h : AreFirsts distinct xs) (hx : x ∈ xs) :
    AreFirsts distinct (xs ++ [x]) := by
  simpa [hx] using h.append (singleton x)

theorem concat_of_notMem (h : AreFirsts distinct xs) (hx : x ∉ xs) :
    AreFirsts (distinct ++ [x]) (xs ++ [x]) := by
  simpa [hx] using h.append (singleton x)

end AreFirsts

end DatasetSearch
