import Mathlib.Data.Set.Pairwise.Basic
import Mathlib.Order.Interval.Finset.Nat
import DatasetSearch.Sql.Plan

/-!
# Pages tile the rows

The pages of one size follow each other without a gap: each begins where the one before it ends, in
words as in numbers.  So the first pages together are the first rows, and each row of these is on
one page.
-/

namespace DatasetSearch.Pagination

/-! ### Pages in words -/

theorem make_eq_ok {page pageSize : UInt32} {p : Pagination} (h : make page pageSize = .ok p) :
    page ≠ 0 ∧ pageSize ≠ 0 ∧ p = ⟨page, pageSize⟩ := by
  unfold make at h
  split_ifs at h with hpage hsize
  exact ⟨hpage, hsize, (Except.ok.inj h).symm⟩

/-- The offset of a page is what its number and size say, in words as in numbers. -/
theorem toNat_offset {p : Pagination} (h : p.page ≠ 0) :
    p.offset.toNat = (p.page.toNat - 1) * p.pageSize.toNat := by
  have hone : 1 ≤ p.page := by
    rw [UInt32.le_iff_toNat_le]
    exact Nat.one_le_iff_ne_zero.mpr fun hzero => h (UInt32.toNat_inj.mp hzero)
  have hpage : (p.page - 1).toNat = p.page.toNat - 1 := UInt32.toNat_sub_of_le _ _ hone
  have hbefore : p.page.toNat - 1 < 2 ^ 32 := Nat.lt_of_le_of_lt (Nat.sub_le _ _) p.page.toNat_lt
  have hproduct : (p.page.toNat - 1) * p.pageSize.toNat < 2 ^ 32 * 2 ^ 32 :=
    Nat.mul_lt_mul'' hbefore p.pageSize.toNat_lt
  unfold offset
  rw [UInt64.toNat_mul, UInt32.toNat_toUInt64, UInt32.toNat_toUInt64, hpage]
  exact Nat.mod_eq_of_lt hproduct

theorem toNat_pageSize_clamped (p : Pagination) (greatest : UInt32) :
    (p.clamped greatest).pageSize.toNat = min p.pageSize.toNat (max greatest.toNat 1) := by
  rw [clamped, UInt32.toNat_min, UInt32.toNat_max, UInt32.toNat_one]

/-- Of two limits the smaller one holds; each counts as at least one. -/
theorem clamped_clamped (p : Pagination) (greatest other : UInt32) :
    (p.clamped greatest).clamped other = p.clamped (min (max greatest 1) (max other 1)) := by
  have hsize : ((p.clamped greatest).clamped other).pageSize =
      (p.clamped (min (max greatest 1) (max other 1))).pageSize := by
    rw [← UInt32.toNat_inj]
    simp only [toNat_pageSize_clamped, UInt32.toNat_min, UInt32.toNat_max, UInt32.toNat_one]
    omega
  simp only [clamped] at hsize ⊢
  rw [hsize]

/-! ### Pages of one size -/

/-- The page of a number and a size, which is limited to `greatest`. -/
def sized (size greatest : UInt32) (number : Nat) : Pagination :=
  (⟨.ofNat number, size⟩ : Pagination).clamped greatest

/-- The positions of the rows of a page, from its offset on. -/
def positions (p : Pagination) : Finset Nat :=
  Finset.Ico p.offset.toNat (p.offset.toNat + p.pageSize.toNat)

/-- The rows at the positions of a page. -/
def slice {α : Type} (p : Pagination) (rows : List α) : List α :=
  rows.extract p.offset.toNat (p.offset.toNat + p.pageSize.toNat)

section

variable {size greatest : UInt32} {number : Nat}

theorem toNat_page_sized (h : number < 2 ^ 32) :
    (sized size greatest number).page.toNat = number := UInt32.toNat_ofNat_of_lt' h

theorem toNat_offset_sized (hone : 1 ≤ number) (h : number < 2 ^ 32) :
    (sized size greatest number).offset.toNat =
      (number - 1) * min size.toNat (max greatest.toNat 1) := by
  have hpage : (sized size greatest number).page.toNat = number := toNat_page_sized h
  rw [toNat_offset, hpage, sized, toNat_pageSize_clamped]
  intro hzero
  rw [hzero, UInt32.toNat_zero] at hpage
  omega

/-- The row at a position is on the page that the position divided by the size says. -/
theorem mem_positions_sized (hsize : 1 ≤ size) (hone : 1 ≤ number) (h : number < 2 ^ 32)
    {i : Nat} :
    i ∈ (sized size greatest number).positions ↔
      i / min size.toNat (max greatest.toNat 1) + 1 = number := by
  have hwidth : 0 < min size.toNat (max greatest.toNat 1) := by
    have hasked : 1 ≤ size.toNat := UInt32.le_iff_toNat_le.mp hsize
    omega
  rw [positions, Finset.mem_Ico, toNat_offset_sized hone h, sized, toNat_pageSize_clamped,
    ← Nat.succ_mul, ← Nat.le_div_iff_mul_le hwidth, ← Nat.div_lt_iff_lt_mul hwidth]
  omega

/-- Different pages have no position in common. -/
theorem disjoint_positions_sized (hsize : 1 ≤ size) {k : Nat} (hk : k < 2 ^ 32) :
    (Finset.Icc 1 k : Set Nat).PairwiseDisjoint fun n => (sized size greatest n).positions := by
  intro m hm n hn hne
  rw [Finset.coe_Icc, Set.mem_Icc] at hm hn
  rw [Function.onFun, Finset.disjoint_left]
  intro i him hin
  rw [mem_positions_sized hsize hm.1 (by omega)] at him
  rw [mem_positions_sized hsize hn.1 (by omega)] at hin
  omega

theorem existsUnique_mem_positions_sized (hsize : 1 ≤ size) {k : Nat} (hk : k < 2 ^ 32) {i : Nat}
    (hi : i < k * min size.toNat (max greatest.toNat 1)) :
    ∃! n, (1 ≤ n ∧ n ≤ k) ∧ i ∈ (sized size greatest n).positions := by
  have hnumber : i / min size.toNat (max greatest.toNat 1) + 1 ≤ k :=
    Nat.div_lt_of_lt_mul (Nat.mul_comm _ _ ▸ hi)
  refine ⟨i / min size.toNat (max greatest.toNat 1) + 1, ⟨⟨Nat.succ_pos _, hnumber⟩, ?_⟩, ?_⟩
  · exact (mem_positions_sized hsize (Nat.succ_pos _) (Nat.lt_of_le_of_lt hnumber hk)).mpr rfl
  · rintro n ⟨⟨hone, hle⟩, hmem⟩
    rw [mem_positions_sized hsize hone (by omega)] at hmem
    exact hmem.symm

end

/-! ### The first pages -/

theorem flatMap_extract {α : Type} (rows : List α) (width k : Nat) :
    ((List.range' 1 k).flatMap fun n =>
      rows.extract ((n - 1) * width) ((n - 1) * width + width)) = rows.take (k * width) := by
  induction k with
  | zero => simp
  | succ k ih =>
    rw [List.range'_1_concat, List.flatMap_append, ih, Nat.succ_mul, List.take_add]
    simp [List.extract_eq_take_drop]

/-- The first pages hold the first rows, each page its own. -/
theorem flatMap_slice_sized {size greatest : UInt32} {α : Type} (rows : List α) {k : Nat}
    (hk : k < 2 ^ 32) :
    ((List.range' 1 k).flatMap fun n => (sized size greatest n).slice rows) =
      rows.take (k * min size.toNat (max greatest.toNat 1)) := by
  rw [← flatMap_extract]
  apply List.flatMap_congr
  intro n hn
  obtain ⟨hone, hle⟩ : 1 ≤ n ∧ n < 1 + k := by simpa using hn
  rw [slice, toNat_offset_sized hone (by omega), sized, toNat_pageSize_clamped]

/-- The page of a number, which has a width: its offset in words is the product over the integers,
and both stand in the statement that reads it. -/
structure IsPage (p : Pagination) (page : UInt32) (width : Nat) : Prop where
  page_eq : p.page = page
  pageSize : p.pageSize.toNat = width
  offset : (p.offset.toNat : Int) = ((page.toNat : Int) - 1) * width
  dataQuery : ∀ table filter search allowlist order, ∃ front,
    (Sql.Plan.assemble table filter search p allowlist order).dataQuery =
      front ++ " LIMIT " ++ toString width ++ " OFFSET " ++ toString p.offset.toNat

theorem isPage_sized {size greatest page : UInt32} (hpage : 1 ≤ page) :
    IsPage (sized size greatest page.toNat) page (min size.toNat (max greatest.toNat 1)) := by
  have hone : 1 ≤ page.toNat := UInt32.le_iff_toNat_le.mp hpage
  have hwidth : (sized size greatest page.toNat).pageSize.toNat =
      min size.toNat (max greatest.toNat 1) := toNat_pageSize_clamped _ greatest
  constructor
  · exact UInt32.ofNat_toNat
  · exact hwidth
  · rw [toNat_offset_sized hone page.toNat_lt, Int.natCast_mul, Int.natCast_sub hone]
    rfl
  · intro table filter search allowlist order
    rw [← hwidth]
    exact ⟨_, rfl⟩

/-- Every number and every size from one on have their page. -/
theorem map_clamped_make {size page : UInt32} (hsize : 1 ≤ size) (hpage : 1 ≤ page)
    (greatest : UInt32) :
    (make page size).map (·.clamped greatest) = .ok (sized size greatest page.toNat) := by
  have hpositive : ∀ {n : UInt32}, 1 ≤ n → n ≠ 0 := by
    rintro n hn rfl
    exact absurd hn (by decide)
  rw [make, if_neg (hpositive hpage), if_neg (hpositive hsize), sized, UInt32.ofNat_toNat]
  rfl

/-- Pages have the size that is asked for or the greatest that is allowed, which counts as at least
one.  Every number has its page, whose offset in words is what its number and its size say.  A
further limit is as good as the smaller of the two at once.  The first pages have no position in
common and together hold the first rows, so each of these rows is on one page. -/
theorem pages_tile {size : UInt32} (hsize : 1 ≤ size) (greatest : UInt32) :
    let width := min size.toNat (max greatest.toNat 1)
    1 ≤ width ∧ width ≤ max greatest.toNat 1 ∧
      (∀ page, 1 ≤ page →
        (make page size).map (·.clamped greatest) = .ok (sized size greatest page.toNat) ∧
          IsPage (sized size greatest page.toNat) page width) ∧
      (∀ (p : Pagination) (other : UInt32), (p.clamped greatest).clamped other =
        p.clamped (min (max greatest 1) (max other 1))) ∧
      ∀ k < 2 ^ 32,
        ((Finset.Icc 1 k : Set Nat).PairwiseDisjoint fun n => (sized size greatest n).positions) ∧
        (∀ i < k * width, ∃! n, (1 ≤ n ∧ n ≤ k) ∧ i ∈ (sized size greatest n).positions) ∧
        ∀ {α : Type} (rows : List α),
          ((List.range' 1 k).flatMap fun n => (sized size greatest n).slice rows) =
            rows.take (k * width) := by
  intro width
  have hasked : 1 ≤ size.toNat := UInt32.le_iff_toNat_le.mp hsize
  refine ⟨by omega, by omega, ?_, fun p other => clamped_clamped p greatest other, ?_⟩
  · intro page hpage
    exact ⟨map_clamped_make hsize hpage greatest, isPage_sized hpage⟩
  · intro k hk
    refine ⟨disjoint_positions_sized hsize hk, ?_, fun rows => flatMap_slice_sized rows hk⟩
    intro i hi
    exact existsUnique_mem_positions_sized hsize hk hi

/-- The last page of the greatest size begins below the end of 64-bit words, and three pages of at
most two rows hold five rows. -/
theorem pages_tile_last :
    IsPage (sized 4294967295 4294967295 4294967295) 4294967295 4294967295 ∧
      (sized 4294967295 4294967295 4294967295).offset = 18446744060824649730 ∧
      ([1, 2, 3].flatMap fun n => (sized 5 2 n).slice ["a", "b", "c", "d", "e"]) =
        ["a", "b", "c", "d", "e"] ∧
      ∃! n, (1 ≤ n ∧ n ≤ 3) ∧ 4 ∈ (sized 5 2 n).positions := by
  have hgreatest : (1 : UInt32) ≤ 4294967295 := by decide
  have hfive : (1 : UInt32) ≤ 5 := by decide
  obtain ⟨-, -, hpages, -, -⟩ := pages_tile hgreatest 4294967295
  obtain ⟨-, -, -, -, htile⟩ := pages_tile hfive 2
  obtain ⟨-, hunique, hrows⟩ := htile 3 (by decide)
  exact ⟨(hpages 4294967295 (by decide)).2, by decide, hrows ["a", "b", "c", "d", "e"],
    hunique 4 (by decide)⟩

end DatasetSearch.Pagination
