import Mathlib.Tactic.IntervalCases
import DatasetSearch.Cache.Key

/-!
# Keys keep labels apart

A label may hold colons, but the part of the digest after it holds none: the last colon of a key is
where its label ends.
-/

namespace DatasetSearch

namespace Text.Sha256

/-- A text has the form of a digest: 64 lower-case hexadecimal characters. -/
def IsDigest (text : String) : Prop :=
  text.toList.length = 64 ∧ ∀ c ∈ text.toList, c ∈ "0123456789abcdef".toList

theorem IsDigest.colon_notMem {text : String} (h : IsDigest text) : ':' ∉ text.toList := by
  intro hcolon
  exact absurd (h.2 ':' hcolon) (by decide)

theorem hexChar_mem {n : UInt32} (h : n.toNat < 16) : hexChar n ∈ "0123456789abcdef".toList := by
  obtain ⟨m, hm⟩ : ∃ m, n.toNat = m := ⟨_, rfl⟩
  rw [hm] at h
  have hn : n = UInt32.ofNat m := by rw [← hm, UInt32.ofNat_toNat]
  rw [hn]
  interval_cases m <;> decide

theorem isDigest_hex (message : List UInt8) : IsDigest (hex message) := by
  constructor
  · simp [hex, hexWord]
  · intro c hc
    unfold hex at hc
    rw [String.toList_ofList] at hc
    obtain ⟨word, -, hword⟩ := List.mem_flatMap.mp hc
    unfold hexWord at hword
    obtain ⟨shift, -, rfl⟩ := List.mem_map.mp hword
    apply hexChar_mem
    rw [UInt32.toNat_and]
    exact Nat.lt_succ_of_le Nat.and_le_right

end Text.Sha256

namespace Cache

open Text.Sha256

/-- The part of a key after its label. -/
def digestPart (k : KeyDigest) (statement : Statement) : String :=
  k.cut (Text.Sha256.hex (Text.Utf8.encode (digestInput statement)))

theorem KeyDigest.colon_notMem_cut {digest : String} (h : ':' ∉ digest.toList) (k : KeyDigest) :
    ':' ∉ (k.cut digest).toList := by
  cases k with
  | full => exact h
  | truncated count =>
    unfold KeyDigest.cut
    rw [String.toList_ofList]
    exact fun hmem => h (List.mem_of_mem_take hmem)

theorem eq_of_append_cons_eq {α : Type} {a : α} {s t u v : List α} (hs : a ∉ s) (ht : a ∉ t)
    (h : s ++ a :: u = t ++ a :: v) : s = t ∧ u = v := by
  induction s generalizing t with
  | nil =>
    cases t with
    | nil => exact ⟨rfl, (List.cons.inj h).2⟩
    | cons c t => exact absurd (by rw [(List.cons.inj h).1]; exact List.mem_cons_self) ht
  | cons b s ih =>
    cases t with
    | nil => exact absurd (by rw [(List.cons.inj h).1]; exact List.mem_cons_self) hs
    | cons c t =>
      obtain ⟨hhead, htail⟩ := List.cons.inj h
      obtain ⟨hst, huv⟩ := ih (fun hmem => hs (List.mem_cons_of_mem b hmem))
        (fun hmem => ht (List.mem_cons_of_mem c hmem)) htail
      exact ⟨by rw [hhead, hst], huv⟩

/-- What stands before and behind the last colon of a text. -/
theorem eq_of_append_colon_eq {label other part second : String} (hpart : ':' ∉ part.toList)
    (hsecond : ':' ∉ second.toList) (h : label ++ ":" ++ part = other ++ ":" ++ second) :
    label = other ∧ part = second := by
  -- Read backwards, the text is cut at its first colon.
  have hbackwards : ∀ front behind : String, (front ++ ":" ++ behind).toList.reverse =
      behind.toList.reverse ++ ':' :: front.toList.reverse := by
    intro front behind
    rw [String.toList_append, String.toList_append, List.reverse_append, List.reverse_append]
    rfl
  have hreversed : part.toList.reverse ++ ':' :: label.toList.reverse =
      second.toList.reverse ++ ':' :: other.toList.reverse := by
    rw [← hbackwards, ← hbackwards, h]
  obtain ⟨hdigest, hlabel⟩ := eq_of_append_cons_eq (by rwa [List.mem_reverse])
    (by rwa [List.mem_reverse]) hreversed
  exact ⟨String.toList_injective (List.reverse_inj.mp hlabel),
    String.toList_injective (List.reverse_inj.mp hdigest)⟩

/-- Equal keys have equal labels and equal parts of the digest. -/
theorem keyWith_inj {digest : List UInt8 → String} (hdigest : ∀ message, IsDigest (digest message))
    {k : KeyDigest} {label other : String} {statement second : Statement}
    (h : keyWith digest k label statement = keyWith digest k other second) :
    label = other ∧ k.cut (digest (Text.Utf8.encode (digestInput statement))) =
      k.cut (digest (Text.Utf8.encode (digestInput second))) :=
  eq_of_append_colon_eq (k.colon_notMem_cut (hdigest _).colon_notMem)
    (k.colon_notMem_cut (hdigest _).colon_notMem) h

theorem key_inj {k : KeyDigest} {label other : String} {statement second : Statement}
    (h : key k label statement = key k other second) :
    label = other ∧ digestPart k statement = digestPart k second :=
  keyWith_inj isDigest_hex h

end Cache

end DatasetSearch
