import Mathlib.Data.List.Basic
import Mathlib.Tactic.IntervalCases
import DatasetSearch.Text.Utf8

/-!
# Reading the bytes of a text

The bytes of a text are read as its characters.  A character has one to four bytes: the first says
how many follow and which values the second may have, and each of the others adds six bits.
-/

namespace DatasetSearch.Text.Utf8

/-! ### Bytes -/

theorem toNat_ofNat {n : Nat} (h : n < 256) : (UInt8.ofNat n).toNat = n := by
  rw [UInt8.toNat_ofNat']
  exact Nat.mod_eq_of_lt h

/-- The byte that begins a sequence of two. -/
theorem start_two {k : Nat} (hlow : 2 ≤ k) (hhigh : k < 32) :
    start (.ofNat (k + 192)) = .longer ⟨1, 0x80, 0xBF, k⟩ := by
  interval_cases k <;> rfl

/-- The byte that begins a sequence of three.  No sequence is longer than it has to be, and none
stands for a surrogate. -/
theorem start_three {k : Nat} (h : k < 16) :
    start (.ofNat (k + 224)) =
      .longer ⟨2, if k = 0 then 0xA0 else 0x80, if k = 13 then 0x9F else 0xBF, k⟩ := by
  interval_cases k <;> rfl

/-- The byte that begins a sequence of four, up to the last code point. -/
theorem start_four {k : Nat} (h : k ≤ 4) :
    start (.ofNat (k + 240)) =
      .longer ⟨3, if k = 0 then 0x90 else 0x80, if k = 4 then 0x8F else 0xBF, k⟩ := by
  interval_cases k <;> rfl

theorem read_of_longer {byte : UInt8} {pending : Pending} (h : start byte = .longer pending)
    (rest : List UInt8) : read none (byte :: rest) = read (some pending) rest := by
  rw [read, h]

/-- A byte that continues a sequence without ending it. -/
theorem read_continued {missing low high value n : Nat} (hlow : low ≤ n % 64 + 128)
    (hhigh : n % 64 + 128 ≤ high) (rest : List UInt8) :
    read (some ⟨missing + 2, low, high, value⟩) (.ofNat (n % 64 + 128) :: rest) =
      read (some ⟨missing + 1, 0x80, 0xBF, value * 64 + n % 64⟩) rest := by
  have hbyte : (UInt8.ofNat (n % 64 + 128)).toNat = n % 64 + 128 := toNat_ofNat (by omega)
  rw [read]
  simp only [hbyte]
  rw [if_pos ⟨hlow, hhigh⟩, Nat.add_sub_cancel]

/-- The byte that ends a sequence. -/
theorem read_ended {low high value n : Nat} (hlow : low ≤ n % 64 + 128)
    (hhigh : n % 64 + 128 ≤ high) (rest : List UInt8) :
    read (some ⟨1, low, high, value⟩) (.ofNat (n % 64 + 128) :: rest) =
      some (Char.ofNat (value * 64 + n % 64)) :: read none rest := by
  have hbyte : (UInt8.ofNat (n % 64 + 128)).toNat = n % 64 + 128 := toNat_ofNat (by omega)
  rw [read]
  simp only [hbyte]
  rw [if_pos ⟨hlow, hhigh⟩, Nat.add_sub_cancel]

/-! ### Characters -/

theorem read_utf8EncodeChar_append (c : Char) (rest : List UInt8) :
    read none (String.utf8EncodeChar c ++ rest) = some c :: read none rest := by
  have hvalid : c.toNat < 0xD800 ∨ 0xDFFF < c.toNat ∧ c.toNat < 0x110000 := c.valid
  have hchar : ∀ {n}, n = c.toNat → Char.ofNat n = c := by
    rintro n rfl
    exact Char.ofNat_toNat c
  rw [String.utf8EncodeChar.eq_1, Char.toNat_val]
  generalize c.toNat = v at hvalid hchar
  split_ifs with hone htwo hthree
  · have hbyte : (UInt8.ofNat v).toNat = v := toNat_ofNat (by omega)
    have hstart : start (.ofNat v) = .whole c := by
      rw [start, hbyte, if_pos (by omega), hchar rfl]
    rw [List.singleton_append, read, hstart]
  · simp only [List.cons_append, List.nil_append]
    rw [read_of_longer (start_two (by omega) (by omega)), read_ended (by omega) (by omega),
      hchar (by omega)]
  · simp only [List.cons_append, List.nil_append]
    -- The bounds on the second byte hold as the character is neither shorter nor a surrogate.
    have hlow : (if v / 4096 % 16 = 0 then 0xA0 else 0x80) ≤ v / 64 % 64 + 128 := by
      split <;> omega
    have hhigh : v / 64 % 64 + 128 ≤ if v / 4096 % 16 = 13 then 0x9F else 0xBF := by
      split <;> omega
    rw [read_of_longer (start_three (by omega)), read_continued hlow hhigh,
      read_ended (by omega) (by omega), hchar (by omega)]
  · simp only [List.cons_append, List.nil_append]
    have hlow : (if v / 262144 % 8 = 0 then 0x90 else 0x80) ≤ v / 4096 % 64 + 128 := by
      split <;> omega
    have hhigh : v / 4096 % 64 + 128 ≤ if v / 262144 % 8 = 4 then 0x8F else 0xBF := by
      split <;> omega
    rw [read_of_longer (start_four (by omega)), read_continued hlow hhigh,
      read_continued (by omega) (by omega), read_ended (by omega) (by omega), hchar (by omega)]

/-! ### Texts -/

theorem toList_loop (bytes : ByteArray) (i : Nat) (done : List UInt8) :
    ByteArray.toList.loop bytes i done = done.reverse ++ bytes.data.toList.drop i := by
  fun_induction ByteArray.toList.loop bytes i done with
  | case1 i done h ih =>
    have hbyte : bytes.data.toList.drop i = bytes.get! i :: bytes.data.toList.drop (i + 1) := by
      rw [List.drop_eq_getElem_cons (by simpa using h)]
      simp [ByteArray.get!, h]
    rw [ih, hbyte, List.reverse_cons, List.append_assoc, List.singleton_append]
  | case2 i done h =>
    rw [List.drop_eq_nil_of_le (by simpa using h), List.append_nil]

theorem encode_eq_flatMap (s : String) : encode s = s.toList.flatMap String.utf8EncodeChar := by
  have hbytes : s.toUTF8 = (s.toList.flatMap String.utf8EncodeChar).toByteArray := by
    conv => lhs; rw [← String.ofList_toList (s := s)]
    rw [String.toUTF8_eq_toByteArray]
    rfl
  rw [encode, hbytes, ByteArray.toList, toList_loop, List.toList_data_toByteArray]
  rfl

theorem encode_append (s t : String) : encode (s ++ t) = encode s ++ encode t := by
  rw [encode_eq_flatMap, encode_eq_flatMap, encode_eq_flatMap, String.toList_append,
    List.flatMap_append]

/-- The characters of a text are read from its bytes. -/
theorem read_encode (s : String) : read none (encode s) = s.toList.map some := by
  rw [encode_eq_flatMap]
  generalize s.toList = chars
  induction chars with
  | nil => rfl
  | cons c chars ih => rw [List.flatMap_cons, read_utf8EncodeChar_append, ih, List.map_cons]

theorem encode_injective : Function.Injective encode := by
  intro s t h
  have hchars := congrArg (read none) h
  rw [read_encode, read_encode] at hchars
  exact String.toList_injective (List.map_injective_iff.mpr (Option.some_injective _) hchars)

end DatasetSearch.Text.Utf8
