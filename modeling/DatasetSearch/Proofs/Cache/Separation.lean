import DatasetSearch.Proofs.Cache.Key
import DatasetSearch.Proofs.Json.Binds
import DatasetSearch.Proofs.Text.Utf8

/-!
# Keys keep statements apart

The bytes that are hashed are those of a statement's text, followed at once by those of its binds,
with nothing between.  They determine both all the same, as no proper suffix of the text of a list
of binds is such a text.  So two keys are equal just where the labels are and the digests of the
statements agree as far as the settings say.
-/

namespace DatasetSearch

namespace Cache

open Text.Sha256

/-- The bytes of a statement's text, followed at once by those of its binds. -/
def hashedBytes (statement : Statement) : List UInt8 :=
  Text.Utf8.encode statement.sql ++ Text.Utf8.encode (bindsText statement.binds)

theorem encode_digestInput (statement : Statement) :
    Text.Utf8.encode (digestInput statement) = hashedBytes statement :=
  Text.Utf8.encode_append _ _

theorem hashedBytes_injective : Function.Injective hashedBytes := by
  intro statement other h
  rw [← encode_digestInput, ← encode_digestInput] at h
  obtain ⟨hsql, hbinds⟩ := append_bindsText_inj (Text.Utf8.encode_injective h)
  cases statement
  cases other
  simp only at hsql hbinds
  rw [hsql, hbinds]

/-- How many characters of a digest go into a key. -/
def KeyDigest.length : KeyDigest → Nat
  | .full => 64
  | .truncated count => min (max count 1) 64

theorem KeyDigest.toList_cut {digest : String} (h : IsDigest digest) (k : KeyDigest) :
    (k.cut digest).toList = digest.toList.take k.length := by
  cases k with
  | full => exact (List.take_of_length_le (Nat.le_of_eq h.1)).symm
  | truncated count =>
    unfold cut length
    rw [String.toList_ofList, ← h.1, ← List.take_take, List.take_length]

/-- The hashed bytes determine the text and the binds of a statement; and two keys are equal just
where the labels are and the digests agree on as many characters as go into a key. -/
theorem keyWith_eq_iff (digest : List UInt8 → String)
    (hdigest : ∀ message, IsDigest (digest message)) :
    (∀ statement other : Statement, hashedBytes statement = hashedBytes other →
      statement.sql = other.sql ∧ statement.binds = other.binds) ∧
    ∀ (k : KeyDigest) (label second : String) (statement other : Statement),
      keyWith digest k label statement = keyWith digest k second other ↔
        label = second ∧ (digest (hashedBytes statement)).toList.take k.length =
          (digest (hashedBytes other)).toList.take k.length := by
  constructor
  · intro statement other h
    have hsame := hashedBytes_injective h
    exact ⟨congrArg Statement.sql hsame, congrArg Statement.binds hsame⟩
  · intro k label second statement other
    have hcut : k.cut (digest (hashedBytes statement)) = k.cut (digest (hashedBytes other)) ↔
        (digest (hashedBytes statement)).toList.take k.length =
          (digest (hashedBytes other)).toList.take k.length := by
      rw [← KeyDigest.toList_cut (hdigest _), ← KeyDigest.toList_cut (hdigest _),
        String.toList_inj]
    rw [← hcut, ← encode_digestInput, ← encode_digestInput]
    constructor
    · exact keyWith_inj hdigest
    · rintro ⟨rfl, hsame⟩
      unfold keyWith
      rw [hsame]

/-- A text that ends like a list of binds and a list of binds of the same look: their digests begin
with the same character, and with no more. -/
theorem keyWith_eq_iff_brackets :
    let statement : Statement := ⟨"SELECT 1", [.text "a"]⟩
    let other : Statement := ⟨"SELECT 1[\x7b\"type\":\"text\",\"value\":\"a\"\x7d]", []⟩
    hashedBytes statement ≠ hashedBytes other ∧
      keyWith hex (.truncated 0) "a:b" statement = keyWith hex (.truncated 0) "a:b" other ∧
      keyWith hex (.truncated 2) "a:b" statement ≠ keyWith hex (.truncated 2) "a:b" other ∧
      keyWith hex .full "a:b" statement ≠ keyWith hex .full "a" statement := by
  intro statement other
  obtain ⟨hbytes, hkeys⟩ := keyWith_eq_iff hex isDigest_hex
  refine ⟨?_, ?_, ?_, ?_⟩
  · intro h
    exact absurd (hbytes statement other h).1 (by decide)
  · exact (hkeys (.truncated 0) "a:b" "a:b" statement other).mpr ⟨rfl, by decide +kernel⟩
  · intro h
    have hdigits := ((hkeys (.truncated 2) "a:b" "a:b" statement other).mp h).2
    exact absurd hdigits (by decide +kernel)
  · intro h
    exact absurd ((hkeys .full "a:b" "a" statement statement).mp h).1 (by decide)

end Cache

end DatasetSearch
