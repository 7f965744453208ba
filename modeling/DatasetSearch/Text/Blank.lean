/-!
# White space

The white space of the Unicode property `White_Space`: 25 code points, six of them ASCII.  Texts
are trimmed of these at both ends.
-/

namespace DatasetSearch.Text

/-- Whether a character has the Unicode property `White_Space`. -/
def isBlank (c : Char) : Bool :=
  let n := c.toNat
  (decide (0x09 ≤ n) && decide (n ≤ 0x0D)) || n == 0x20 || n == 0x85 || n == 0xA0 ||
    n == 0x1680 || (decide (0x2000 ≤ n) && decide (n ≤ 0x200A)) || n == 0x2028 || n == 0x2029 ||
    n == 0x202F || n == 0x205F || n == 0x3000

/-- Every character that core counts as white space is blank. -/
theorem isBlank_of_isWhitespace {c : Char} (h : c.isWhitespace = true) : isBlank c = true := by
  simp only [Char.isWhitespace, Bool.or_eq_true, decide_eq_true_eq] at h
  rcases h with ((rfl | rfl) | rfl) | rfl <;> rfl

def trimStart (s : List Char) : List Char := s.dropWhile isBlank

def trimEnd (s : List Char) : List Char := (s.reverse.dropWhile isBlank).reverse

/-- The characters without blanks at either end. -/
def trimChars (s : List Char) : List Char := trimEnd (trimStart s)

/-- Characters that neither begin nor end with a blank stay as they are. -/
theorem trimChars_eq_self {s : List Char} (hfirst : ∀ c ∈ s.head?, isBlank c = false)
    (hlast : ∀ c ∈ s.getLast?, isBlank c = false) : trimChars s = s := by
  have hdrop : ∀ s : List Char, (∀ c ∈ s.head?, isBlank c = false) → s.dropWhile isBlank = s := by
    intro s h
    cases s with
    | nil => rfl
    | cons c s => rw [List.dropWhile_cons_of_neg (by simp [h c rfl])]
  have hreverse : s.reverse.dropWhile isBlank = s.reverse := by
    apply hdrop
    rwa [List.head?_reverse]
  rw [trimChars, trimStart, hdrop s hfirst, trimEnd, hreverse, List.reverse_reverse]

theorem trimChars_append_left {blank : List Char} (h : ∀ c ∈ blank, isBlank c = true)
    (s : List Char) : trimChars (blank ++ s) = trimChars s := by
  rw [trimChars, trimStart, List.dropWhile_append_of_pos h]
  rfl

theorem trimEnd_append {blank : List Char} (h : ∀ c ∈ blank, isBlank c = true) (s : List Char) :
    trimEnd (s ++ blank) = trimEnd s := by
  have hreverse : ∀ c ∈ blank.reverse, isBlank c = true :=
    fun c hc => h c (List.mem_reverse.mp hc)
  rw [trimEnd, List.reverse_append, List.dropWhile_append_of_pos hreverse]
  rfl

theorem trimChars_append_right {blank : List Char} (h : ∀ c ∈ blank, isBlank c = true)
    (s : List Char) : trimChars (s ++ blank) = trimChars s := by
  have hblank : trimStart (blank ++ []) = [] := List.dropWhile_append_of_pos h
  rw [List.append_nil] at hblank
  rw [trimChars, trimChars, trimStart, List.dropWhile_append]
  split
  · next hnone =>
    have hs : trimStart s = [] := List.isEmpty_iff.mp hnone
    rw [hs]
    exact congrArg trimEnd hblank
  · exact trimEnd_append h _

/-- A text without blanks at either end. -/
def trim (s : String) : String := String.ofList (trimChars s.toList)

theorem trim_append_left {blank : String} (h : ∀ c ∈ blank.toList, isBlank c = true)
    (s : String) : trim (blank ++ s) = trim s := by
  rw [trim, String.toList_append, trimChars_append_left h, trim]

theorem trim_append_right {blank : String} (h : ∀ c ∈ blank.toList, isBlank c = true)
    (s : String) : trim (s ++ blank) = trim s := by
  rw [trim, String.toList_append, trimChars_append_right h, trim]

end DatasetSearch.Text
