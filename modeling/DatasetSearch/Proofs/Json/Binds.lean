import Mathlib.Tactic.IntervalCases
import DatasetSearch.Json.Reader
import DatasetSearch.Statement

/-!
# Lists of binds as text

The text of a list of binds is read in one way only, whatever quotation marks, brackets, braces and
backslashes its strings hold.  It also begins in one place only: the characters `[`, `{`, `"`, `t`
follow one another at its very start and nowhere else, because a quotation mark inside a string
literal has a backslash before it and one that ends a literal has a comma, a bracket or a brace
behind it.  So no proper suffix of the text of a list of binds is the text of a list of binds.
-/

namespace DatasetSearch

namespace Json

/-! ### Strings are read back -/

theorem hexValue?_hexDigit {n : Nat} (h : n < 16) : hexValue? (hexDigit n) = some n := by
  interval_cases n <;> rfl

/-- A character is written as a letter after a backslash, by its code, or as itself. -/
theorem escapeChar_cases (c : Char) :
    (∃ letter, escapeChar c = ['\\', letter] ∧ letter ≠ 'u' ∧ simpleEscape? letter = some c) ∨
      (c.toNat < 0x20 ∧ escapeChar c =
        ['\\', 'u', '0', '0', hexDigit (c.toNat / 16), hexDigit (c.toNat % 16)]) ∨
      (c ≠ '"' ∧ c ≠ '\\' ∧ 0x20 ≤ c.toNat ∧ escapeChar c = [c]) := by
  unfold escapeChar
  split_ifs with hquote hbackslash hb hf hn hr ht hcontrol
  · exact .inl ⟨'"', rfl, by decide, by rw [hquote]; rfl⟩
  · exact .inl ⟨'\\', rfl, by decide, by rw [hbackslash]; rfl⟩
  · exact .inl ⟨'b', rfl, by decide, by rw [hb]; rfl⟩
  · exact .inl ⟨'f', rfl, by decide, by rw [hf]; rfl⟩
  · exact .inl ⟨'n', rfl, by decide, by rw [hn]; rfl⟩
  · exact .inl ⟨'r', rfl, by decide, by rw [hr]; rfl⟩
  · exact .inl ⟨'t', rfl, by decide, by rw [ht]; rfl⟩
  · exact .inr (.inl ⟨hcontrol, rfl⟩)
  · exact .inr (.inr ⟨hquote, hbackslash, Nat.le_of_not_lt hcontrol, rfl⟩)

theorem unicodeEscape_of_lt {c : Char} (h : c.toNat < 0x20) (rest : List Char) :
    unicodeEscape ('0' :: '0' :: hexDigit (c.toNat / 16) :: hexDigit (c.toNat % 16) :: rest) =
      some (c, rest) := by
  have hzero : hexValue? '0' = some 0 := rfl
  have hhigh : hexValue? (hexDigit (c.toNat / 16)) = some (c.toNat / 16) :=
    hexValue?_hexDigit (by omega)
  have hlow : hexValue? (hexDigit (c.toNat % 16)) = some (c.toNat % 16) :=
    hexValue?_hexDigit (by omega)
  have hvalue : ((0 * 16 + 0) * 16 + c.toNat / 16) * 16 + c.toNat % 16 = c.toNat := by omega
  have hunit : c.toNat < 0xD800 ∨ 0xDFFF < c.toNat := .inl (by omega)
  simp only [unicodeEscape, hex4, hzero, hhigh, hlow, Option.bind_eq_bind, Option.bind_some, hvalue,
    if_pos hunit, Char.ofNat_toNat]

/-- The reader takes one character from what the writer puts for it. -/
theorem stringTail_escapeChar (fuel : Nat) (done : List Char) (c : Char) (rest : List Char) :
    stringTail (fuel + 1) done (escapeChar c ++ rest) = stringTail fuel (c :: done) rest := by
  rcases escapeChar_cases c with ⟨letter, hescape, hletter, hsimple⟩ | ⟨hcontrol, hescape⟩ |
    ⟨hquote, hbackslash, hcontrol, hescape⟩
  · rw [hescape]
    simp only [List.cons_append, List.nil_append, stringTail, hsimple]
  · rw [hescape]
    simp only [List.cons_append, List.nil_append, stringTail, unicodeEscape_of_lt hcontrol]
  · rw [hescape, List.singleton_append, stringTail.eq_def]
    simp only
    split
    · next h => cases h
    · next h => exact absurd (List.cons.inj h).1 hquote
    · next h => exact absurd (List.cons.inj h).1 hbackslash
    · next h => exact absurd (List.cons.inj h).1 hbackslash
    · next h =>
      obtain ⟨rfl, rfl⟩ := List.cons.inj h
      rw [if_neg (by simp [hbackslash]; omega)]

theorem stringTail_flatMap_escapeChar {fuel : Nat} (done cs rest : List Char)
    (h : cs.length < fuel) :
    stringTail fuel done (cs.flatMap escapeChar ++ '"' :: rest) =
      some (String.ofList (done.reverse ++ cs), rest) := by
  obtain ⟨fuel, rfl⟩ : ∃ less, fuel = less + 1 := ⟨fuel - 1, by omega⟩
  induction cs generalizing fuel done with
  | nil => simp [stringTail]
  | cons c cs ih =>
    obtain ⟨less, rfl⟩ : ∃ less, fuel = less + 1 := ⟨fuel - 1, by simp at h; omega⟩
    rw [List.flatMap_cons, List.append_assoc, stringTail_escapeChar, ih]
    · simp
    · simpa using h

theorem length_le_flatMap_escapeChar (cs : List Char) :
    cs.length ≤ (cs.flatMap escapeChar).length := by
  induction cs with
  | nil => exact Nat.le_refl 0
  | cons c cs ih =>
    have hone : 1 ≤ (escapeChar c).length := by
      rcases escapeChar_cases c with ⟨_, hescape, -⟩ | ⟨-, hescape⟩ | ⟨-, -, -, hescape⟩ <;>
        simp [hescape]
    rw [List.flatMap_cons, List.length_append, List.length_cons]
    omega

/-- A string that is written is read back, whatever stands behind it. -/
theorem stringBody_quote (s : String) (rest : List Char) :
    (quote s).toList ++ rest = '"' :: (s.toList.flatMap escapeChar ++ '"' :: rest) ∧
      stringBody (s.toList.flatMap escapeChar ++ '"' :: rest) = some (s, rest) := by
  constructor
  · simp [quote]
  · have hlength := length_le_flatMap_escapeChar s.toList
    have hfuel : s.toList.length <
        (s.toList.flatMap escapeChar ++ '"' :: rest).length + 1 := by
      rw [List.length_append]
      omega
    unfold stringBody
    rw [stringTail_flatMap_escapeChar [] s.toList rest hfuel]
    simp

end Json

/-! ### Texts that are read in one way -/

/-- What is written shows where it ends, and determines what was written. -/
def IsReadBack {α : Type} (write : α → List Char) : Prop :=
  ∀ ⦃a b : α⦄ ⦃u v : List Char⦄, write a ++ u = write b ++ v → a = b ∧ u = v

theorem isReadBack_quote : IsReadBack (fun s => (Json.quote s).toList) := by
  intro a b u v h
  obtain ⟨hwritten, hread⟩ := Json.stringBody_quote a u
  obtain ⟨hother, hsecond⟩ := Json.stringBody_quote b v
  rw [hwritten, hother] at h
  rw [(List.cons.inj h).2, hsecond] at hread
  cases hread
  exact ⟨rfl, rfl⟩

theorem Json.itemsText_cons (item : Json) (items : List Json) (u : List Char) :
    (itemsText (item :: items)).toList ++ u =
      item.text.toList ++ if items = [] then u else ',' :: ((itemsText items).toList ++ u) := by
  cases items with
  | nil => rfl
  | cons next rest => simp [itemsText]

/-- The items of an array up to its end, where no item begins like the end. -/
theorem isReadBack_items {α : Type} {toJson : α → Json}
    (hitem : IsReadBack (fun a => (toJson a).text.toList))
    (hstart : ∀ a, ∃ c rest, (toJson a).text.toList = c :: rest ∧ c ≠ ']') :
    IsReadBack (fun items : List α => (Json.itemsText (items.map toJson)).toList ++ [']']) := by
  have hend : ∀ (a : α) (u v : List Char), (toJson a).text.toList ++ u ≠ ']' :: v := by
    intro a u v h
    obtain ⟨c, rest, htext, hc⟩ := hstart a
    rw [htext] at h
    exact hc (List.cons.inj h).1
  intro items others u v h
  simp only [List.append_assoc, List.singleton_append] at h
  induction items generalizing others with
  | nil =>
    cases others with
    | nil => exact ⟨rfl, (List.cons.inj h).2⟩
    | cons b others =>
      rw [List.map_cons, Json.itemsText_cons] at h
      exact absurd h.symm (hend b _ u)
  | cons a items ih =>
    cases others with
    | nil =>
      rw [List.map_cons, Json.itemsText_cons] at h
      exact absurd h (hend a _ v)
    | cons b others =>
      rw [List.map_cons, Json.itemsText_cons, List.map_cons, Json.itemsText_cons] at h
      obtain ⟨rfl, hrest⟩ := hitem h
      cases items with
      | nil =>
        cases others with
        | nil => exact ⟨rfl, (List.cons.inj hrest).2⟩
        | cons c others => exact absurd (List.cons.inj hrest).1 (by decide)
      | cons c items =>
        cases others with
        | nil => exact absurd (List.cons.inj hrest).1 (by decide)
        | cons d others =>
          obtain ⟨hsame, hbehind⟩ := ih (List.cons.inj hrest).2
          exact ⟨by rw [hsame], hbehind⟩

/-! ### Binds are read back -/

/-- The name of the type of a bind. -/
def Bind.kind : Bind → String
  | .text _ => "text"
  | .textArray _ => "text_array"

def Bind.valueText : Bind → List Char
  | .text value => (Json.quote value).toList
  | .textArray values => '[' :: ((Json.itemsText (values.map Json.string)).toList ++ [']'])

theorem Bind.toList_text (bind : Bind) :
    bind.toJson.text.toList =
      '\x7b' :: ((Json.quote "type").toList ++ ':' :: ((Json.quote bind.kind).toList ++
        ',' :: ((Json.quote "value").toList ++ ':' :: (bind.valueText ++ ['\x7d'])))) := by
  cases bind with
  | text value => simp [toJson, kind, valueText, Json.text, Json.fieldsText]
  | textArray values => simp [toJson, kind, valueText, Json.text, Json.fieldsText]

theorem isReadBack_strings :
    IsReadBack (fun values : List String =>
      (Json.itemsText (values.map Json.string)).toList ++ [']']) := by
  apply isReadBack_items
  · intro a b u v h
    simp only [Json.text] at h
    exact isReadBack_quote h
  · intro value
    refine ⟨'"', value.toList.flatMap Json.escapeChar ++ ['"'], ?_, by decide⟩
    simp [Json.text, Json.quote]

theorem isReadBack_bind : IsReadBack (fun bind : Bind => bind.toJson.text.toList) := by
  intro a b u v h
  simp only [Bind.toList_text, List.cons_append, List.append_assoc] at h
  obtain ⟨-, htype⟩ := isReadBack_quote (List.cons.inj h).2
  obtain ⟨hkind, hvalue⟩ := isReadBack_quote (List.cons.inj htype).2
  obtain ⟨-, hrest⟩ := isReadBack_quote (List.cons.inj hvalue).2
  have hrest := (List.cons.inj hrest).2
  cases a with
  | text value =>
    cases b with
    | text other =>
      obtain ⟨hsame, hend⟩ := isReadBack_quote hrest
      exact ⟨by rw [hsame], (List.cons.inj hend).2⟩
    | textArray others => exact absurd hkind (show "text" ≠ "text_array" by decide)
  | textArray values =>
    cases b with
    | text other => exact absurd hkind (show "text_array" ≠ "text" by decide)
    | textArray others =>
      obtain ⟨hsame, hend⟩ := isReadBack_strings (List.cons.inj hrest).2
      exact ⟨by rw [hsame], (List.cons.inj hend).2⟩

/-- The text of a list of binds. -/
def bindsText (binds : List Bind) : String := (Json.array (binds.map Bind.toJson)).text

/-- The text of a list of binds after its opening bracket. -/
def bindsTail (binds : List Bind) : List Char :=
  (Json.itemsText (binds.map Bind.toJson)).toList ++ [']']

theorem toList_bindsText (binds : List Bind) :
    (bindsText binds).toList = '[' :: bindsTail binds := by
  simp [bindsText, bindsTail, Json.text]

theorem isReadBack_bindsTail : IsReadBack bindsTail := by
  apply isReadBack_items isReadBack_bind
  intro bind
  exact ⟨'\x7b', _, bind.toList_text, by decide⟩

theorem bindsText_injective : Function.Injective bindsText := by
  intro a b h
  have htail : bindsTail a ++ [] = bindsTail b ++ [] := by
    have hlist := congrArg String.toList h
    rw [toList_bindsText, toList_bindsText] at hlist
    rw [(List.cons.inj hlist).2]
  exact (isReadBack_bindsTail htail).1

/-! ### A list of binds begins in one place -/

/-- How many of the characters `[`, `{`, `"`, `t`, from the first on, a text ends with when one more
character is read; once all four were read they are kept in mind. -/
def beginning (count : Nat) (c : Char) : Nat :=
  if count = 4 then 4
  else if c = '[' then 1
  else if count = 1 ∧ c = '\x7b' then 2
  else if count = 2 ∧ c = '"' then 3
  else if count = 3 ∧ c = 't' then 4
  else 0

theorem foldl_beginning_four (text : List Char) : text.foldl beginning 4 = 4 := by
  induction text with
  | nil => rfl
  | cons c text ih => exact ih

/-- Whatever was read, the four characters one after the other are noticed. -/
theorem foldl_beginning_of_begins (count : Nat) (before after : List Char) :
    (before ++ '[' :: '\x7b' :: '"' :: 't' :: after).foldl beginning count = 4 := by
  rw [List.foldl_append]
  generalize before.foldl beginning count = reached
  by_cases hfour : reached = 4
  · rw [hfour]
    exact foldl_beginning_four _
  · have hone : beginning reached '[' = 1 := by simp [beginning, hfour]
    rw [List.foldl_cons, hone]
    exact foldl_beginning_four after

theorem beginning_le_succ (count : Nat) (c : Char) : beginning count c ≤ count + 1 := by
  unfold beginning
  split_ifs <;> omega

theorem beginning_le_two {count : Nat} {c : Char} (hcount : count ≤ 2) (hc : c ≠ '"') :
    beginning count c ≤ 2 := by
  unfold beginning
  split_ifs with h1 h2 h3 h4 h5
  · omega
  · omega
  · omega
  · exact absurd h4.2 hc
  · omega
  · omega

/-- A character that is none of the four. -/
def IsOther (c : Char) : Prop := c ≠ '[' ∧ c ≠ '\x7b' ∧ c ≠ '"' ∧ c ≠ 't'

instance (c : Char) : Decidable (IsOther c) := inferInstanceAs (Decidable (_ ∧ _))

theorem beginning_of_isOther {count : Nat} {c : Char} (hcount : count ≠ 4) (hc : IsOther c) :
    beginning count c = 0 := by
  obtain ⟨hbracket, hbrace, hquote, ht⟩ := hc
  simp [beginning, hcount, hbracket, hbrace, hquote, ht]

/-- Inside a string literal no quotation mark stands behind a brace. -/
theorem foldl_beginning_escapeChar {count : Nat} (hcount : count ≤ 2) (c : Char) :
    (Json.escapeChar c).foldl beginning count ≤ 2 := by
  have hbackslash : beginning count '\\' = 0 := beginning_of_isOther (by omega) (by decide)
  rcases Json.escapeChar_cases c with ⟨letter, hescape, -, -⟩ | ⟨-, hescape⟩ |
    ⟨hquote, -, -, hescape⟩
  · rw [hescape]
    simp only [List.foldl_cons, List.foldl_nil, hbackslash]
    exact Nat.le_succ_of_le (beginning_le_succ 0 letter)
  · have hcode : beginning (beginning (beginning 0 'u') '0') '0' = 0 := rfl
    rw [hescape]
    simp only [List.foldl_cons, List.foldl_nil, hbackslash, hcode]
    exact Nat.le_trans (beginning_le_succ _ _) (Nat.succ_le_succ (beginning_le_succ 0 _))
  · rw [hescape]
    exact beginning_le_two hcount hquote

theorem foldl_beginning_flatMap_escapeChar {count : Nat} (hcount : count ≤ 2) (cs : List Char) :
    (cs.flatMap Json.escapeChar).foldl beginning count ≤ 2 := by
  induction cs generalizing count with
  | nil => exact hcount
  | cons c cs ih =>
    rw [List.flatMap_cons, List.foldl_append]
    exact ih (foldl_beginning_escapeChar hcount c)

/-- After a string literal and one of the other characters nothing has begun. -/
theorem foldl_beginning_quote {count : Nat} (hcount : count ≤ 1) (s : String) {c : Char}
    (hc : IsOther c) (rest : List Char) :
    ((Json.quote s).toList ++ c :: rest).foldl beginning count = rest.foldl beginning 0 := by
  have hopen : beginning count '"' = 0 := by
    interval_cases count <;> rfl
  have hinside := foldl_beginning_flatMap_escapeChar (Nat.zero_le 2) s.toList
  generalize hreached : (s.toList.flatMap Json.escapeChar).foldl beginning 0 = reached at hinside
  have hclose : beginning reached '"' ≠ 4 := by
    have hsucc := beginning_le_succ reached '"'
    omega
  rw [(Json.stringBody_quote s (c :: rest)).1, List.foldl_cons, hopen, List.foldl_append, hreached,
    List.foldl_cons, List.foldl_cons, beginning_of_isOther hclose hc]

/-- The same of the items of an array, if it holds of each item from few enough characters on. -/
theorem foldl_beginning_items {α : Type} {toJson : α → Json} {bound : Nat} (hbound : bound ≤ 1)
    (hitem : ∀ (a : α) {count : Nat} {c : Char} (rest : List Char), count ≤ bound → IsOther c →
      ((toJson a).text.toList ++ c :: rest).foldl beginning count = rest.foldl beginning 0)
    (items : List α) {count : Nat} (hcount : count ≤ bound) (rest : List Char) :
    ((Json.itemsText (items.map toJson)).toList ++ ']' :: rest).foldl beginning count =
      rest.foldl beginning 0 := by
  induction items generalizing count with
  | nil =>
    have hend : beginning count ']' = 0 := beginning_of_isOther (by omega) (by decide)
    rw [List.map_nil, Json.itemsText, String.toList_empty, List.nil_append, List.foldl_cons, hend]
  | cons a items ih =>
    rw [List.map_cons, Json.itemsText_cons]
    cases items with
    | nil => exact hitem a rest hcount (by decide)
    | cons b items =>
      rw [if_neg (by simp), hitem a _ hcount (by decide)]
      exact ih (Nat.zero_le bound)

theorem foldl_beginning_valueText (bind : Bind) (rest : List Char) :
    (bind.valueText ++ '\x7d' :: rest).foldl beginning 0 = rest.foldl beginning 0 := by
  cases bind with
  | text value => exact foldl_beginning_quote (Nat.zero_le 1) value (by decide) rest
  | textArray values =>
    have hitem : ∀ (value : String) {count : Nat} {c : Char} (rest : List Char), count ≤ 1 →
        IsOther c → ((Json.string value).text.toList ++ c :: rest).foldl beginning count =
          rest.foldl beginning 0 := by
      intro value count c rest hcount hc
      rw [Json.text]
      exact foldl_beginning_quote hcount value hc rest
    have hbracket : beginning 0 '[' = 1 := rfl
    have hbrace : beginning 0 '\x7d' = 0 := rfl
    rw [Bind.valueText, List.cons_append, List.append_assoc, List.singleton_append, List.foldl_cons,
      hbracket, foldl_beginning_items (Nat.le_refl 1) hitem values (Nat.le_refl 1), List.foldl_cons,
      hbrace]

theorem foldl_beginning_bind (bind : Bind) {c : Char} (hc : IsOther c) (rest : List Char) :
    (bind.toJson.text.toList ++ c :: rest).foldl beginning 0 = rest.foldl beginning 0 := by
  have hbrace : beginning 0 '\x7b' = 0 := rfl
  have hend : beginning 0 c = 0 := beginning_of_isOther (by decide) hc
  rw [Bind.toList_text]
  simp only [List.cons_append, List.append_assoc, List.nil_append]
  rw [List.foldl_cons, hbrace, foldl_beginning_quote (Nat.zero_le 1) "type" (by decide),
    foldl_beginning_quote (Nat.zero_le 1) bind.kind (by decide),
    foldl_beginning_quote (Nat.zero_le 1) "value" (by decide), foldl_beginning_valueText,
    List.foldl_cons, hend]

/-- The four characters do not follow one another after the start. -/
theorem foldl_beginning_bindsTail (binds : List Bind) :
    (bindsTail binds).foldl beginning 0 = 0 := by
  have hitem : ∀ (bind : Bind) {count : Nat} {c : Char} (rest : List Char), count ≤ 0 →
      IsOther c → (bind.toJson.text.toList ++ c :: rest).foldl beginning count =
        rest.foldl beginning 0 := by
    intro bind count c rest hcount hc
    rw [Nat.le_zero.mp hcount]
    exact foldl_beginning_bind bind hc rest
  exact foldl_beginning_items (Nat.zero_le 1) hitem binds (Nat.le_refl 0) []

/-! ### Nothing before a list of binds -/

theorem bindsText_begins {binds : List Bind} (h : binds ≠ []) :
    ∃ rest, (bindsText binds).toList = '[' :: '\x7b' :: '"' :: 't' :: rest := by
  obtain ⟨bind, others, rfl⟩ := List.exists_cons_of_ne_nil h
  have htype : (Json.quote "type").toList = ['"', 't', 'y', 'p', 'e', '"'] := by decide
  rw [toList_bindsText, bindsTail, List.map_cons, Json.itemsText_cons, Bind.toList_text, htype]
  exact ⟨_, rfl⟩

theorem itemsText_ends {binds : List Bind} (h : binds ≠ []) :
    ∃ before, (Json.itemsText (binds.map Bind.toJson)).toList = before ++ ['\x7d'] := by
  induction binds with
  | nil => exact absurd rfl h
  | cons bind others ih =>
    have hitems := Json.itemsText_cons bind.toJson (others.map Bind.toJson) []
    rw [List.append_nil] at hitems
    rw [List.map_cons, hitems]
    by_cases hothers : others = []
    · subst hothers
      exact ⟨'\x7b' :: ((Json.quote "type").toList ++ ':' :: ((Json.quote bind.kind).toList ++
        ',' :: ((Json.quote "value").toList ++ ':' :: bind.valueText))),
        by simp [Bind.toList_text]⟩
    · obtain ⟨before, hbefore⟩ := ih hothers
      rw [if_neg (by simpa using hothers), List.append_nil, hbefore]
      exact ⟨_, by rw [← List.cons_append, ← List.append_assoc]⟩

/-- No proper suffix of the text of a list of binds is the text of a list of binds. -/
theorem eq_nil_of_append_bindsText {before : List Char} {binds others : List Bind}
    (h : (bindsText binds).toList = before ++ (bindsText others).toList) : before = [] := by
  cases before with
  | nil => rfl
  | cons c before =>
    rw [toList_bindsText, List.cons_append] at h
    obtain ⟨-, htail⟩ := List.cons.inj h
    by_cases hothers : others = []
    · -- Before the closing bracket stands nothing or a brace, but no opening bracket.
      have hempty : (bindsText []).toList = ['['] ++ [']'] := rfl
      rw [hothers, hempty, bindsTail, ← List.append_assoc] at htail
      have hitems := List.append_cancel_right htail
      by_cases hbinds : binds = []
      · simp [hbinds, Json.itemsText] at hitems
      · obtain ⟨start, hstart⟩ := itemsText_ends hbinds
        rw [hstart] at hitems
        exact absurd (List.append_inj' hitems rfl).2 (by decide)
    · -- The second list would begin inside the first.
      obtain ⟨rest, hbegins⟩ := bindsText_begins hothers
      have hnone := foldl_beginning_bindsTail binds
      rw [htail, hbegins, foldl_beginning_of_begins] at hnone
      cases hnone

/-- A statement is determined by its text followed at once by the text of its binds. -/
theorem append_bindsText_inj {sql other : String} {binds others : List Bind}
    (h : sql ++ bindsText binds = other ++ bindsText others) : sql = other ∧ binds = others := by
  have hlist := congrArg String.toList h
  rw [String.toList_append, String.toList_append] at hlist
  have hsql : sql.toList = other.toList := by
    rcases List.append_eq_append_iff.mp hlist with ⟨between, hother, hbinds⟩ |
      ⟨between, hother, hbinds⟩
    · rw [hother, eq_nil_of_append_bindsText hbinds, List.append_nil]
    · rw [hother, eq_nil_of_append_bindsText hbinds, List.append_nil]
  have hbinds := (List.append_inj hlist (by rw [hsql])).2
  exact ⟨String.toList_injective hsql, bindsText_injective (String.toList_injective hbinds)⟩

end DatasetSearch
