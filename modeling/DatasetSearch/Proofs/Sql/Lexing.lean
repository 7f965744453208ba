import DatasetSearch.Proofs.Sql.Token

/-!
# Lexing pieces of a statement

A statement is glued together from pieces.  `Lexes follow piece tokens` says that a piece gives its
own tokens whatever stands after it, as long as that satisfies `follow`; two such pieces can be
glued when the second one may follow the first.  A quoted name or text may be followed by a blank, a
parenthesis or a comma; a blank or an opening parenthesis at the end of a piece, by anything.
-/

namespace DatasetSearch.Sql

/-! ### Where a token may end -/

/-- Whether a character ends every token that is not in quotes. -/
def isBreak (c : Char) : Bool := c == ' ' || c == '(' || c == ')' || c == ','

/-- Whether a text is empty or begins with a break. -/
def breaks : List Char → Bool
  | [] => true
  | c :: _ => isBreak c

def anything (_ : List Char) : Bool := true

theorem isBreak_cases {c : Char} (h : isBreak c = true) :
    c = ' ' ∨ c = '(' ∨ c = ')' ∨ c = ',' := by
  simpa [isBreak, or_assoc] using h

theorem scan_between_cons (c : Char) (rest : List Char) :
    scan .between (c :: rest) = scan (.begin c) rest := rfl

theorem scan_of_extend {mode longer : Mode} {c : Char} (h : mode.extend? c = some longer)
    (rest : List Char) : scan mode (c :: rest) = scan longer rest := by
  simp only [scan, h]

/-- A token that the next character does not lengthen is complete. -/
theorem scan_of_end {mode : Mode} {rest : List Char}
    (h : ∀ c ∈ rest.head?, mode.extend? c = none) :
    scan mode rest = mode.tokens ++ scan .between rest := by
  cases rest with
  | nil => simp [scan, Mode.tokens]
  | cons c rest =>
    rw [scan_between_cons]
    simp only [scan, h c rfl]

theorem NumberPart.next?_of_isBreak (part : NumberPart) {c : Char} (h : isBreak c = true) :
    part.next? c = none := by
  rcases isBreak_cases h with rfl | rfl | rfl | rfl <;> cases part <;> rfl

theorem Mode.extend?_of_isBreak {mode : Mode} {c : Char} (hc : isBreak c = true)
    (hmode : ∀ quote read, mode ≠ .quoted quote read)
    (hclosed : ∀ quote read, mode = .closed quote read → isBreak quote = false) :
    mode.extend? c = none := by
  cases mode with
  | quoted quote read => exact absurd rfl (hmode quote read)
  | closed quote read =>
    have hne : c ≠ quote := by
      intro heq
      have hquote := hclosed quote read rfl
      rw [← heq, hc] at hquote
      exact absurd hquote (by decide)
    simp [Mode.extend?, hne]
  | number part read => simp [Mode.extend?, NumberPart.next?_of_isBreak part hc]
  | between => rfl
  | lost _ => rfl
  | word read => rcases isBreak_cases hc with rfl | rfl | rfl | rfl <;> rfl
  | exclaimed => rcases isBreak_cases hc with rfl | rfl | rfl | rfl <;> rfl
  | symbol s =>
    rcases isBreak_cases hc with rfl | rfl | rfl | rfl <;>
      (cases s with
        | comparison op => cases op <;> rfl
        | _ => rfl)

theorem extend?_of_breaks {mode : Mode} (hmode : ∀ quote read, mode ≠ .quoted quote read)
    (hclosed : ∀ quote read, mode = .closed quote read → isBreak quote = false)
    (rest : List Char) (hrest : breaks rest = true) :
    ∀ c ∈ rest.head?, mode.extend? c = none := by
  intro c hc
  cases rest with
  | nil => cases hc
  | cons d rest =>
    cases hc
    exact Mode.extend?_of_isBreak hrest hmode hclosed

/-! ### Pieces -/

/-- A piece of text gives these tokens, whatever follows that satisfies `follow`. -/
def Lexes (follow : List Char → Bool) (piece : String) (tokens : List Token) : Prop :=
  ∀ rest, follow rest = true →
    scan .between (piece.toList ++ rest) = tokens ++ scan .between rest

namespace Lexes

variable {follow after : List Char → Bool} {a b : String} {s t : List Token}

theorem lex_eq (h : Lexes breaks a s) : lex a = s := by
  have hall := h [] rfl
  simpa [lex, scan, Mode.tokens] using hall

/-- Two pieces can be glued when the second may follow the first. -/
theorem append (ha : Lexes follow a s) (hb : Lexes after b t)
    (hglue : ∀ rest, after rest = true → follow (b.toList ++ rest) = true) :
    Lexes after (a ++ b) (s ++ t) := by
  intro rest hrest
  rw [String.toList_append, List.append_assoc, ha _ (hglue rest hrest), hb rest hrest,
    List.append_assoc]

theorem open_append (ha : Lexes anything a s) (hb : Lexes after b t) :
    Lexes after (a ++ b) (s ++ t) :=
  ha.append hb (fun _ _ => rfl)

theorem append_break (ha : Lexes breaks a s) (hb : Lexes after b t)
    (hbreak : ∀ rest, breaks (b.toList ++ rest) = true) : Lexes after (a ++ b) (s ++ t) :=
  ha.append hb (fun rest _ => hbreak rest)

/-- A piece that is cut into tokens and the beginning of one more. -/
theorem of_scan (s : List Token) (mode : Mode)
    (hscan : ∀ rest, scan .between (a.toList ++ rest) = s ++ scan mode rest)
    (hend : ∀ rest, after rest = true → ∀ c ∈ rest.head?, mode.extend? c = none) :
    Lexes after a (s ++ mode.tokens) := by
  intro rest hrest
  rw [hscan, scan_of_end (hend rest hrest), List.append_assoc]

theorem of_word (s : List Token) (read : List Char)
    (hscan : ∀ rest, scan .between (a.toList ++ rest) = s ++ scan (.word read) rest) :
    Lexes breaks a (s ++ (Mode.word read).tokens) :=
  of_scan s (.word read) hscan (extend?_of_breaks (by simp) (by simp))

theorem of_literal (s : List Token) (read : List Char)
    (hscan : ∀ rest, scan .between (a.toList ++ rest) = s ++ scan (.closed '\'' read) rest) :
    Lexes breaks a (s ++ (Mode.closed '\'' read).tokens) :=
  of_scan s (.closed '\'' read) hscan (extend?_of_breaks (by simp) (by simp [isBreak]))

theorem weaken (h : Lexes follow a s) (hweak : ∀ rest, after rest = true → follow rest = true) :
    Lexes after a s :=
  fun rest hrest => h rest (hweak rest hrest)

theorem of_anything (h : Lexes anything a s) : Lexes follow a s := h.weaken (fun _ _ => rfl)

theorem nil : Lexes follow "" [] := fun _ _ => rfl

end Lexes

/-! ### Symbols and words -/

theorem lexes_blank : Lexes anything " " [] := by
  intro rest _
  show scan .between rest = [] ++ scan .between rest
  rw [List.nil_append]

/-- A symbol that no character lengthens is one token, whatever follows. -/
theorem lexes_symbol {s : Symbol} {c : Char} {text : String} (htext : text.toList = [c])
    (hbegin : Mode.begin c = .symbol s) (hend : ∀ d, s.extend? d = none) :
    Lexes anything text [.symbol s] := by
  intro rest _
  have hmode : ∀ d ∈ rest.head?, (Mode.symbol s).extend? d = none := by
    intro d _
    simp [Mode.extend?, hend d]
  rw [htext, List.cons_append, List.nil_append, scan_between_cons, hbegin, scan_of_end hmode]
  rfl

theorem lexes_opening : Lexes anything "(" [.symbol .opening] :=
  lexes_symbol rfl rfl (fun _ => rfl)

theorem lexes_closing : Lexes anything ")" [.symbol .closing] :=
  lexes_symbol rfl rfl (fun _ => rfl)

theorem lexes_point : Lexes anything "." [.symbol .point] :=
  lexes_symbol rfl rfl (fun _ => rfl)

theorem lexes_comparison (op : Comparison) :
    Lexes breaks op.text [.symbol (.comparison op)] := by
  intro rest hrest
  have htext : scan .between (op.text.toList ++ rest) = scan (.symbol (.comparison op)) rest := by
    cases op <;> rfl
  have hend : ∀ c ∈ rest.head?, (Mode.symbol (.comparison op)).extend? c = none :=
    extend?_of_breaks (by simp) (by simp) rest hrest
  rw [htext, scan_of_end hend]
  rfl

/-- Whether a text is empty or begins with what does not lengthen a word. -/
def endsWord : List Char → Bool
  | [] => true
  | c :: _ => !isWordPart c

theorem endsWord_of_breaks (rest : List Char) (h : breaks rest = true) : endsWord rest = true := by
  cases rest with
  | nil => rfl
  | cons c rest => rcases isBreak_cases h with rfl | rfl | rfl | rfl <;> rfl

theorem begin_of_isWordStart {c : Char} (h : isWordStart c = true) : Mode.begin c = .word [c] := by
  have hblank : c.isWhitespace = false := by
    cases hc : c.isWhitespace with
    | false => rfl
    | true =>
      simp only [Char.isWhitespace, Bool.or_eq_true, decide_eq_true_eq] at hc
      rcases hc with ((rfl | rfl) | rfl) | rfl <;> exact absurd h (by decide)
  have hquote : ¬(c = '"' ∨ c = '\'') := by
    rintro (rfl | rfl) <;> exact absurd h (by decide)
  simp [Mode.begin, hblank, hquote, h]

theorem scan_word (word read rest : List Char) (h : ∀ c ∈ word, isWordPart c = true) :
    scan (.word read) (word ++ rest) = scan (.word (word.reverse ++ read)) rest := by
  induction word generalizing read with
  | nil => rfl
  | cons c word ih =>
    have hc : isWordPart c = true := h c (by simp)
    have hextend : (Mode.word read).extend? c = some (.word (c :: read)) := by
      simp [Mode.extend?, hc]
    rw [List.cons_append, scan_of_extend hextend, ih _ (fun d hd => h d (by simp [hd]))]
    simp

theorem lexes_word {first : Char} {more : List Char} (hfirst : isWordStart first = true)
    (hmore : ∀ c ∈ more, isWordPart c = true) :
    Lexes endsWord (String.ofList (first :: more)) [wordToken (String.ofList (first :: more))] := by
  intro rest hrest
  have hend : ∀ c ∈ rest.head?, (Mode.word (more.reverse ++ [first])).extend? c = none := by
    intro c hc
    cases rest with
    | nil => cases hc
    | cons d rest =>
      cases hc
      have hd : isWordPart c = false := by simpa [endsWord] using hrest
      simp [Mode.extend?, hd]
  rw [String.toList_ofList, List.cons_append, scan_between_cons, begin_of_isWordStart hfirst,
    scan_word more [first] rest hmore, scan_of_end hend]
  simp [Mode.tokens]

theorem lexes_keyword (k : Keyword) : Lexes breaks k.spelling [.keyword k] := by
  have hword : ∀ first more, k.spelling = String.ofList (first :: more) →
      isWordStart first = true → more.all isWordPart = true →
      wordToken k.spelling = .keyword k → Lexes breaks k.spelling [.keyword k] := by
    intro first more hspelling hfirst hmore htoken
    have h := lexes_word hfirst (List.all_eq_true.mp hmore)
    rw [← hspelling, htoken] at h
    exact h.weaken endsWord_of_breaks
  cases k <;> exact hword _ _ rfl (by decide) (by decide) (by decide)

/-! ### Quoted names and texts -/

/-- Whether a text is empty or begins with something other than a quote. -/
def noQuote (quote : Char) : List Char → Bool
  | [] => true
  | c :: _ => c != quote

theorem noQuote_of_breaks {quote : Char} (hquote : isBreak quote = false) (rest : List Char)
    (h : breaks rest = true) : noQuote quote rest = true := by
  cases rest with
  | nil => rfl
  | cons c rest =>
    have hne : c ≠ quote := by
      intro heq
      rw [breaks, heq, hquote] at h
      exact absurd h (by decide)
    simp [noQuote, hne]

theorem doubled_cons (quote c : Char) (s : List Char) :
    doubled quote (c :: s) = (if c = quote then [c, c] else [c]) ++ doubled quote s := rfl

/-- Inside quotes, a text whose quotes are doubled is read as it is. -/
theorem scan_doubled (quote : Char) (s read rest : List Char) :
    scan (.quoted quote read) (doubled quote s ++ quote :: rest) =
      scan (.closed quote (s.reverse ++ read)) rest := by
  induction s generalizing read with
  | nil => exact scan_of_extend (by simp [Mode.extend?]) rest
  | cons c s ih =>
    rw [doubled_cons]
    by_cases hc : c = quote
    · subst hc
      have hfirst : (Mode.quoted c read).extend? c = some (.closed c read) := by
        simp [Mode.extend?]
      have hsecond : (Mode.closed c read).extend? c = some (.quoted c (c :: read)) := by
        simp [Mode.extend?]
      simp only [if_pos, List.cons_append, List.nil_append]
      rw [scan_of_extend hfirst, scan_of_extend hsecond, ih]
      simp
    · have hstep : (Mode.quoted quote read).extend? c = some (.quoted quote (c :: read)) := by
        simp [Mode.extend?, hc]
      simp only [if_neg hc, List.cons_append, List.nil_append]
      rw [scan_of_extend hstep, ih]
      simp

/-- A text between quotes is one token if its quotes are doubled. -/
theorem lexes_quoted (quote : Char) (hbegin : Mode.begin quote = .quoted quote [])
    (s : List Char) :
    Lexes (noQuote quote) (String.ofList (quote :: doubled quote s ++ [quote]))
      (Mode.closed quote s.reverse).tokens := by
  intro rest hrest
  have hend : ∀ c ∈ rest.head?, (Mode.closed quote s.reverse).extend? c = none := by
    intro c hc
    cases rest with
    | nil => cases hc
    | cons d rest =>
      cases hc
      have hd : c ≠ quote := by simpa [noQuote] using hrest
      simp [Mode.extend?, hd]
  rw [String.toList_ofList, List.append_assoc, List.cons_append, scan_between_cons, hbegin,
    List.cons_append, List.nil_append, scan_doubled, List.append_nil, scan_of_end hend]

theorem lexes_quoteIdentifier {name : String} (h : isDelimited name.toList = false) :
    Lexes (noQuote '"') (quoteIdentifier name) [.identifier name] := by
  have hquoted := lexes_quoted '"' rfl name.toList
  simpa [quoteIdentifier, h, Mode.tokens] using hquoted

theorem lexes_quoteLiteral (text : String) :
    Lexes (noQuote '\'') (quoteLiteral text) [.literal text] := by
  have hquoted := lexes_quoted '\'' rfl text.toList
  have htext : quoteLiteral text =
      String.ofList ('\'' :: doubled '\'' text.toList ++ ['\'']) := by
    apply String.toList_injective
    simp [quoteLiteral, escapeLiteral]
  rw [htext]
  simpa [Mode.tokens] using hquoted

theorem lexes_identifier {name : String} (h : isDelimited name.toList = false) :
    Lexes breaks (quoteIdentifier name) [.identifier name] :=
  (lexes_quoteIdentifier h).weaken (noQuote_of_breaks rfl)

theorem lexes_literal (text : String) : Lexes breaks (quoteLiteral text) [.literal text] :=
  (lexes_quoteLiteral text).weaken (noQuote_of_breaks rfl)

/-- The text of a pattern: an open side is a percent sign. -/
def Pattern.text (p : Pattern) : String :=
  (if p.openStart then "%" else "") ++ p.value ++ (if p.openEnd then "%" else "")

/-- The literal of a pattern is the literal of its text. -/
theorem Pattern.literal_eq (p : Pattern) : p.literal = quoteLiteral p.text := by
  obtain ⟨value, openStart, openEnd⟩ := p
  apply String.toList_injective
  cases openStart <;> cases openEnd <;>
    simp [Pattern.literal, Pattern.text, quoteLiteral, escapeLiteral, doubled]

end DatasetSearch.Sql
