import DatasetSearch.Proofs.Json.Binds
import DatasetSearch.Proofs.Sql.Injection
import DatasetSearch.Proofs.Text.Words
import DatasetSearch.Service.Search

/-!
# The grammar of table names

A text denotes a table name exactly if it is spelled like one when the blanks around it are gone.
The table name has that spelling as its text, is read back from it, and holds nothing that could end
a name in a statement.
-/

namespace DatasetSearch

/-- Cutting at a separator is done as the library does it, which joining undoes. -/
theorem Text.splitChars_eq_splitOn (separator : Char) (s : List Char) :
    splitChars separator s = s.splitOn separator := by
  induction s with
  | nil => rfl
  | cons c s ih =>
    have hcons : (c :: s).splitOn separator =
        if c = separator then [] :: s.splitOn separator
        else (s.splitOn separator).modifyHead (List.cons c) := by
      simp [List.splitOn_eq_splitOnP, List.splitOnP_cons_eq_if_modifyHead]
    rw [splitChars, ih, hcons]
    obtain ⟨piece, pieces, hs⟩ := List.exists_cons_of_ne_nil (List.splitOn_ne_nil separator s)
    rw [hs]
    rfl

theorem Text.toList_join (separator : String) (pieces : List String) :
    (join separator pieces).toList = separator.toList.intercalate (pieces.map String.toList) := by
  induction pieces with
  | nil => rfl
  | cons piece pieces ih =>
    cases pieces with
    | nil => simp [join]
    | cons next pieces =>
      simp only [List.map_cons, List.intercalate_cons_cons] at ih ⊢
      simp [join, ih]

theorem Json.parse?_quote (s : String) : parse? (quote s) = some (.string s) := by
  obtain ⟨hquoted, hread⟩ := stringBody_quote s []
  rw [List.append_nil] at hquoted
  have hblank : ∀ rest, skipBlank ('"' :: rest) = '"' :: rest := fun rest => rfl
  simp [parse?, value, callBound, valueWithin, hquoted, hblank, hread]
  rfl

namespace TableName

open Text (isBlank trim IsTrimmed)

/-! ### Spellings -/

def IsLetter (c : Char) : Prop := 'A' ≤ c ∧ c ≤ 'Z' ∨ 'a' ≤ c ∧ c ≤ 'z'

/-- What may follow in a segment. -/
def Continues (c : Char) : Prop := IsLetter c ∨ '0' ≤ c ∧ c ≤ '9' ∨ c = '_' ∨ c = '$'

/-- A segment: a letter or an underscore, and what may follow. -/
inductive IsSegment : List Char → Prop
  | intro {first : Char} {rest : List Char} :
    IsLetter first ∨ first = '_' → (∀ c ∈ rest, Continues c) → IsSegment (first :: rest)

/-- One to three segments with single points between them. -/
structure IsSpelled (segments : List String) (text : String) : Prop where
  length : 1 ≤ segments.length ∧ segments.length ≤ 3
  segment : ∀ segment ∈ segments, IsSegment segment.toList
  text : text.toList = ['.'].intercalate (segments.map String.toList)

theorem isAlpha_iff {c : Char} : c.isAlpha = true ↔ IsLetter c := by
  have hupper : c.isUpper = true ↔ 'A' ≤ c ∧ c ≤ 'Z' := decide_eq_true_iff
  have hlower : c.isLower = true ↔ 'a' ≤ c ∧ c ≤ 'z' :=
    Bool.and_eq_true_iff.trans (and_congr decide_eq_true_iff decide_eq_true_iff)
  exact Bool.or_eq_true_iff.trans (or_congr hupper hlower)

theorem isStart_iff {c : Char} : isStart c = true ↔ IsLetter c ∨ c = '_' := by
  rw [isStart, Bool.or_eq_true, isAlpha_iff, beq_iff_eq]

theorem isRest_iff {c : Char} : isRest c = true ↔ Continues c := by
  have halphanum : c.isAlphanum = true ↔ IsLetter c ∨ '0' ≤ c ∧ c ≤ '9' :=
    Bool.or_eq_true_iff.trans (or_congr isAlpha_iff Text.isDigit_iff)
  simp only [isRest, Continues, Bool.or_eq_true, beq_iff_eq, halphanum, or_assoc]

theorem isSegment_iff {s : List Char} : isSegment s = true ↔ IsSegment s := by
  cases s with
  | nil =>
    constructor
    · intro h
      cases h
    · intro h
      cases h
  | cons first rest =>
    rw [isSegment, Bool.and_eq_true, isStart_iff, List.all_eq_true]
    constructor
    · rintro ⟨hfirst, hrest⟩
      exact .intro hfirst fun c hc => isRest_iff.mp (hrest c hc)
    · rintro ⟨hfirst, hrest⟩
      exact ⟨hfirst, fun c hc => isRest_iff.mpr (hrest c hc)⟩

theorem IsSegment.continues {s : List Char} (h : IsSegment s) : ∀ c ∈ s, Continues c := by
  rcases h with ⟨hfirst, hrest⟩
  intro c hc
  rcases List.mem_cons.mp hc with rfl | hc
  · rcases hfirst with hletter | hunderscore
    · exact .inl hletter
    · exact .inr (.inr (.inl hunderscore))
  · exact hrest c hc

/-- What a table name is spelled with. -/
def IsPlain (c : Char) : Prop := Continues c ∨ c = '.'

/-- Quotes, what ends a statement, and what comments are made of. -/
def special : List Char := ['"', '\'', '\x60', ';', '-', '/', '*', '#', '\\']

theorem IsPlain.toNat_cases {c : Char} (h : IsPlain c) :
    c.toNat = 36 ∨ c.toNat = 46 ∨ 48 ≤ c.toNat ∧ c.toNat ≤ 57 ∨ 65 ≤ c.toNat ∧ c.toNat ≤ 90 ∨
      c.toNat = 95 ∨ 97 ≤ c.toNat ∧ c.toNat ≤ 122 := by
  rcases h with ((⟨hlow, hhigh⟩ | ⟨hlow, hhigh⟩) | ⟨hlow, hhigh⟩ | rfl | rfl) | rfl
  · change 65 ≤ c.toNat at hlow
    change c.toNat ≤ 90 at hhigh
    omega
  · change 97 ≤ c.toNat at hlow
    change c.toNat ≤ 122 at hhigh
    omega
  · change 48 ≤ c.toNat at hlow
    change c.toNat ≤ 57 at hhigh
    omega
  · decide
  · decide
  · decide

theorem IsPlain.notMem_special {c : Char} (h : IsPlain c) : c ∉ special := by
  have hcode := h.toNat_cases
  intro hspecial
  have hcodes : c.toNat ∈ [34, 39, 96, 59, 45, 47, 42, 35, 92] :=
    List.mem_map_of_mem hspecial
  simp only [List.mem_cons, List.not_mem_nil, or_false] at hcodes
  omega

theorem IsPlain.isBlank_eq {c : Char} (h : IsPlain c) : isBlank c = false := by
  have hcode := h.toNat_cases
  simp [isBlank]
  omega

theorem IsSpelled.plain {segments : List String} {text : String} (h : IsSpelled segments text) :
    ∀ c ∈ text.toList, IsPlain c := by
  intro c hc
  rw [h.text] at hc
  rcases Sql.mem_intercalate hc with hpoint | ⟨piece, hpiece, hmem⟩
  · exact .inr (List.mem_singleton.mp hpoint)
  · obtain ⟨segment, hsegment, rfl⟩ := List.mem_map.mp hpiece
    exact .inl ((h.segment segment hsegment).continues c hmem)

/-- A spelling has no blanks, so trimming leaves it as it is. -/
theorem IsSpelled.trim_eq {segments : List String} {text : String} (h : IsSpelled segments text) :
    trim text = text := by
  rw [trim, Text.trimChars_eq_self, String.ofList_toList]
  · exact fun c hc => (h.plain c (List.mem_of_head? hc)).isBlank_eq
  · exact fun c hc => (h.plain c (List.mem_of_getLast? hc)).isBlank_eq

theorem IsSpelled.splitOn_eq {segments : List String} {text : String}
    (h : IsSpelled segments text) : text.toList.splitOn '.' = segments.map String.toList := by
  rw [h.text]
  apply List.splitOn_intercalate
  · intro piece hpiece hpoint
    obtain ⟨segment, hsegment, rfl⟩ := List.mem_map.mp hpiece
    have hcontinues : Continues '.' := (h.segment segment hsegment).continues '.' hpoint
    have hstops : ¬Continues '.' := by
      unfold Continues IsLetter
      decide
    exact hstops hcontinues
  · intro hnil
    have hlength := h.length.1
    rw [List.map_eq_nil_iff.mp hnil] at hlength
    cases hlength

/-! ### Reading -/

theorem parse?_eq_some_iff {raw : String} {segments : List String} :
    parse? raw = some ⟨segments⟩ ↔ IsSpelled segments (trim raw) := by
  have hpieces : Text.splitChars '.' (Text.trimChars raw.toList) =
      (trim raw).toList.splitOn '.' := by
    rw [trim, String.toList_ofList, Text.splitChars_eq_splitOn]
  unfold parse?
  dsimp only
  rw [hpieces]
  constructor
  · intro h
    split at h
    · next hvalid =>
      rw [Option.some.injEq, TableName.mk.injEq] at h
      subst h
      refine ⟨⟨?_, by simpa using hvalid.1⟩, ?_, ?_⟩
      · rw [List.length_map, Nat.one_le_iff_ne_zero, ne_eq, List.length_eq_zero_iff]
        exact List.splitOn_ne_nil _ _
      · intro segment hsegment
        obtain ⟨piece, hpiece, rfl⟩ := List.mem_map.mp hsegment
        rw [String.toList_ofList, ← isSegment_iff]
        exact List.all_eq_true.mp hvalid.2 piece hpiece
      · simp [List.map_map, Function.comp_def, List.intercalate_splitOn]
    · cases h
  · intro h
    rw [h.splitOn_eq, if_pos]
    · simp [Function.comp_def]
    · refine ⟨by simpa using h.length.2, List.all_eq_true.mpr ?_⟩
      intro piece hpiece
      obtain ⟨segment, hsegment, rfl⟩ := List.mem_map.mp hpiece
      exact isSegment_iff.mpr (h.segment segment hsegment)

theorem parse_eq_ok_iff {raw : String} {t : TableName} :
    parse raw = .ok t ↔ IsSpelled t.segments (trim raw) := by
  rw [← parse?_eq_some_iff, parse]
  cases parse? raw with
  | none => simp
  | some found => simp [Except.ok.injEq]

theorem text_of_isSpelled {t : TableName} {text : String} (h : IsSpelled t.segments text) :
    t.text = text := by
  apply String.toList_injective
  rw [TableName.text, Text.toList_join, h.text]
  rfl

theorem parse_eq_error_iff {raw : String} :
    parse raw = .error ⟨raw⟩ ↔ ∀ segments, ¬IsSpelled segments (trim raw) := by
  simp only [← parse?_eq_some_iff]
  rw [parse]
  cases parse? raw with
  | none => simp
  | some found =>
    simp only [reduceCtorEq, false_iff, not_forall, not_not]
    exact ⟨found.segments, rfl⟩

/-! ### Writing -/

/-- A table name that was read is written as the text that was left of it, and read back. -/
theorem parse_text {raw : String} {t : TableName} (h : parse raw = .ok t) :
    t.text = trim raw ∧ parse t.text = .ok t := by
  have hspelled := parse_eq_ok_iff.mp h
  have htext := text_of_isSpelled hspelled
  refine ⟨htext, ?_⟩
  rw [parse_eq_ok_iff, htext, hspelled.trim_eq]
  exact hspelled

theorem ofJson?_toJson {raw : String} {t : TableName} (h : parse raw = .ok t) :
    ofJson? t.toJson = some t := by
  have hback := (parse_text h).2
  rw [parse_eq_ok_iff] at hback
  exact parse?_eq_some_iff.mpr hback

/-- The last segment is the table, and the one before it is the schema if there is one. -/
theorem segments_eq {t : TableName} (h : t.segments ≠ []) :
    t.segments = [t.table] ∧ t.schema? = none ∨
      ∃ front schema, t.segments = front ++ [schema, t.table] ∧ t.schema? = some schema := by
  obtain ⟨segments⟩ := t
  rcases List.eq_nil_or_concat segments with rfl | ⟨front, last, rfl⟩
  · exact absurd rfl h
  · rcases List.eq_nil_or_concat front with rfl | ⟨front, schema, rfl⟩
    · exact .inl ⟨rfl, rfl⟩
    · right
      exact ⟨front, schema, by simp [table], by simp [schema?]⟩

/-- A text denotes a table name exactly if it is spelled like one when the blanks around it are
gone; otherwise the error holds the text as it was given.  A table name is written as that spelling.
Its table and its schema are the last two segments, it is read back from its text and from its JSON,
no other one is written alike, and its text holds no blank and nothing special. -/
theorem parse_iff_isSpelled (raw : String) :
    (∀ segments, parse raw = .ok ⟨segments⟩ ↔
        ∃ text, IsTrimmed raw text ∧ IsSpelled segments text) ∧
      (parse raw = .error ⟨raw⟩ ↔
        ∀ segments text, IsTrimmed raw text → ¬IsSpelled segments text) ∧
      ∀ t, parse raw = .ok t →
        IsTrimmed raw t.text ∧
        (t.segments = [t.table] ∧ t.schema? = none ∨
          ∃ front schema, t.segments = front ++ [schema, t.table] ∧ t.schema? = some schema) ∧
        parse t.text = .ok t ∧
        Json.parse? t.toJson.text = some t.toJson ∧ ofJson? t.toJson = some t ∧
        (∀ other u, parse other = .ok u → u.text = t.text → u = t) ∧
        ∀ c ∈ t.text.toList, isBlank c = false ∧ c ∉ special := by
  have htrimmed : ∀ segments, (∃ text, IsTrimmed raw text ∧ IsSpelled segments text) ↔
      IsSpelled segments (trim raw) := by
    intro segments
    simp only [Text.isTrimmed_iff, exists_eq_left']
  refine ⟨?_, ?_, ?_⟩
  · intro segments
    rw [htrimmed]
    exact parse_eq_ok_iff
  · rw [parse_eq_error_iff]
    apply forall_congr'
    intro segments
    rw [← htrimmed]
    simp
  · intro t ht
    have hspelled := parse_eq_ok_iff.mp ht
    obtain ⟨htext, hback⟩ := parse_text ht
    refine ⟨Text.isTrimmed_iff.mpr htext.symm, ?_, hback, Json.parse?_quote t.text,
      ofJson?_toJson ht, ?_, ?_⟩
    · apply segments_eq
      intro hnil
      have hlength := hspelled.length.1
      rw [hnil] at hlength
      cases hlength
    · intro other u hu hsame
      have hother := (parse_text hu).2
      rw [hsame, hback] at hother
      exact (Except.ok.inj hother).symm
    · intro c hc
      rw [htext] at hc
      have hplain := hspelled.plain c hc
      exact ⟨hplain.isBlank_eq, hplain.notMem_special⟩

/-- A qualified name between blanks, and three texts that a laxer reader might take. -/
theorem parse_iff_isSpelled_qualified :
    parse "\u2003db.SCHEMA.T$1\n" = .ok ⟨["db", "SCHEMA", "T$1"]⟩ ∧
      IsTrimmed "\u2003db.SCHEMA.T$1\n" "db.SCHEMA.T$1" ∧
      parse "db.SCHEMA.T$1" = .ok ⟨["db", "SCHEMA", "T$1"]⟩ ∧
      parse "db..t" = .error ⟨"db..t"⟩ ∧ parse "a.b\n.c" = .error ⟨"a.b\n.c"⟩ ∧
      ∀ segments text, IsTrimmed "t; DROP TABLE x" text → ¬IsSpelled segments text := by
  have hread : parse "\u2003db.SCHEMA.T$1\n" = .ok ⟨["db", "SCHEMA", "T$1"]⟩ := by decide
  obtain ⟨htrimmed, -, hback, -⟩ := (parse_iff_isSpelled "\u2003db.SCHEMA.T$1\n").2.2 _ hread
  refine ⟨hread, htrimmed, hback, by decide, by decide, ?_⟩
  exact (parse_iff_isSpelled "t; DROP TABLE x").2.1.mp (by decide)

end TableName

/-- A service reads the names of its tables so, and passes on the text that denotes none. -/
theorem Service.datasetOf_eq (name : String) (d : Config.Dataset) :
    datasetOf name d =
      match TableName.parse d.table with
      | .ok table => .ok ⟨name, table, d.presets, d.orderBy⟩
      | .error e => .error (.tableName e.raw) := by
  rw [datasetOf, TableName.parse]
  cases TableName.parse? d.table with
  | none => rfl
  | some table => rfl

end DatasetSearch
