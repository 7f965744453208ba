import DatasetSearch.Proofs.Search.Meaning

/-!
# Keywords one after the other

Keywords that are joined by a comma ask for what the first ask for and then for what the second ask
for.  So the clause of both is that of the first and that of the second with the joiner between
them, and no joiner stands beside a clause that is empty.  What the terms are is seen piece by
piece, after trimming: blanks around a comma, blank pieces and minus signs alone change nothing.
-/

namespace DatasetSearch

/-! ### Pieces between commas -/

namespace Text

theorem comma_notMem_of_blank {blank : List Char} (h : ∀ c ∈ blank, isBlank c = true) :
    ',' ∉ blank :=
  fun hcomma => absurd (h ',' hcomma) (by decide)

theorem split_append_comma (first second : String) :
    split ',' (first ++ "," ++ second) = split ',' first ++ split ',' second := by
  have hchars : (first ++ "," ++ second).toList = first.toList ++ ',' :: second.toList := by simp
  rw [split, hchars, splitChars_append_separator, List.map_append]
  rfl

/-- Blanks in front and at the end are part of a piece, and are trimmed. -/
theorem map_trim_split_append_right {blank : String} (h : ∀ c ∈ blank.toList, isBlank c = true)
    (keywords : String) :
    (split ',' (keywords ++ blank)).map trim = (split ',' keywords).map trim := by
  obtain ⟨pieces, last, hplain, hlonger⟩ :=
    splitChars_append_right (comma_notMem_of_blank h) keywords.toList
  rw [split, split, String.toList_append, hplain, hlonger]
  simp [trim_append_right h]

theorem map_trim_split_append_left {blank : String} (h : ∀ c ∈ blank.toList, isBlank c = true)
    (keywords : String) :
    (split ',' (blank ++ keywords)).map trim = (split ',' keywords).map trim := by
  obtain ⟨first, rest, hplain, hlonger⟩ :=
    splitChars_append_left (comma_notMem_of_blank h) keywords.toList
  rw [split, split, String.toList_append, hplain, hlonger]
  simp [trim_append_left h]

end Text

/-! ### Texts of conditions -/

namespace Sql

theorem Atom.text_ne_empty (a : Atom) : a.text ≠ "" := by
  have hleft {s t : String} (hs : s ≠ "") : s ++ t ≠ "" :=
    fun h => hs (String.append_eq_empty_iff.mp h).1
  have hright {s t : String} (ht : t ≠ "") : s ++ t ≠ "" :=
    fun h => ht (String.append_eq_empty_iff.mp h).2
  cases a with
  | compare column op operand => exact hleft (hright (by decide))
  | like column pattern => exact hleft (hright (by decide))
  | notLike column pattern => exact hleft (hright (by decide))
  | _ => exact hright (by decide)

/-- A condition that can be read has a text. -/
theorem Condition.Fits.text_ne_empty {within : Connective} {c : Condition} (h : c.Fits within) :
    c.text ≠ "" := by
  have hchain {connective : Connective} {parts : List Condition} (hne : parts ≠ [])
      (hparts : ∀ part ∈ parts, part.text ≠ "") :
      (Condition.chain connective parts).text ≠ "" := by
    rw [Condition.text, Condition.texts_eq_map, ne_eq, Text.join_eq_empty_iff]
    · exact fun hnil => hne (List.map_eq_nil_iff.mp hnil)
    · exact List.forall_mem_map.mpr hparts
  induction h with
  | atom _ a => exact a.text_ne_empty
  | group _ _ _ => simp [Condition.text]
  | conjunction _ hne _ ih => exact hchain hne ih
  | disjunction hne _ ih => exact hchain hne ih

namespace Clause

/-- Two clauses with one connective, one after the other. -/
theorem text_append {connective : Connective} {first second : List Condition}
    (hfirst : first ≠ []) (hsecond : second ≠ []) :
    text ⟨connective, first ++ second⟩ =
      text ⟨connective, first⟩ ++ connective.joiner ++ text ⟨connective, second⟩ := by
  simp only [text, Condition.texts_eq_map, List.map_append]
  refine Text.join_append ?_ ?_
  · exact fun hnil => hfirst (List.map_eq_nil_iff.mp hnil)
  · exact fun hnil => hsecond (List.map_eq_nil_iff.mp hnil)

theorem text_eq_empty_iff_of_fits {clause : Clause} (h : ∀ c ∈ clause.conditions, c.Fits .and) :
    clause.text = "" ↔ clause.conditions = [] := by
  rw [text, Condition.texts_eq_map, Text.join_eq_empty_iff, List.map_eq_nil_iff]
  exact List.forall_mem_map.mpr fun c hc => (h c hc).text_ne_empty

end Clause

end Sql

namespace Search

open Sql

/-! ### What the terms decide -/

/-- Keywords that ask for nothing: every piece is blank or a minus sign alone. -/
def IsIdle (keywords : String) : Prop :=
  ∀ piece ∈ Text.split ',' keywords, Text.trim piece = "" ∨ Text.trim piece = "-"

instance (keywords : String) : Decidable (IsIdle keywords) :=
  inferInstanceAs (Decidable (∀ piece ∈ Text.split ',' keywords,
    Text.trim piece = "" ∨ Text.trim piece = "-"))

theorem askedTerms_eq_nil_iff {keywords : String} :
    askedTerms keywords = [] ↔ IsIdle keywords := by
  simp only [askedTerms, IsIdle, List.filter_eq_nil_iff, List.forall_mem_map]
  refine forall₂_congr fun piece _ => ?_
  simp only [decide_eq_true_eq, Decidable.not_and_iff_or_not, Decidable.not_not]

/-- The conditions of some terms. -/
def conditionsOf (asked : List String) (allowlist : Option Allowlist) : List Condition :=
  match allowlist with
  | none => (asked.filterMap Term.ofText?).map rowCondition
  | some allowlist =>
    if searchable allowlist = [] then []
    else (asked.filterMap Term.ofText?).map (columnCondition (searchable allowlist))

/-- A minus sign alone is no term. -/
theorem filterMap_ofText?_askedTerms (keywords : String) :
    (terms keywords).filterMap Term.ofText? = (askedTerms keywords).filterMap Term.ofText? := by
  have hbare : Term.ofText? "-" = none := rfl
  rw [askedTerms_eq]
  induction terms keywords with
  | nil => rfl
  | cons term rest ih =>
    by_cases hterm : term = "-"
    · rw [hterm, List.filterMap_cons_none hbare, ih, List.filter_cons_of_neg (by simp)]
    · rw [List.filter_cons_of_pos (by simpa using hterm), List.filterMap_cons, List.filterMap_cons,
        ih]

theorem conditions_eq (keywords : String) (allowlist : Option Allowlist) :
    conditions keywords allowlist = conditionsOf (askedTerms keywords) allowlist := by
  unfold conditions conditionsOf
  rw [filterMap_ofText?_askedTerms]
  cases allowlist with
  | none => rfl
  | some allowlist =>
    simp only
    split
    · next hnone => rw [if_pos hnone]
    · next columns hsome => rw [if_neg hsome]

/-- Keywords that ask for the same terms have the same clause. -/
theorem compile_congr {first second : String} (h : askedTerms first = askedTerms second)
    (allowlist : Option Allowlist) (termJoin : TermJoin) :
    compile first allowlist termJoin = compile second allowlist termJoin := by
  rw [compile, compile, conditions_eq, conditions_eq, h]

theorem conditionsOf_append (first second : List String) (allowlist : Option Allowlist) :
    conditionsOf (first ++ second) allowlist =
      conditionsOf first allowlist ++ conditionsOf second allowlist := by
  unfold conditionsOf
  rw [List.filterMap_append]
  cases allowlist with
  | none => exact List.map_append
  | some allowlist =>
    simp only
    split
    · rfl
    · exact List.map_append

/-! ### Which terms keywords have -/

theorem askedTerms_append_comma (first second : String) :
    askedTerms (first ++ "," ++ second) = askedTerms first ++ askedTerms second := by
  rw [askedTerms, Text.split_append_comma, List.map_append, List.filter_append]
  rfl

theorem askedTerms_append_right {blank : String}
    (h : ∀ c ∈ blank.toList, Text.isBlank c = true) (keywords : String) :
    askedTerms (keywords ++ blank) = askedTerms keywords := by
  rw [askedTerms, Text.map_trim_split_append_right h, askedTerms]

theorem askedTerms_append_left {blank : String}
    (h : ∀ c ∈ blank.toList, Text.isBlank c = true) (keywords : String) :
    askedTerms (blank ++ keywords) = askedTerms keywords := by
  rw [askedTerms, Text.map_trim_split_append_left h, askedTerms]

/-! ### The clause of keywords -/

variable {allowlist : Option Allowlist}

theorem fits_of_mem_conditionsOf {asked : List String} {c : Condition}
    (h : c ∈ conditionsOf asked allowlist) : c.Fits .and := by
  unfold conditionsOf at h
  split at h
  · obtain ⟨term, -, rfl⟩ := List.mem_map.mp h
    cases term <;> exact .atom .and _
  · split at h
    · cases h
    · next hsome =>
      obtain ⟨term, -, rfl⟩ := List.mem_map.mp h
      exact fits_columnCondition hsome term

theorem ofText?_eq_none_iff {raw : String} : Term.ofText? raw = none ↔ raw = "-" := by
  unfold Term.ofText?
  split
  · next hbare => exact iff_of_true rfl (String.toList_injective hbare)
  · next rest hnotBare hminus =>
    refine iff_of_false nofun ?_
    rintro rfl
    exact hnotBare (List.cons.inj hminus).2.symm
  · next hnotBare _ =>
    refine iff_of_false nofun ?_
    rintro rfl
    exact hnotBare rfl

theorem conditionsOf_askedTerms_eq_nil_iff {keywords : String} :
    conditionsOf (askedTerms keywords) allowlist = [] ↔
      IsIdle keywords ∨ ∃ given, allowlist = some given ∧ searchable given = [] := by
  have hterms : (askedTerms keywords).filterMap Term.ofText? = [] ↔ IsIdle keywords := by
    rw [← askedTerms_eq_nil_iff, List.filterMap_eq_nil_iff]
    constructor
    · intro hnone
      refine List.eq_nil_iff_forall_not_mem.mpr fun term hterm => ?_
      rw [askedTerms_eq] at hterm
      have hbare : term ≠ "-" := by simpa using (List.mem_filter.mp hterm).2
      exact hbare (ofText?_eq_none_iff.mp (hnone term (by rwa [askedTerms_eq])))
    · intro hnil
      simp [hnil]
  unfold conditionsOf
  cases allowlist with
  | none => simp [hterms]
  | some given =>
    simp only
    split
    · next hnone => simp [hnone]
    · next hsome => simp [hterms, hsome]

theorem text_compile_eq_empty_iff (keywords : String) (allowlist : Option Allowlist)
    (termJoin : TermJoin) :
    (compile keywords allowlist termJoin).text = "" ↔
      IsIdle keywords ∨ ∃ given, allowlist = some given ∧ searchable given = [] := by
  rw [Clause.text_eq_empty_iff_of_fits, compile, conditions_eq, conditionsOf_askedTerms_eq_nil_iff]
  intro c hc
  rw [compile, conditions_eq] at hc
  exact fits_of_mem_conditionsOf hc

/-- The text between two terms. -/
def joiner : TermJoin → String
  | .any => " OR "
  | .all => " AND "

theorem text_compile_append_comma (first second : String) (allowlist : Option Allowlist)
    (termJoin : TermJoin) :
    (compile (first ++ "," ++ second) allowlist termJoin).text =
      if (compile first allowlist termJoin).text = "" then
        (compile second allowlist termJoin).text
      else if (compile second allowlist termJoin).text = "" then
        (compile first allowlist termJoin).text
      else
        (compile first allowlist termJoin).text ++ joiner termJoin ++
          (compile second allowlist termJoin).text := by
  have hjoiner : joiner termJoin = termJoin.connective.joiner := by cases termJoin <;> rfl
  simp only [text_compile_eq_empty_iff, ← conditionsOf_askedTerms_eq_nil_iff]
  simp only [compile, conditions_eq, askedTerms_append_comma, conditionsOf_append]
  split
  · next hfirst => rw [hfirst, List.nil_append]
  · next hfirst =>
    split
    · next hsecond => rw [hsecond, List.append_nil]
    · next hsecond => rw [Clause.text_append hfirst hsecond, hjoiner]

/-! ### The law -/

/-- The clause of keywords on both sides of a comma is that of the first, the joiner and that of the
second, or the one of them that is not empty.  Pieces that ask for nothing and blanks around a comma
change nothing, wherever they stand.  The clause is empty exactly if the keywords ask for nothing or
an allowlist has no searchable column. -/
theorem compile_append_comma (allowlist : Option Allowlist) (termJoin : TermJoin)
    (first second : String) :
    let text := fun keywords => (compile keywords allowlist termJoin).text
    (text (first ++ "," ++ second) =
        if text first = "" then text second
        else if text second = "" then text first
        else text first ++ joiner termJoin ++ text second) ∧
      (∀ idle : String, IsIdle idle →
        text (first ++ "," ++ idle ++ "," ++ second) = text (first ++ "," ++ second) ∧
          text (idle ++ "," ++ first) = text first ∧ text (first ++ "," ++ idle) = text first) ∧
      (∀ before after : String, (∀ c ∈ before.toList, Text.isBlank c = true) →
        (∀ c ∈ after.toList, Text.isBlank c = true) →
        text (first ++ before ++ "," ++ after ++ second) = text (first ++ "," ++ second)) ∧
      (text first = "" ↔ IsIdle first ∨
        ∃ given, allowlist = some given ∧
          ∀ column ∈ given.columns, isSearchable column = false) := by
  intro text
  have hcongr {left right : String} (h : askedTerms left = askedTerms right) :
      text left = text right :=
    congrArg Clause.text (compile_congr h allowlist termJoin)
  refine ⟨text_compile_append_comma first second allowlist termJoin, ?_, ?_, ?_⟩
  · intro idle hidle
    have hnone : askedTerms idle = [] := askedTerms_eq_nil_iff.mpr hidle
    refine ⟨hcongr ?_, hcongr ?_, hcongr ?_⟩
    · simp only [askedTerms_append_comma, hnone, List.append_nil]
    · simp only [askedTerms_append_comma, hnone, List.nil_append]
    · simp only [askedTerms_append_comma, hnone, List.append_nil]
  · intro before after hbefore hafter
    have hsides : first ++ before ++ "," ++ after ++ second =
        (first ++ before) ++ "," ++ (after ++ second) := by simp only [String.append_assoc]
    apply hcongr
    rw [hsides, askedTerms_append_comma, askedTerms_append_right hbefore,
      askedTerms_append_left hafter, askedTerms_append_comma]
  · rw [text_compile_eq_empty_iff]
    simp only [searchable, List.filter_eq_nil_iff, Bool.not_eq_true]

/-- A minus sign alone and blanks beside the comma, where a term is wanted and one is excluded. -/
theorem compile_append_comma_idle :
    let text := fun keywords => (compile keywords (some ⟨["TITLE", "AWARD_ID"]⟩) .any).text
    IsIdle " ,\u2003-, " ∧
      text ("it's" ++ "," ++ " ,\u2003-, " ++ "," ++ "-beta") = text ("it's" ++ "," ++ "-beta") ∧
      (∀ c ∈ "\u2003".toList, Text.isBlank c = true) ∧
      (∀ c ∈ " \t".toList, Text.isBlank c = true) ∧
      text ("it's" ++ "\u2003" ++ "," ++ " \t" ++ "-beta") = text ("it's" ++ "," ++ "-beta") ∧
      text ("it's" ++ "," ++ "-beta") = text "it's" ++ " OR " ++ text "-beta" := by
  intro text
  have hidle : IsIdle " ,\u2003-, " := by decide
  have hbefore : ∀ c ∈ "\u2003".toList, Text.isBlank c = true := List.all_eq_true.mp rfl
  have hafter : ∀ c ∈ " \t".toList, Text.isBlank c = true := List.all_eq_true.mp rfl
  obtain ⟨htext, hpieces, hblanks, hempty⟩ :=
    compile_append_comma (some ⟨["TITLE", "AWARD_ID"]⟩) .any "it's" "-beta"
  refine ⟨hidle, (hpieces _ hidle).1, hbefore, hafter, hblanks _ _ hbefore hafter, ?_⟩
  exact htext

end Search

end DatasetSearch
