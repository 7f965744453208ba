import DatasetSearch.Decimal.Real
import DatasetSearch.Log.Event
import DatasetSearch.Log.Pattern
import DatasetSearch.Text.Blank
import DatasetSearch.Text.Integer
import DatasetSearch.Text.Utf8

/-!
# Which events are shown

A directive gives the most talkative level shown for the targets that start with a text, or for
events that have a field, or both.  Of the directives that fit an event the one with the longest
text decides, then one that names a field, of equals the last.  An event that no directive fits is
not shown.

A directive is written `target[span` with fields in braces `]=level`; each part may be left out.
-/

namespace DatasetSearch.Log

structure Directive where
  /-- What the targets start with; every target without it. -/
  target : Option String
  /-- The field that the events have; every event without it. -/
  field : Option String
  /-- The rank of the most talkative level shown; zero shows none. -/
  rank : Nat
  /-- Whether it holds within certain spans only.  No event here is in a span. -/
  spanned : Bool
deriving DecidableEq, Repr

def rankNames : List (String × Nat) :=
  [("off", 0), ("error", Level.error.rank), ("warn", Level.warn.rank), ("info", Level.info.rank),
    ("debug", Level.debug.rank), ("trace", Level.trace.rank)]

/-- The rank that a text names in any case, or by its number. -/
def rankOf? (text : String) : Option Nat :=
  (rankNames.lookup (Text.lower text)).or (Text.natUpTo? Level.trace.rank text)

namespace Directive

/-! ### Reading

The parts of a directive are found in the text without the blanks around it, but they are cut, byte
by byte, out of the text as it is written.  So a blank at the end belongs to the last part, and
blanks at the start shift every part. -/

def isTargetStart (c : Char) : Bool :=
  c == '-' || c == ':' || c == '_' || Text.isAlphanumeric c

def size (s : List Char) : Nat := (String.ofList s).utf8ByteSize

/-- The rank written from a byte on; nothing means every level. -/
def rankFrom? (text : String) (start : Nat) : Option Nat := do
  let level ← Text.Utf8.slice? text start text.utf8ByteSize
  if level = "" then some Level.trace.rank else rankOf? level

/-- The rank after the brackets, which end at a byte: none written, or one after an equals sign. -/
def rankAfter? (text : String) (start : Nat) : List Char → Option Nat
  | [] => some Level.trace.rank
  | '=' :: _ => rankFrom? text (start + 1)
  | _ => none

/-- Whether a text can be the value of a field: a flag, a number, or a pattern. -/
def isFieldValue (value : String) : Bool :=
  (Text.int64? value).isSome || (Text.natUpTo? (UInt64.size - 1) value).isSome ||
    (Real64.ofText? value).isSome || Pattern.isPattern value

/-- The directive for events that have a field, or within spans whose field has a value. -/
def ofField? (target : Option String) (rank : Nat) (inSpan : Bool) (field : String) :
    Option Directive :=
  match Text.split '=' field with
  | name :: value :: _ =>
    if isFieldValue value then some ⟨target, some name, rank, true⟩ else none
  | _ => if field = "" then none else some ⟨target, some field, rank, inSpan⟩

/-- The directive with brackets; `start` is the byte after the opening one, `s` what follows it. -/
def ofBrackets? (text : String) (target : Option String) (start : Nat) (s : List Char) :
    Option Directive := do
  let span := s.takeWhile (fun c => c ≠ ']' ∧ c ≠ '\x7b')
  let spanEnd := start + size span
  match s.drop span.length with
  | ']' :: rest =>
    let rank ← rankAfter? text (spanEnd + 1) rest
    some ⟨target, none, rank, true⟩
  | '\x7b' :: rest =>
    let field := rest.takeWhile (· ≠ '\x7d')
    let fieldEnd := spanEnd + 1 + size field
    match rest.drop field.length with
    | '\x7d' :: ']' :: rest =>
      let written ← Text.Utf8.slice? text (spanEnd + 1) fieldEnd
      let spanName ← Text.Utf8.slice? text start spanEnd
      let rank ← rankAfter? text (fieldEnd + 2) rest
      ofField? target rank (spanName ≠ "") written
    | _ => none
  | _ => none

/-- The directive that a text denotes: a level, or a target, brackets or both with a level. -/
def ofText? (text : String) : Option Directive := do
  let s := Text.trimChars text.toList
  let name := s.takeWhile (fun c => c ≠ '=' ∧ c ≠ '[')
  let stop := size name
  if name.isEmpty then
    match s with
    | '[' :: rest => ofBrackets? text none 1 rest
    | _ => none
  else if !name.head?.any isTargetStart then none
  else
    match s.drop name.length with
    | [] =>
      match rankOf? text with
      | some rank => some ⟨none, none, rank, false⟩
      | none => some ⟨some text, none, Level.trace.rank, false⟩
    | bracket :: rest =>
      let target ← Text.Utf8.slice? text 0 stop
      if bracket = '[' then ofBrackets? text (some target) (stop + 1) rest
      else
        let rank ← rankFrom? text (stop + 1)
        some ⟨some target, none, rank, false⟩

/-! ### Deciding -/

/-- Whether a directive fits an event.  The message counts as a field. -/
def fits (d : Directive) (event : Event) : Bool :=
  !d.spanned && d.target.all (Text.startsWith event.target) &&
    d.field.all ("message" :: event.fields.map (·.1)).contains

/-- Whether naming the first field is less specific than naming the second. -/
def weakerField : Option String → Option String → Bool
  | none, some _ => true
  | some a, some b => decide (a < b)
  | _, none => false

/-- Whether a directive is less specific than another one that fits the same event. -/
def weaker (d other : Directive) : Bool :=
  match d.target, other.target with
  | none, some _ => true
  | some _, none => false
  | some a, some b =>
    decide (a.length < b.length) || (a.length == b.length && weakerField d.field other.field)
  | none, none => weakerField d.field other.field

end Directive

def deciding? (directives : List Directive) (event : Event) : Option Directive :=
  (directives.filter (·.fits event)).foldl
    (fun best d =>
      match best with
      | none => some d
      | some b => if d.weaker b then some b else some d)
    none

def isShown (directives : List Directive) (event : Event) : Bool :=
  match deciding? directives event with
  | some d => decide (event.level.rank ≤ d.rank)
  | none => false

/-- The directives of a text between commas, if all of them are well formed.  Empty pieces count for
nothing; without any directive, errors of every target are shown. -/
def directives? (text : String) : Option (List Directive) :=
  match (Text.split ',' text).filter (· ≠ "") with
  | [] => some [⟨none, none, Level.error.rank, false⟩]
  | pieces => pieces.mapM Directive.ofText?

/-- The directives for a level: it holds for the service, and two other targets have their own.
What is not well formed is left out. -/
def standardDirectives (level : String) : List Directive :=
  let text := "fedspend=" ++ level ++ ",fedspend_server=" ++ level ++ ",fedspend_query=" ++ level ++
    ",tower_http=debug,sqlx=warn"
  ((Text.split ',' text).filter (· ≠ "")).filterMap Directive.ofText?

/-- The directives that hold: those of a variable if they are well formed, else the standard ones
for a level. -/
def directivesFor (variable_ : Option String) (level : String) : List Directive :=
  (variable_.bind directives?).getD (standardDirectives level)

end DatasetSearch.Log
