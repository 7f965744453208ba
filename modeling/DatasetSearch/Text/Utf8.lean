/-!
# Reading UTF-8

Bytes are read one at a time.  A byte that cannot continue the sequence read so far ends it as
malformed, and is itself read afresh; so each longest malformed start counts once.
-/

namespace DatasetSearch.Text.Utf8

/-- An unfinished sequence: `missing` more bytes, the next of them from `low` to `high`. -/
structure Pending where
  missing : Nat
  low : Nat
  high : Nat
  value : Nat

/-- What a first byte begins: a whole character, a longer sequence, or nothing well formed. -/
inductive Start where
  | whole (c : Char)
  | longer (pending : Pending)
  | malformed

/-- The sequence that a byte begins.  The bounds on the second byte rule out overlong forms,
surrogates and values above the last code point. -/
def start (byte : UInt8) : Start :=
  let b := byte.toNat
  if b < 0x80 then .whole (Char.ofNat b)
  else if b < 0xC2 then .malformed
  else if b < 0xE0 then .longer ⟨1, 0x80, 0xBF, b - 0xC0⟩
  else if b = 0xE0 then .longer ⟨2, 0xA0, 0xBF, 0⟩
  else if b = 0xED then .longer ⟨2, 0x80, 0x9F, 0xD⟩
  else if b < 0xF0 then .longer ⟨2, 0x80, 0xBF, b - 0xE0⟩
  else if b = 0xF0 then .longer ⟨3, 0x90, 0xBF, 0⟩
  else if b < 0xF4 then .longer ⟨3, 0x80, 0xBF, b - 0xF0⟩
  else if b = 0xF4 then .longer ⟨3, 0x80, 0x8F, 4⟩
  else .malformed

/-- The characters of the bytes, with none for each malformed sequence. -/
def read : Option Pending → List UInt8 → List (Option Char)
  | none, [] => []
  | some _, [] => [none]
  | none, byte :: rest =>
    match start byte with
    | .whole c => some c :: read none rest
    | .longer pending => read (some pending) rest
    | .malformed => none :: read none rest
  | some pending, byte :: rest =>
    let b := byte.toNat
    if pending.low ≤ b ∧ b ≤ pending.high then
      let value := pending.value * 64 + (b - 0x80)
      match pending.missing with
      | 0 | 1 => some (Char.ofNat value) :: read none rest
      | missing + 1 => read (some ⟨missing, 0x80, 0xBF, value⟩) rest
    else
      match start byte with
      | .whole c => none :: some c :: read none rest
      | .longer next => none :: read (some next) rest
      | .malformed => none :: none :: read none rest

/-- The text, if all of the bytes are well formed. -/
def decode? (bytes : List UInt8) : Option String :=
  ((read none bytes).mapM id).map String.ofList

/-- The text, with the replacement character U+FFFD for each malformed sequence. -/
def decodeLossy (bytes : List UInt8) : String :=
  String.ofList ((read none bytes).map (·.getD (Char.ofNat 0xFFFD)))

/-- The bytes of a text. -/
def encode (s : String) : List UInt8 := s.toUTF8.toList

/-- The text from one byte of a text up to another; none if a character would be cut. -/
def slice? (s : String) (start stop : Nat) : Option String :=
  decode? (((encode s).take stop).drop start)

end DatasetSearch.Text.Utf8
