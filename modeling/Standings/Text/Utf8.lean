/-! # UTF-8

Text as bytes and back. Strict reading (`decode?`) accepts exactly the bytes of some text.
Lenient reading (`symbols`) accepts any bytes and marks each *maximal subpart* that is not text:
the longest start of some character's bytes at that place, or one byte if there is none.
`decodeLossy` puts U+FFFD, the replacement character, for each of them, and `firstBreak?` says where
the first of them is. -/

namespace Standings

namespace Utf8

/-- The bytes of a text. -/
def encode (text : String) : List UInt8 :=
  text.toUTF8.data.toList

/-- The byte of an ASCII character. -/
def ascii (c : Char) : UInt8 := UInt8.ofNat c.toNat

/-- The text whose bytes these are, if there is one. -/
def decode? (bytes : List UInt8) : Option String :=
  String.fromUTF8? ⟨bytes.toArray⟩

/-- Reading the bytes of a text gives the text back. -/
@[simp] theorem decode?_encode (text : String) : decode? (encode text) = some text := by
  have h : (⟨(encode text).toArray⟩ : ByteArray) = text.toByteArray := by simp [encode]
  rw [decode?, h]
  exact dif_pos text.isValidUTF8

/-- Strict reading takes the bytes of a text and no others. -/
theorem decode?_eq_some_iff {bytes : List UInt8} {text : String} :
    decode? bytes = some text ↔ bytes = encode text := by
  constructor
  · intro h
    simp only [decode?, String.fromUTF8?] at h
    split at h
    · cases h
      simp [encode, String.fromUTF8]
    · cases h
  · rintro rfl
    exact decode?_encode text

/-- What a leading byte announces: how many bytes follow it, the range of the first of them, and
the bits it holds itself. The ranges leave out surrogates, overlong forms and what lies past
U+10FFFF. -/
structure Lead where
  /-- Number of bytes that follow. -/
  following : Nat
  /-- Least second byte. -/
  least : UInt8
  /-- Greatest second byte. -/
  greatest : UInt8
  /-- The leading byte's own bits of the code point. -/
  bits : Nat

/-- Reads a leading byte; `none` for a byte no character starts with. -/
def Lead.ofByte? (b : UInt8) : Option Lead :=
  let n := b.toNat
  if n < 0x80 then some ⟨0, 0x80, 0xBF, n⟩
  else if n < 0xC2 then none
  else if n < 0xE0 then some ⟨1, 0x80, 0xBF, n - 0xC0⟩
  else if n = 0xE0 then some ⟨2, 0xA0, 0xBF, 0⟩
  else if n = 0xED then some ⟨2, 0x80, 0x9F, 0xD⟩
  else if n < 0xF0 then some ⟨2, 0x80, 0xBF, n - 0xE0⟩
  else if n = 0xF0 then some ⟨3, 0x90, 0xBF, 0⟩
  else if n < 0xF4 then some ⟨3, 0x80, 0xBF, n - 0xF0⟩
  else if n = 0xF4 then some ⟨3, 0x80, 0x8F, 4⟩
  else none

/-- A character that lacks `missing + 1` bytes, the next of them between `least` and `greatest`. -/
structure Pending where
  /-- Bytes that follow the next one. -/
  missing : Nat
  /-- Least next byte. -/
  least : UInt8
  /-- Greatest next byte. -/
  greatest : UInt8
  /-- Bits read so far. -/
  bits : Nat

/-- What the first byte of a character gives: a character, an unfinished one, or a mark. -/
def startChar (b : UInt8) : List (Option Char) × Option Pending :=
  match Lead.ofByte? b with
  | none => ([none], none)
  | some ⟨0, _, _, bits⟩ => ([some (Char.ofNat bits)], none)
  | some ⟨following + 1, least, greatest, bits⟩ => ([], some ⟨following, least, greatest, bits⟩)

/-- Takes one byte. A byte that cannot continue the unfinished character ends it with a mark and
starts anew. -/
def feed : Option Pending → UInt8 → List (Option Char) × Option Pending
  | none, b => startChar b
  | some pending, b =>
    if pending.least ≤ b ∧ b ≤ pending.greatest then
      let bits := 64 * pending.bits + (b.toNat - 0x80)
      match pending.missing with
      | 0 => ([some (Char.ofNat bits)], none)
      | missing + 1 => ([], some ⟨missing, 0x80, 0xBF, bits⟩)
    else
      -- The byte does not continue the character, but it may start one of its own.
      let (symbols, next) := startChar b
      (none :: symbols, next)

/-- Reads the bytes that follow an unfinished character, if there is one. -/
def symbolsFrom : Option Pending → List UInt8 → List (Option Char)
  | none, [] => []
  | some _, [] => [none]
  | pending, b :: rest =>
    let (symbols, next) := feed pending b
    symbols ++ symbolsFrom next rest

/-- The characters of any bytes, with `none` where they are no text. The bytes of a text are its
characters; only other bytes are taken one by one. -/
def symbols (bytes : List UInt8) : List (Option Char) :=
  match decode? bytes with
  | some text => text.toList.map some
  | none => symbolsFrom none bytes

/-- The bytes of a text are its characters, without a mark. -/
@[simp] theorem symbols_encode (text : String) :
    symbols (encode text) = text.toList.map some := by
  simp [symbols]

/-- A place where bytes stop to be text. -/
structure Break where
  /-- The number of bytes before it. -/
  start : Nat
  /-- The number of bytes that are no text; `none` if the bytes end within a character. -/
  length : Option Nat
  deriving DecidableEq, Repr

/-- The sentence that reports a break. -/
def Break.message (b : Break) : String :=
  match b.length with
  | some length =>
    "invalid utf-8 sequence of " ++ toString length ++ " bytes from index " ++ toString b.start
  | none => "incomplete utf-8 byte sequence from index " ++ toString b.start

/-- Looks for a break in the bytes from `index` on, behind an unfinished character that has begun
at `start`, if there is one. -/
def breakFrom? (start index : Nat) : Option Pending → List UInt8 → Option Break
  | none, [] => none
  | some _, [] => some ⟨start, none⟩
  | pending, b :: rest =>
    let start := if pending.isSome then start else index
    match feed pending b with
    -- A byte that cannot even start a character is a break by itself.
    | (none :: _, _) => some ⟨start, some (max 1 (index - start))⟩
    | (_, next) => breakFrom? start (index + 1) next rest

/-- The first place where bytes stop to be text; the bytes of a text have none. -/
def firstBreak? (bytes : List UInt8) : Option Break :=
  match decode? bytes with
  | some _ => none
  | none => breakFrom? 0 0 none bytes

/-- The character U+FFFD that stands for bytes that are no text. -/
def replacement : Char := '\uFFFD'

/-- The text of any bytes, with replacements where they are no text. -/
def decodeLossy (bytes : List UInt8) : String :=
  String.ofList ((symbols bytes).map fun symbol => symbol.getD replacement)

/-- Lenient reading keeps a text as it is. -/
@[simp] theorem decodeLossy_encode (text : String) : decodeLossy (encode text) = text := by
  simp [decodeLossy, Function.comp_def]

end Utf8

end Standings
