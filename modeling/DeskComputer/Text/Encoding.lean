import DeskComputer.Text.Numeral

/-!
# Text encodings

Text as bytes and back, in three encodings. Text that is encoded may hold surrogates, so it is made
of code points; `encode?` fails at the first run of code points that the encoding lacks. Decoding
UTF-8 cuts the bytes into pieces, each one character or one flaw; a flaw is as long as the start of
a character that the bytes still follow. Bytes are numbers below 256.
-/

namespace DeskComputer.Text

/-- A code point. Unlike a character, it may be a surrogate. -/
structure CodePoint where
  value : Nat
  valid : value < 0x110000
  deriving DecidableEq, Repr

theorem toNat_lt (c : Char) : c.toNat < 0x110000 := by
  rcases c.valid with low | ⟨-, high⟩
  · exact Nat.lt_trans low (by decide)
  · exact high

def CodePoint.ofChar (c : Char) : CodePoint := ⟨c.toNat, toNat_lt c⟩

def CodePoint.isSurrogate (p : CodePoint) : Bool := 0xD800 ≤ p.value && p.value ≤ 0xDFFF

def codePoints (text : String) : List CodePoint := text.toList.map .ofChar

inductive Encoding where
  | utf8 | latin1 | ascii
  deriving DecidableEq, Repr

def Encoding.name : Encoding → String
  | .utf8 => "utf-8"
  | .latin1 => "latin-1"
  | .ascii => "ascii"

/-! ### Encoding -/

/-- A run of code points that a codec lacks: the first of them, where they start, how many, and
why. -/
structure Unencodable where
  codec : String
  first : CodePoint
  start : Nat
  length : Nat
  why : String
  deriving DecidableEq, Repr

def utf8Bytes (n : Nat) : List Nat :=
  if n < 0x80 then [n]
  else if n < 0x800 then [0xC0 + n / 0x40, 0x80 + n % 0x40]
  else if n < 0x10000 then [0xE0 + n / 0x1000, 0x80 + n / 0x40 % 0x40, 0x80 + n % 0x40]
  else [0xF0 + n / 0x40000, 0x80 + n / 0x1000 % 0x40, 0x80 + n / 0x40 % 0x40, 0x80 + n % 0x40]

namespace Encoding

/-- Whether an encoding has a code point. -/
def has (encoding : Encoding) (p : CodePoint) : Bool :=
  match encoding with
  | .utf8 => !p.isSurrogate
  | .latin1 => p.value < 0x100
  | .ascii => p.value < 0x80

/-- Why an encoding lacks a code point. -/
def lack : Encoding → String
  | .utf8 => "surrogates not allowed"
  | .latin1 => "ordinal not in range(256)"
  | .ascii => "ordinal not in range(128)"

/-- The bytes of a code point that an encoding has. -/
def bytesOf (encoding : Encoding) (p : CodePoint) : List Nat :=
  match encoding with
  | .utf8 => utf8Bytes p.value
  | .latin1 | .ascii => [p.value]

def encode? (encoding : Encoding) (text : List CodePoint) : Except Unencodable (List Nat) :=
  match text.dropWhile encoding.has with
  | [] => .ok (text.flatMap encoding.bytesOf)
  | p :: rest =>
    .error
      { codec := encoding.name
        first := p
        start := (text.takeWhile encoding.has).length
        length := (rest.takeWhile fun q => !encoding.has q).length + 1
        why := encoding.lack }

end Encoding

/-- A code point with the fewest of two, four or eight hexadecimal digits. -/
def CodePoint.escape (p : CodePoint) : String :=
  if p.value < 0x100 then "\\x" ++ hex 2 p.value
  else if p.value < 0x10000 then "\\u" ++ hex 4 p.value
  else "\\U" ++ hex 8 p.value

/-- The positions of a run, of two or more, as messages give them. -/
def positions (start length : Nat) : String := s!"{start}-{start + length - 1}"

/-- What a codec cannot do, and why. -/
def codecMessage (codec what why : String) : String := s!"'{codec}' codec can't {what}: {why}"

def Unencodable.message (u : Unencodable) : String :=
  let subject :=
    if u.length = 1 then
      "character '" ++ u.first.escape ++ "' in position " ++ toString u.start
    else "characters in position " ++ positions u.start u.length
  codecMessage u.codec ("encode " ++ subject) u.why

/-! ### Decoding -/

/-- Why bytes are no character. -/
inductive Flaw where
  | start | continuation | truncated
  deriving DecidableEq, Repr

def Flaw.message : Flaw → String
  | .start => "invalid start byte"
  | .continuation => "invalid continuation byte"
  | .truncated => "unexpected end of data"

/-- What stands at a place in UTF-8 bytes. -/
inductive Piece where
  | char (c : Char)
  | flaw (why : Flaw)
  deriving DecidableEq, Repr

/-- The continuation bytes after a lead byte: how many, and the least and the greatest first one. -/
def continuationOf? (lead : Nat) : Option (Nat × Nat × Nat) :=
  if 0xC2 ≤ lead ∧ lead ≤ 0xDF then some (1, 0x80, 0xBF)
  else if lead = 0xE0 then some (2, 0xA0, 0xBF)
  else if lead = 0xED then some (2, 0x80, 0x9F)
  else if 0xE1 ≤ lead ∧ lead ≤ 0xEF then some (2, 0x80, 0xBF)
  else if lead = 0xF0 then some (3, 0x90, 0xBF)
  else if lead = 0xF4 then some (3, 0x80, 0x8F)
  else if 0xF1 ≤ lead ∧ lead ≤ 0xF3 then some (3, 0x80, 0xBF)
  else none

/-- The piece that goes on after `size` bytes that amount to `value` and call for `more` bytes, the
next of them from `low` to `high`; with its size. -/
def continuePiece (value size low high : Nat) : Nat → List Nat → Piece × Nat
  | 0, _ => (.char (Char.ofNat value), size)
  | _ + 1, [] => (.flaw .truncated, size)
  | more + 1, b :: rest =>
    if low ≤ b ∧ b ≤ high then
      continuePiece (value * 0x40 + (b - 0x80)) (size + 1) 0x80 0xBF more rest
    else (.flaw .continuation, size)

/-- The piece that starts with a byte, and its size. -/
def pieceAt (lead : Nat) (rest : List Nat) : Piece × Nat :=
  if lead < 0x80 then (.char (Char.ofNat lead), 1)
  else
    match continuationOf? lead with
    | none => (.flaw .start, 1)
    | some (more, low, high) =>
      let value := if more = 1 then lead - 0xC0 else if more = 2 then lead - 0xE0 else lead - 0xF0
      continuePiece value 1 low high more rest

/-- The pieces of UTF-8 bytes with their sizes, after `skip` bytes that belong to an earlier one. -/
def utf8PiecesFrom (skip : Nat) : List Nat → List (Piece × Nat)
  | [] => []
  | lead :: rest =>
    match skip with
    | skip + 1 => utf8PiecesFrom skip rest
    | 0 => pieceAt lead rest :: utf8PiecesFrom ((pieceAt lead rest).2 - 1) rest

def utf8Pieces (bytes : List Nat) : List (Piece × Nat) := utf8PiecesFrom 0 bytes

/-- Bytes that are no character: the first of them, where they start, how many, and why. -/
structure Undecodable where
  first : Nat
  start : Nat
  length : Nat
  why : Flaw
  deriving DecidableEq, Repr

def Undecodable.message (u : Undecodable) : String :=
  let subject :=
    if u.length = 1 then "byte 0x" ++ hex 2 u.first ++ " in position " ++ toString u.start
    else "bytes in position " ++ positions u.start u.length
  codecMessage Encoding.utf8.name ("decode " ++ subject) u.why.message

/-- The text that pieces from a position on make up, or the first flaw among them. -/
def readPieces (bytes : List Nat) (position : Nat) :
    List (Piece × Nat) → Except Undecodable (List Char)
  | [] => .ok []
  | (.char c, size) :: rest => do return c :: (← readPieces bytes (position + size) rest)
  | (.flaw why, size) :: _ =>
    .error { first := (bytes.drop position).headD 0, start := position, length := size, why }

def decodeUtf8? (bytes : List Nat) : Except Undecodable (List Char) :=
  readPieces bytes 0 (utf8Pieces bytes)

/-- The text of bytes, with the replacement character for what is no character. -/
def Encoding.decodeLossy (encoding : Encoding) (bytes : List Nat) : List Char :=
  match encoding with
  | .utf8 =>
    (utf8Pieces bytes).map fun piece =>
      match piece.1 with
      | .char c => c
      | .flaw _ => '\uFFFD'
  | .latin1 => bytes.map Char.ofNat
  | .ascii => bytes.map fun b => if b < 0x80 then Char.ofNat b else '\uFFFD'

end DeskComputer.Text
