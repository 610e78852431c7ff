import DeskComputer.Codec
import Mathlib.Data.List.TakeWhile

/-!
# Encoded text

Any text has bytes in UTF-8, and is decoded from them again. Main statements: `encode_codePoints`,
`decodeUtf8?_flatMap`.
-/

namespace DeskComputer.Text

/-! ### Encoding -/

theorem Encoding.encode?_known {e : Encoding} {text : List CodePoint}
    (known : ∀ p ∈ text, e.has p = true) : e.encode? text = .ok (text.flatMap e.bytesOf) := by
  rw [encode?, List.dropWhile_eq_nil_iff.mpr known]

/-- A character is no surrogate, so UTF-8 has it. -/
theorem Encoding.has_ofChar (c : Char) : utf8.has (.ofChar c) = true := by
  have valid : c.toNat < 0xD800 ∨ 0xDFFF < c.toNat ∧ c.toNat < 0x110000 := c.valid
  have place : (CodePoint.ofChar c).value = c.toNat := rfl
  rw [has, CodePoint.isSurrogate, place, Bool.not_eq_true', Bool.and_eq_false_iff,
    decide_eq_false_iff_not, decide_eq_false_iff_not]
  omega

theorem encode_codePoints (text : String) :
    Codec.utf8.encode (codePoints text) = .ok (text.toList.flatMap fun c => utf8Bytes c.toNat) := by
  have known : ∀ p ∈ codePoints text, Encoding.utf8.has p = true := by
    intro p member
    obtain ⟨c, -, rfl⟩ := List.mem_map.mp member
    exact Encoding.has_ofChar c
  have encoded := Encoding.encode?_known known
  have bytes : (codePoints text).flatMap Encoding.utf8.bytesOf =
      text.toList.flatMap fun c => utf8Bytes c.toNat := List.flatMap_map ..
  rw [bytes] at encoded
  exact congrArg (Except.mapError Fault.unencodable) encoded

/-! ### Decoding -/

theorem utf8PiecesFrom_skip (skipped rest : List Nat) :
    utf8PiecesFrom skipped.length (skipped ++ rest) = utf8PiecesFrom 0 rest := by
  induction skipped with
  | nil => rfl
  | cons b skipped ih => exact ih

theorem continuePiece_cons {value size low high more b : Nat} {rest : List Nat}
    (least : low ≤ b) (most : b ≤ high) :
    continuePiece value size low high (more + 1) (b :: rest) =
      continuePiece (value * 0x40 + (b - 0x80)) (size + 1) 0x80 0xBF more rest :=
  if_pos ⟨least, most⟩

theorem continuationOf?_three {n : Nat} (least : 0x800 ≤ n) (most : n < 0x10000)
    (valid : n < 0xD800 ∨ 0xDFFF < n) :
    ∃ low high, continuationOf? (0xE0 + n / 0x1000) = some (2, low, high) ∧
      low ≤ 0x80 + n / 0x40 % 0x40 ∧ 0x80 + n / 0x40 % 0x40 ≤ high := by
  rw [continuationOf?, if_neg (by omega)]
  split
  · exact ⟨_, _, rfl, by omega, by omega⟩
  split
  · exact ⟨_, _, rfl, by omega, by omega⟩
  rw [if_pos (by omega)]
  exact ⟨_, _, rfl, by omega, by omega⟩

theorem continuationOf?_four {n : Nat} (least : 0x10000 ≤ n) (most : n < 0x110000) :
    ∃ low high, continuationOf? (0xF0 + n / 0x40000) = some (3, low, high) ∧
      low ≤ 0x80 + n / 0x1000 % 0x40 ∧ 0x80 + n / 0x1000 % 0x40 ≤ high := by
  rw [continuationOf?, if_neg (by omega), if_neg (by omega), if_neg (by omega), if_neg (by omega)]
  split
  · exact ⟨_, _, rfl, by omega, by omega⟩
  split
  · exact ⟨_, _, rfl, by omega, by omega⟩
  rw [if_pos (by omega)]
  exact ⟨_, _, rfl, by omega, by omega⟩

/-- The bytes of a character are read as one piece. -/
theorem pieceAt_utf8Bytes (c : Char) (rest : List Nat) :
    ∃ lead tail, utf8Bytes c.toNat = lead :: tail ∧
      pieceAt lead (tail ++ rest) = (.char c, tail.length + 1) := by
  have valid : c.toNat < 0xD800 ∨ 0xDFFF < c.toNat ∧ c.toNat < 0x110000 := c.valid
  have piece : ∀ n size : Nat, n = c.toNat →
      (Piece.char (Char.ofNat n), size) = (.char c, size) := by
    rintro n size rfl
    rw [Char.ofNat_toNat]
  unfold utf8Bytes
  generalize c.toNat = n at valid piece ⊢
  split
  · rename_i one
    refine ⟨_, _, rfl, ?_⟩
    rw [pieceAt, if_pos one]
    exact piece n 1 rfl
  split
  · have leads : continuationOf? (0xC0 + n / 0x40) = some (1, 0x80, 0xBF) := if_pos (by omega)
    refine ⟨_, _, rfl, ?_⟩
    rw [pieceAt, if_neg (by omega), leads]
    dsimp only
    rw [if_pos rfl, List.cons_append, continuePiece_cons (by omega) (by omega)]
    exact piece _ _ (by omega)
  split
  · obtain ⟨low, high, leads, least, most⟩ :=
      continuationOf?_three (n := n) (by omega) (by omega) (by omega)
    refine ⟨_, _, rfl, ?_⟩
    rw [pieceAt, if_neg (by omega), leads]
    dsimp only
    rw [if_neg (by omega), if_pos rfl, List.cons_append, continuePiece_cons least most,
      List.cons_append, continuePiece_cons (by omega) (by omega)]
    exact piece _ _ (by omega)
  · obtain ⟨low, high, leads, least, most⟩ := continuationOf?_four (n := n) (by omega) (by omega)
    refine ⟨_, _, rfl, ?_⟩
    rw [pieceAt, if_neg (by omega), leads]
    dsimp only
    rw [if_neg (by omega), if_neg (by omega), List.cons_append, continuePiece_cons least most,
      List.cons_append, continuePiece_cons (by omega) (by omega), List.cons_append,
      continuePiece_cons (by omega) (by omega)]
    exact piece _ _ (by omega)

theorem utf8Pieces_flatMap (text : List Char) :
    utf8Pieces (text.flatMap fun c => utf8Bytes c.toNat) =
      text.map fun c => (.char c, (utf8Bytes c.toNat).length) := by
  induction text with
  | nil => rfl
  | cons c text ih =>
    obtain ⟨lead, tail, bytes, piece⟩ :=
      pieceAt_utf8Bytes c (text.flatMap fun c => utf8Bytes c.toNat)
    rw [List.flatMap_cons, List.map_cons, bytes, ← ih, List.cons_append, utf8Pieces,
      utf8PiecesFrom, piece]
    exact congrArg _ (utf8PiecesFrom_skip tail _)

theorem decodeUtf8?_flatMap (text : List Char) :
    decodeUtf8? (text.flatMap fun c => utf8Bytes c.toNat) = .ok text := by
  have read : ∀ bytes position, readPieces bytes position
      (text.map fun c => (.char c, (utf8Bytes c.toNat).length)) = .ok text := by
    intro bytes
    induction text with
    | nil => exact fun _ => rfl
    | cons c text ih =>
      intro position
      rw [List.map_cons, readPieces, ih]
      rfl
  rw [decodeUtf8?, utf8Pieces_flatMap, read]

end DeskComputer.Text
