import DeskComputer.Dump
import DeskComputer.Proofs.Text.Cutting
import DeskComputer.Proofs.Text.Decimal
import Mathlib.Data.List.Forall2

/-!
# Reading dumps

A dump of bytes says where each row starts, holds the bytes in columns that can be read back, and
shows each byte as one character. None of these characters breaks a line, and the offset has no
colon, so that lines and columns are found again. Main statement: `integers_lossless`.
-/

namespace DeskComputer.Dump

open Text

/-! ### A reader of dumps -/

/-- What stands behind the first colon with a space after it. -/
def behindColon : List Char → List Char
  | [] => []
  | c :: rest => if c = ':' ∧ rest.head? = some ' ' then rest.tail else behindColon rest

/-- The byte that two hexadecimal digits write. -/
def readByte? (cell : List Char) : Option Nat :=
  if cell.length = 2 then readNumeral? 16 cell else none

/-- The bytes that are written with spaces between them. -/
def readColumns? (columns : List Char) : Option (List Nat) :=
  ((columns.splitOn ' ').filter (!·.isEmpty)).mapM readByte?

/-- The bytes of a line: those in the 48 columns behind its offset. -/
def readLine? (line : List Char) : Option (List Nat) := readColumns? ((behindColon line).take 48)

/-- The bytes of all lines. -/
def readLines? (lines : List (List Char)) : Option (List Nat) :=
  (lines.mapM readLine?).map List.flatten

/-- Whether a character shows a byte: the character of the byte in ASCII, or a point. -/
def Stands (byte : Nat) (c : Char) : Prop :=
  if 32 ≤ byte ∧ byte ≤ 126 then c.toNat = byte else c = '.'

/-- Whether a line shows a row of bytes that starts at an offset. -/
structure ShowsRow (offset : Nat) (row : List Nat) (line : List Char) : Prop where
  /-- The offset is written in hexadecimal, with zeros in front up to four digits. -/
  start : ∃ digits rest, line = digits ++ ':' :: ' ' :: rest ∧ Digits 16 digits offset ∧
    digits.length = max 4 (Nat.toDigits 16 offset).length
  bytes : readLine? line = some row
  /-- Behind the columns stands a character for each byte. -/
  characters : ∃ columns shown, behindColon line = columns ++ ' ' :: shown ∧ columns.length = 48 ∧
    List.Forall₂ Stands row shown

/-! ### Rows -/

section Rows

variable {α : Type} {n : Nat} {items : List α}

theorem rowsOf_cons (filled : items ≠ []) :
    rowsOf (n + 1) items = items.take 16 :: rowsOf n (items.drop 16) := by
  cases items with
  | nil => exact absurd rfl filled
  | cons item items => rfl

theorem rowsOf_nil : rowsOf n ([] : List α) = [] := by cases n <;> rfl

theorem rowsOf_eq (enough : items.length ≤ 16 * n) :
    rowsOf n items =
      (List.range ((items.length + 15) / 16)).map fun j => (items.drop (16 * j)).take 16 := by
  induction n generalizing items with
  | zero =>
    obtain rfl := List.length_eq_zero_iff.mp (Nat.le_zero.mp enough)
    simp [rowsOf]
  | succ n ih =>
    by_cases empty : items = []
    · simp [empty, rowsOf_nil]
    · have some := List.length_pos_iff.mpr empty
      have rest : (items.drop 16).length ≤ 16 * n := by
        rw [List.length_drop]
        omega
      have count : (items.length + 15) / 16 = (items.length - 16 + 15) / 16 + 1 := by omega
      rw [rowsOf_cons empty, ih rest, List.length_drop, count, List.range_succ_eq_map,
        List.map_cons, List.map_map]
      simp only [Function.comp_def, List.drop_drop, Nat.mul_succ, Nat.add_comm 16]
      rfl

theorem flatten_rowsOf (enough : items.length ≤ 16 * n) : (rowsOf n items).flatten = items := by
  induction n generalizing items with
  | zero => exact (List.length_eq_zero_iff.mp (Nat.le_zero.mp enough)).symm
  | succ n ih =>
    by_cases empty : items = []
    · rw [empty, rowsOf_nil]
      rfl
    · have rest : (items.drop 16).length ≤ 16 * n := by
        rw [List.length_drop]
        omega
      rw [rowsOf_cons empty, List.flatten_cons, ih rest, List.take_append_drop]

end Rows

theorem bytesRowsFrom_eq (offset : Nat) (rows : List (List Nat)) :
    bytesRowsFrom offset rows = rows.mapIdx fun j row => bytesRow (offset + 16 * j) row := by
  induction rows generalizing offset with
  | nil => rfl
  | cons row rows ih =>
    rw [bytesRowsFrom, List.mapIdx_cons, ih]
    simp only [Nat.mul_succ, Nat.add_assoc, Nat.add_comm 16]
    rfl

/-! ### Hexadecimal numbers -/

/-- A number in hexadecimal is its digits, behind zeros up to the width. -/
theorem digits_hex (width n : Nat) : Digits 16 (hex width n).toList n := by
  have zeros : ∀ fill {digits : List Char}, Digits 16 digits n →
      Digits 16 (List.replicate fill '0' ++ digits) n := by
    intro fill digits written
    induction fill with
    | zero => exact written
    | succ fill ih => exact ih.zero_cons (by decide)
  rw [hex, padStart, String.toList_ofList, String.toList_ofList]
  exact zeros _ (digits_toDigits (by decide) n)

theorem length_hex (width n : Nat) :
    (hex width n).toList.length = max width (Nat.toDigits 16 n).length := by
  rw [hex, padStart, String.toList_ofList, List.length_append, List.length_replicate,
    String.length_ofList, String.toList_ofList]
  omega

theorem forall_mem_hex {P : Char → Prop} (each : ∀ d < 16, P (Nat.digitChar d)) (width n : Nat) :
    ∀ c ∈ (hex width n).toList, P c :=
  (digits_hex width n).forall_mem each

/-! ### Columns -/

section Columns

variable {row : List Nat} {byte : Nat}

def cell (byte : Nat) : List Char := (hex 2 byte).toList

/-- The columns of a row without the spaces behind them. -/
def cells (row : List Nat) : List Char := [' '].intercalate (row.map cell)

theorem length_cell (small : byte < 256) : (cell byte).length = 2 := by
  have short : (Nat.toDigits 16 byte).length ≤ 2 :=
    (Nat.length_toDigits_le_iff (by decide) (by decide)).mpr small
  rw [cell, length_hex]
  omega

theorem space_not_mem_cell : ' ' ∉ cell byte := fun space =>
  forall_mem_hex (P := (· ≠ ' ')) (by decide) 2 byte ' ' space rfl

theorem cells_cons (byte next : Nat) (row : List Nat) :
    cells (byte :: next :: row) = cell byte ++ ' ' :: cells (next :: row) := by
  unfold cells
  rw [List.map_cons, List.map_cons, List.intercalate_cons_cons, List.append_assoc]
  rfl

theorem length_cells (filled : row ≠ []) (small : ∀ b ∈ row, b < 256) :
    (cells row).length + 1 = 3 * row.length := by
  induction row with
  | nil => exact absurd rfl filled
  | cons byte row ih =>
    rw [List.forall_mem_cons] at small
    have two := length_cell small.1
    cases row with
    | nil =>
      rw [cells, List.map_singleton, List.intercalate_singleton, two]
      rfl
    | cons next row =>
      have rest := ih (List.cons_ne_nil next row) small.2
      rw [cells_cons, List.length_append, List.length_cons, two, List.length_cons]
      omega

theorem readByte?_cell (small : byte < 256) : readByte? (cell byte) = some byte := by
  rw [readByte?, if_pos (length_cell small)]
  exact readNumeral?_of_digits (by decide) (digits_hex 2 byte)

theorem mapM_readByte? (small : ∀ b ∈ row, b < 256) : (row.map cell).mapM readByte? = some row := by
  induction row with
  | nil => rfl
  | cons byte row ih =>
    rw [List.forall_mem_cons] at small
    rw [List.map_cons, List.mapM_cons, readByte?_cell small.1, ih small.2]
    rfl

theorem filter_splitOn_padded (text : List Char) (fill : Nat) :
    ((text ++ List.replicate fill ' ').splitOn ' ').filter (!·.isEmpty) =
      (text.splitOn ' ').filter (!·.isEmpty) := by
  induction fill generalizing text with
  | zero => rw [List.replicate_zero, List.append_nil]
  | succ fill ih =>
    -- One more space cuts off one more empty piece.
    have cut : text.splitOn ' ' ++ [[]] = (text ++ [' ']).splitOn ' ' :=
      (List.splitOnP_append_cons (p := (· == ' ')) text [] rfl).symm
    rw [List.replicate_succ, ← List.singleton_append, ← List.append_assoc, ih, ← cut,
      List.filter_append]
    exact List.append_nil _

theorem readColumns?_cells (filled : row ≠ []) (small : ∀ b ∈ row, b < 256) (fill : Nat) :
    readColumns? (cells row ++ List.replicate fill ' ') = some row := by
  have spaceless : ∀ c ∈ row.map cell, ' ' ∉ c := by
    intro c member
    obtain ⟨byte, -, rfl⟩ := List.mem_map.mp member
    exact space_not_mem_cell
  have cut : (cells row).splitOn ' ' = row.map cell :=
    List.splitOn_intercalate ' ' spaceless (by simpa using filled)
  have full : (row.map cell).filter (!·.isEmpty) = row.map cell := by
    rw [List.filter_eq_self]
    intro c member
    obtain ⟨byte, -, rfl⟩ := List.mem_map.mp member
    rw [Bool.not_eq_true', List.isEmpty_eq_false_iff]
    exact (digits_hex 2 byte).ne_nil
  rw [readColumns?, filter_splitOn_padded, cut, full, mapM_readByte? small]

end Columns

/-! ### Lines -/

section Lines

variable {offset : Nat} {row : List Nat} {byte : Nat}

theorem stands_printable (byte : Nat) : Stands byte (printable byte) := by
  have ascii : ∀ b : Fin 127, (Char.ofNat b).toNat = b := by decide
  unfold Stands printable
  by_cases inside : 32 ≤ byte ∧ byte ≤ 126
  · rw [if_pos inside, if_pos (by omega)]
    exact ascii ⟨byte, by omega⟩
  · rw [if_neg inside, if_neg (by omega)]

theorem isLineBreak_of_stands {c : Char} (stands : Stands byte c) : isLineBreak c = false := by
  unfold Stands at stands
  split at stands
  · rename_i inside
    have breaks : lineBreaks.all (fun c => decide (c.toNat < 32 ∨ 126 < c.toNat)) = true := by
      decide
    rw [List.all_eq_true] at breaks
    rw [Bool.eq_false_iff]
    intro member
    have outside := of_decide_eq_true (breaks c (List.contains_iff_mem.mp member))
    omega
  · rw [stands]
    rfl

theorem toList_bytesRow (offset : Nat) (row : List Nat) :
    (bytesRow offset row).toList = (hex 4 offset).toList ++ ':' :: ' ' ::
      ((cells row ++ List.replicate (48 - (cells row).length) ' ') ++
        ' ' :: row.map printable) := by
  have joined : (" ".intercalate (row.map (hex 2))).toList = cells row := by
    rw [String.toList_intercalate, List.map_map]
    rfl
  have width : (" ".intercalate (row.map (hex 2))).length = (cells row).length := by
    rw [← joined, String.length_toList]
  simp [bytesRow, padEnd, joined, width]

theorem behindColon_append {digits : List Char} (free : ':' ∉ digits) (rest : List Char) :
    behindColon (digits ++ ':' :: ' ' :: rest) = rest := by
  induction digits with
  | nil => rfl
  | cons c digits ih =>
    rw [List.mem_cons, not_or] at free
    rw [List.cons_append, behindColon, if_neg fun here => free.1 here.1.symm, ih free.2]

theorem showsRow_bytesRow (filled : row ≠ []) (short : row.length ≤ 16)
    (small : ∀ b ∈ row, b < 256) : ShowsRow offset row (bytesRow offset row).toList := by
  have length := length_cells filled small
  have behind := behindColon_append
    (fun colon => forall_mem_hex (P := (· ≠ ':')) (by decide) 4 offset ':' colon rfl)
    ((cells row ++ List.replicate (48 - (cells row).length) ' ') ++ ' ' :: row.map printable)
  have wide : (cells row ++ List.replicate (48 - (cells row).length) ' ').length = 48 := by
    rw [List.length_append, List.length_replicate]
    omega
  rw [toList_bytesRow]
  refine ⟨⟨_, _, rfl, digits_hex 4 offset, length_hex 4 offset⟩, ?_, _, _, behind, wide, ?_⟩
  · rw [readLine?, behind, List.take_append_of_le_length (by omega),
      List.take_of_length_le (by omega), readColumns?_cells filled small]
  · rw [List.forall₂_map_right_iff]
    exact List.forall₂_same.mpr fun byte _ => stands_printable byte

theorem unbroken_bytesRow (offset : Nat) (row : List Nat) :
    ∀ c ∈ (bytesRow offset row).toList, isLineBreak c = false := by
  have hexadecimal := forall_mem_hex (P := (isLineBreak · = false)) (by decide)
  have colon : isLineBreak ':' = false := by decide
  have space : isLineBreak ' ' = false := by decide
  have written : ∀ c ∈ cells row, isLineBreak c = false := by
    intro c member
    rcases mem_intercalate member with rfl | ⟨cell, here, inside⟩
    · exact space
    · obtain ⟨byte, -, rfl⟩ := List.mem_map.mp here
      exact hexadecimal 2 byte c inside
  have shown : ∀ c ∈ row.map printable, isLineBreak c = false := by
    intro c member
    obtain ⟨byte, -, rfl⟩ := List.mem_map.mp member
    exact isLineBreak_of_stands (stands_printable byte)
  have fill : ∀ n, ∀ c ∈ List.replicate n ' ', isLineBreak c = false := by
    intro n c member
    rw [List.eq_of_mem_replicate member]
    exact space
  rw [toList_bytesRow]
  simp only [List.forall_mem_append, List.forall_mem_cons]
  exact ⟨hexadecimal 4 offset, colon, space, ⟨written, fill _⟩, space, shown⟩

end Lines

/-! ### Dumps -/

section Dumps

variable {data : List Nat}

/-- The lines of a dump. -/
def dumpLines (data : List Nat) : List (List Char) :=
  (bytesRowsFrom 0 (rowsOf data.length data)).map String.toList

theorem rowsOf_fields (small : ∀ b ∈ data, b < 256) {row : List Nat}
    (member : row ∈ rowsOf data.length data) :
    row ≠ [] ∧ row.length ≤ 16 ∧ ∀ b ∈ row, b < 256 := by
  rw [rowsOf_eq (by omega)] at member
  obtain ⟨j, inside, rfl⟩ := List.mem_map.mp member
  rw [List.mem_range] at inside
  refine ⟨?_, List.length_take_le _ _, ?_⟩
  · rw [← List.length_pos_iff, List.length_take, List.length_drop]
    omega
  · intro b here
    exact small b (List.mem_of_mem_drop (List.mem_of_mem_take here))

theorem dumpLines_getElem? {j : Nat} {line : List Char} (here : (dumpLines data)[j]? = some line) :
    ∃ row ∈ rowsOf data.length data, row = (data.drop (16 * j)).take 16 ∧
      (bytesRow (16 * j) row).toList = line := by
  rw [dumpLines, bytesRowsFrom_eq, List.getElem?_map, List.getElem?_mapIdx, Nat.zero_add] at here
  obtain ⟨_, shown, rfl⟩ := Option.map_eq_some_iff.mp here
  obtain ⟨row, found, rfl⟩ := Option.map_eq_some_iff.mp shown
  refine ⟨row, List.mem_of_getElem? found, ?_, rfl⟩
  rw [rowsOf_eq (by omega), List.getElem?_map] at found
  obtain ⟨i, counted, rfl⟩ := Option.map_eq_some_iff.mp found
  obtain ⟨inside, rfl⟩ := List.getElem?_eq_some_iff.mp counted
  rw [List.getElem_range]

theorem readLines?_rows (offset : Nat) {rows : List (List Nat)}
    (each : ∀ row ∈ rows, row ≠ [] ∧ row.length ≤ 16 ∧ ∀ b ∈ row, b < 256) :
    ((bytesRowsFrom offset rows).map String.toList).mapM readLine? = some rows := by
  induction rows generalizing offset with
  | nil => rfl
  | cons row rows ih =>
    rw [List.forall_mem_cons] at each
    obtain ⟨⟨filled, short, small⟩, later⟩ := each
    rw [bytesRowsFrom, List.map_cons, List.mapM_cons,
      (showsRow_bytesRow filled short small).bytes, ih _ later]
    rfl

/-- No byte of a dump breaks a line, and every line has something on it. -/
theorem splitLines_bytes (data : List Nat) : splitLines (bytes data).toList = dumpLines data := by
  have newline : "\n".toList = ['\n'] := rfl
  have joined : (bytes data).toList = ['\n'].intercalate (dumpLines data) := by
    rw [bytes, String.toList_intercalate, newline]
    rfl
  have each : ∀ line ∈ dumpLines data, ∃ offset row, (bytesRow offset row).toList = line := by
    intro line member
    obtain ⟨j, here⟩ := List.mem_iff_getElem?.mp member
    obtain ⟨row, -, -, same⟩ := dumpLines_getElem? here
    exact ⟨_, row, same⟩
  have unbroken : ∀ line ∈ dumpLines data, ∀ c ∈ line, isLineBreak c = false := by
    intro line member
    obtain ⟨offset, row, rfl⟩ := each line member
    exact unbroken_bytesRow offset row
  rw [joined]
  -- Only an empty line at the end could be lost, and no line is empty.
  refine (splitLines_intercalate unbroken).resolve_right ?_
  intro cut
  have empty : [] ∈ dumpLines data := by
    rw [← cut]
    simp
  obtain ⟨offset, row, same⟩ := each [] empty
  rw [toList_bytesRow] at same
  exact absurd same (by simp)

/-- A dump of bytes has a line for each sixteen of them, and each line shows its row: where it
starts, its bytes, which are read back from the columns, and a character for each. -/
theorem integers_lossless (small : ∀ b ∈ data, b < 256) :
    ∃ text, integers (data.map Int.ofNat) = .ok text ∧
      let lines := splitLines text.toList
      text = "\n".intercalate (lines.map String.ofList) ∧
      lines.length = (data.length + 15) / 16 ∧
      readLines? lines = some data ∧
      ∀ j line, lines[j]? = some line →
        ShowsRow (16 * j) ((data.drop (16 * j)).take 16) line := by
  have checked : ((data.map Int.ofNat).all fun n => 0 ≤ n ∧ n < 256) = true := by
    simp only [List.all_map, List.all_eq_true, Function.comp_apply, decide_eq_true_eq]
    exact fun b member => ⟨Int.natCast_nonneg b, Int.ofNat_lt.mpr (small b member)⟩
  have same : (data.map Int.ofNat).map Int.toNat = data := by
    rw [List.map_map]
    exact List.map_id data
  have written : integers (data.map Int.ofNat) = .ok (bytes data) := by
    rw [integers, if_pos checked, same]
  refine ⟨bytes data, written, ?_⟩
  dsimp only
  rw [splitLines_bytes]
  refine ⟨?_, ?_, ?_, ?_⟩
  · have texts :
        (dumpLines data).map String.ofList = bytesRowsFrom 0 (rowsOf data.length data) := by
      rw [dumpLines, List.map_map]
      exact (List.map_congr_left fun text _ => String.ofList_toList).trans (List.map_id _)
    rw [texts, bytes]
  · rw [dumpLines, List.length_map, bytesRowsFrom_eq, List.length_mapIdx, rowsOf_eq (by omega),
      List.length_map, List.length_range]
  · rw [readLines?, dumpLines, readLines?_rows 0 fun row member => rowsOf_fields small member,
      Option.map_some, flatten_rowsOf (by omega)]
  · intro j line here
    obtain ⟨row, member, same, rfl⟩ := dumpLines_getElem? here
    obtain ⟨filled, short, small⟩ := rowsOf_fields small member
    rw [← same]
    exact showsRow_bytesRow filled short small

/-- Bytes that are a colon, a space and a line break in ASCII, on two lines. -/
theorem integers_lossless_colon :
    ∃ text, integers (([58, 32, 10, 255] ++ List.replicate 13 58).map Int.ofNat) = .ok text ∧
      let lines := splitLines text.toList
      text = "\n".intercalate (lines.map String.ofList) ∧ lines.length = 2 ∧
      readLines? lines = some ([58, 32, 10, 255] ++ List.replicate 13 58) ∧
      ∀ j line, lines[j]? = some line →
        ShowsRow (16 * j) ((([58, 32, 10, 255] ++ List.replicate 13 58).drop (16 * j)).take 16)
          line := by
  have small : ∀ b ∈ [58, 32, 10, 255] ++ List.replicate 13 58, b < 256 := by decide
  exact integers_lossless small

end Dumps

end DeskComputer.Dump
