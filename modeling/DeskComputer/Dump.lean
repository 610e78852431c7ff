import DeskComputer.Machine.Basic
import DeskComputer.Text.Line

/-!
# Dumps

The state of a machine as text: a register table, a map of data memory, and the input and output
bytes in rows of sixteen.
-/

namespace DeskComputer.Dump

open Text (hex upperHex binary padStart padEnd)

/-- A list in rows of sixteen. The first argument bounds the number of rows. -/
def rowsOf {α : Type} : Nat → List α → List (List α)
  | 0, _ => []
  | _, [] => []
  | n + 1, items => items.take 16 :: rowsOf n (items.drop 16)

/-- The printable ASCII character of a byte, or a point. -/
def printable (byte : Nat) : Char :=
  if 32 ≤ byte ∧ byte < 127 then Char.ofNat byte else '.'

/-- A row of bytes: its offset, the bytes, and their characters. -/
def bytesRow (offset : Nat) (row : List Nat) : String :=
  hex 4 offset ++ ": " ++ padEnd 48 (" ".intercalate (row.map (hex 2))) ++ " " ++
    String.ofList (row.map printable)

/-- The rows of some bytes, from an offset on. -/
def bytesRowsFrom (offset : Nat) : List (List Nat) → List String
  | [] => []
  | row :: rows => bytesRow offset row :: bytesRowsFrom (offset + 16) rows

def bytes (data : List Nat) : String :=
  "\n".intercalate (bytesRowsFrom 0 (rowsOf data.length data))

/-- Integers in rows of sixteen. Every one has to be a byte. -/
def integers (data : List Int) : Except Fault String :=
  if data.all fun n => 0 ≤ n ∧ n < 256 then .ok (bytes (data.map Int.toNat)) else .error .notAByte

def registers (m : Machine) : String :=
  let row (value i : Nat) : String :=
    s!"R{i}   " ++ padStart 3 ' ' (toString value) ++ "  $" ++ upperHex 2 value ++ "  " ++
      binary 8 value
  "\n".intercalate
    ([s!"PC   {m.state.pc}", s!"LNK  {m.state.link}"] ++
      (m.state.registers.toList.zipIdx.map fun (value, i) => row value i) ++
      ["FLAG " ++ m.state.flags.letters])

/-- The rows of a map of memory, from an address on. -/
def memoryRowsFrom (address : Nat) : List (List Nat) → List String
  | [] => []
  | row :: rows =>
    (hex 2 address ++ "  " ++ " ".intercalate (row.map (hex 2))) ::
      memoryRowsFrom (address + 16) rows

/-- A map of memory: sixteen bytes in a row, at most sixteen rows. -/
def memoryMap (memory : List Nat) : String :=
  let header := "    " ++ " ".intercalate ((List.range 16).map fun i => " " ++ hex 1 i)
  "\n".intercalate (header :: memoryRowsFrom 0 (rowsOf 16 memory))

def titled (title body : String) : String :=
  let rule := String.ofList (List.replicate (60 - title.length) '─')
  String.join ["── ", title, " ", rule, "\n", body]

/-- Bytes as a section shows them. -/
def buffer (data : List Nat) : String := if data.isEmpty then "(empty)" else bytes data

def state (m : Machine) : String :=
  "\n\n".intercalate
    [titled "Registers" (registers m), titled "Memory Map" (memoryMap m.state.memory.toList),
      titled "Input Buffer" (buffer m.remaining), titled "Output" (buffer m.state.output.toList)]

end DeskComputer.Dump
