import DeskComputer.Text.Blank
import DeskComputer.Text.Digit

/-!
# Integers as settings and options write them

An optional sign and decimal digits of any script, with single underscores between digits, and
spacing around the whole. The information separators are blanks but are not spacing here. Integers
with too many digits are neither read nor written.
-/

namespace DeskComputer.Text

/-- Whether a character may stand around an integer. -/
def isSpacing (c : Char) : Bool := isBlank c && !(0x1C ≤ c.toNat && c.toNat ≤ 0x1F)

/-- The values of the digits, which single underscores may separate. -/
def digitValues? : List Char → Option (List Nat)
  | [] => none
  | [c] => (decimalValue? c).map ([·])
  | c :: '_' :: rest => do return (← decimalValue? c) :: (← digitValues? rest)
  | c :: rest => do return (← decimalValue? c) :: (← digitValues? rest)

def readUnsignedInteger? (text : List Char) : Option Nat := do
  (ofDecimal (← digitValues? text)).toOption

def readInteger? (text : List Char) : Option Int :=
  let unpadded := ((text.dropWhile isSpacing).reverse.dropWhile isSpacing).reverse
  match unpadded with
  | '-' :: digits => (readUnsignedInteger? digits).map fun n => -(n : Int)
  | '+' :: digits => (readUnsignedInteger? digits).map fun n => (n : Int)
  | digits => (readUnsignedInteger? digits).map fun n => (n : Int)

/-- Whether an integer is short enough to be written in decimal. -/
def isWritable (n : Int) : Bool := (Nat.toDigits 10 n.natAbs).length ≤ decimalLimit

/-- An integer in decimal. -/
def writeInteger? (n : Int) : Option String := if isWritable n then some (toString n) else none

end DeskComputer.Text
