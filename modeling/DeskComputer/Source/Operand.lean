import DeskComputer.Fault
import DeskComputer.Text.Blank
import DeskComputer.Text.Case
import DeskComputer.Text.Digit
import DeskComputer.Text.WordChar

/-!
# Operands

The operands of a statement: registers and conditions by name, numbers in several notations, quoted
characters, label names, and addresses `offset[base]`. `splitOperands` cuts the text after a
mnemonic at its commas. Names and notations are read in any letter case.
-/

namespace DeskComputer.Source

open Text

/-! ### Registers and conditions -/

def registerNames : List (String × Fin 4) :=
  [("r0", 0), ("a", 0), ("00", 0), ("r1", 1), ("b", 1), ("01", 1),
   ("r2", 2), ("c", 2), ("10", 2), ("fp", 2), ("r3", 3), ("d", 3), ("11", 3), ("sp", 3)]

/-- The names of the conditions, by the flag that they test. -/
def conditionNames : List (String × Fin 4) :=
  [("v", 0), ("00", 0), ("c", 1), ("01", 1), ("z", 2), ("10", 2), ("n", 3), ("11", 3)]

/-- A token in the form in which names are compared. -/
def nameKey (token : List Char) : String := String.ofList (lower (trim token))

def readRegister (token : List Char) : Except Problem (Fin 4) :=
  match registerNames.lookup (nameKey token) with
  | some r => .ok r
  | none => .error (.register (String.ofList token))

def readCondition (token : List Char) : Except Problem (Fin 4) :=
  match conditionNames.lookup (nameKey token) with
  | some c => .ok c
  | none => .error (.condition (String.ofList token))

/-! ### Numbers -/

/-- The base that a letter after a leading zero announces. -/
def leadingBase? : Char → Option Nat
  | 'x' => some 16
  | 'b' => some 2
  | 'o' => some 8
  | _ => none

/-- The base that a letter at the end announces. -/
def trailingBase? : Char → Option Nat
  | 'h' => some 16
  | 'b' => some 2
  | 'o' => some 8
  | _ => none

/-- The number that a text writes after `0x`, `0b` or `0o`; outer `none` if it does not start so. -/
def readLeading? : List Char → Option (Option Nat)
  | '0' :: letter :: d :: digits =>
    (leadingBase? letter).map fun base => readNumeral? base (d :: digits)
  | _ => none

/-- The number that a text writes before `h`, `b` or `o`. -/
def readTrailing? (text : List Char) : Option Nat := do
  let base ← trailingBase? (← text.getLast?)
  readNumeral? base text.dropLast

/-- The number that a lower-case text writes without a sign: after a leading base, before a trailing
one, in octal after a leading zero, or in decimal. Only decimal numerals can be too long. -/
def readUnsigned (text : List Char) : Except Oversized (Option Nat) :=
  match readLeading? text with
  | some number? => .ok number?
  | none =>
    match readTrailing? text with
    | some n => .ok (some n)
    | none =>
      if text.head? = some '0' then .ok (readNumeral? 8 text)
      else if isNumeral 10 text then some <$> ofDecimal (text.filterMap (baseValue? 10))
      else .ok none

/-- The character between single quotes. -/
def readQuoted? : List Char → Option Char
  | ['\'', c, '\''] => some c
  | _ => none

/-- The number that a token writes, or none if the token has to be a name. A token that starts like
a number and is none is refused. -/
def readNumber (token : List Char) : Except Refusal (Option Int) :=
  let token := trim token
  match readQuoted? token with
  | some c => .ok (some c.toNat)
  | none =>
    let text := lower token
    let negative := text.head? = some '-'
    let body := if negative then text.tail else text
    match readUnsigned body with
    | .error numeral => .error (.oversized numeral)
    | .ok (some n) => .ok (some (if negative then -(n : Int) else n))
    | .ok none =>
      if negative || body.head?.any isDigit then
        .error (.problem (.immediate (String.ofList token)))
      else .ok none

/-- The data word of `set`: a number reduced to a byte, or a label. -/
def readImmediate (token : List Char) : Except Refusal Entry := do
  let token := trim token
  if token.isEmpty then throw (.problem (.immediate ""))
  match ← readNumber token with
  | some n => return .data (n % 256)
  | none => return .ref (String.ofList (lower token))

/-! ### Addresses -/

/-- The digits before the bracket of an address, and the name within it. -/
def addressParts? (token : List Char) : Option (List Char × List Char) :=
  let text := trim token
  let unsigned := if text.head? = some '-' then text.tail else text
  let digits := unsigned.takeWhile isDecimal
  match unsigned.dropWhile isDecimal with
  | '[' :: inner =>
    let inner := trimStart inner
    let name := inner.takeWhile isWordChar
    if !digits.isEmpty && !name.isEmpty && trimStart (inner.dropWhile isWordChar) = [']'] then
      some (digits, name)
    else none
  | _ => none

def readAddress (token : List Char) : Except Refusal (Fin 4 × Fin 4) :=
  match addressParts? token with
  | none => .error (.problem (.address (String.ofList token) addressForm))
  | some (digits, name) =>
    match ofDecimal (digits.filterMap decimalValue?) with
    | .error numeral => .error (.oversized numeral)
    | .ok offset =>
      if h : offset < 4 then do return (⟨offset, h⟩, ← readRegister name)
      else
        let reason := s!"offset {offset} out of range 0-3"
        .error (.problem (.address (String.ofList token) reason))

/-! ### Splitting -/

/-- The text cut at its commas. A character between single quotes is copied with its quotes, a comma
too. `field` is what has been read of the current operand, last character first. -/
def cutAtCommas (field : List Char) : List Char → List (List Char)
  | [] => [field.reverse]
  | '\'' :: c :: '\'' :: rest => cutAtCommas ('\'' :: c :: '\'' :: field) rest
  | c :: rest =>
    if c = ',' then field.reverse :: cutAtCommas [] rest else cutAtCommas (c :: field) rest

/-- The operands of a text: what stands between its commas, trimmed, where that is not empty. -/
def splitOperands (text : List Char) : List (List Char) :=
  ((cutAtCommas [] text).map trim).filter (!·.isEmpty)

end DeskComputer.Source
