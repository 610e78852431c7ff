import DeskComputer.Source.Operand
import DeskComputer.Text.Line

/-!
# Statements

A line of source is blank, a comment, a label definition `name:`, or a mnemonic with its operands.
Lines do not depend on each other: `parseSource` has one result for every line, and a line with a
problem stops no other. Only a numeral that is too long to convert stops them all.
-/

namespace DeskComputer.Source

open Text

def arityProblem (op : Opcode) (operands : List (List Char)) : Problem :=
  .arity op.mnemonic op.arity operands.length

/-- The entries of an operation applied to its operands, which are read in order, but for the
address of a memory access, which is read before the register. -/
def readStatement (op : Opcode) (operands : List (List Char)) : Except Refusal (List Entry) :=
  match op, operands with
  | .nop, [] => .ok [.code .nop]
  | .unary .set, [r, value] => do
    let r ← readRegister r
    return [.code (.unary .set r), ← readImmediate value]
  | .unary .set, operands => .error (.problem (arityProblem (.unary .set) operands))
  | .unary op, [r] => do return [.code (.unary op (← readRegister r))]
  | .pair op, [r, s] => do
    let r ← readRegister r
    return [.code (.pair op r (← readRegister s))]
  | .branch op, [c, r] => do
    let c ← readCondition c
    return [.code (.branch op c (← readRegister r))]
  | .access op, [r, address] => do
    let (offset, base) ← readAddress address
    return [.code (.access op (← readRegister r) base offset)]
  | op, operands => .error (.problem (arityProblem op operands))

def parseStatement (line : List Char) : Except Refusal (List Entry) :=
  if line.isEmpty || line.head? = some ';' then .ok []
  else if line.getLast? = some ':' then
    let name := trim line.dropLast
    if name.isEmpty then .error (.problem (.emptyLabel ""))
    else .ok [.mark (String.ofList (lower name))]
  else
    let word := firstWord line
    match Opcode.ofMnemonic? (String.ofList (lower word)) with
    | none => .error (.problem (.mnemonic (String.ofList word)))
    | some op => readStatement op (splitOperands (afterWord line))

/-- What a line of a file comes to: its entries, or a problem, located at the line with its text. -/
abbrev LineResult := Except Diagnostic (List Entry)

/-- What a line of a file comes to, unless a numeral in it is too long to convert. -/
def parseLine (text : String) (number : Int) (file : String) : Except Oversized LineResult :=
  match parseStatement (trim text.toList) with
  | .ok entries => .ok (.ok entries)
  | .error (.problem problem) =>
    .ok <| .error <| Diagnostic.locate { problem } { file, line := number }
      (some (String.ofList (dropNewlinesEnd text.toList)))
  | .error (.oversized numeral) => .error numeral

/-- A line of source with what it contributes to the program. -/
structure ParsedLine where
  number : Nat
  text : String
  result : LineResult

/-- The entries of a line; none if it failed. -/
def ParsedLine.entries (line : ParsedLine) : List Entry :=
  match line.result with
  | .ok entries => entries
  | .error _ => []

def ParsedLine.error? (line : ParsedLine) : Option Diagnostic :=
  match line.result with
  | .ok _ => none
  | .error d => some d

/-- The lines of a file from a line number on. -/
def parseLinesFrom (number : Nat) (file : String) :
    List (List Char) → Except Oversized (List ParsedLine)
  | [] => .ok []
  | line :: lines => do
    let text := String.ofList line
    let result ← parseLine text number file
    return { number, text, result } :: (← parseLinesFrom (number + 1) file lines)

def parseSource (source file : String) : Except Oversized (List ParsedLine) :=
  parseLinesFrom 1 file (splitLines source.toList)

end DeskComputer.Source
