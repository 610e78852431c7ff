import DeskComputer.Instruction
import DeskComputer.Text.Integer
import DeskComputer.Text.Quoted

/-!
# Data

Whatever may be offered where a word or an entry is expected, or given as a detail of a fault.
`Datum.written` is the form in which messages show it, and `plainDetails` that of details which
are a message of their own. No message shows a datum with an integer that is too long to write
(`Datum.isWritable`).
-/

namespace DeskComputer

inductive Datum where
  | null
  | truth (value : Bool)
  | number (value : Int)
  | text (value : String)
  | entry (value : Entry)
  | list (items : List Datum)
  | record (fields : List (String × Datum))

open Text (quote)

/-- A value as messages show it: what kind of value it is, then its named parts. -/
def parts (kind : String) (named : List (String × String)) : String :=
  kind ++ "(" ++ ", ".intercalate (named.map fun (name, value) => name ++ "=" ++ value) ++ ")"

def Opcode.written (op : Opcode) : String :=
  String.join ["<Opcode.", op.mnemonic.toUpper, ": '", op.mnemonic, "'>"]

def Instruction.written (inst : Instruction Int) : String :=
  let op := ("op", inst.opcode.written)
  match inst with
  | .nop => parts "NoOperand" [op]
  | .unary _ r => parts "RegOperand" [op, ("reg", toString r)]
  | .pair _ r s => parts "RegPair" [op, ("reg1", toString r), ("reg2", toString s)]
  | .branch _ c r => parts "CondReg" [op, ("cnd", toString c), ("reg", toString r)]
  | .access _ r b o =>
    parts "MemAccess" [op, ("reg1", toString r), ("reg2", toString b), ("ofs", toString o)]

def Entry.written : Entry → String
  | .code inst => inst.written
  | .data value => parts "Immediate" [("value", toString value)]
  | .ref label => parts "LabelRef" [("label", quote label)]
  | .mark name => parts "LabelDef" [("name", quote name)]

mutual

def Datum.written : Datum → String
  | .null => "None"
  | .truth true => "True"
  | .truth false => "False"
  | .number n => toString n
  | .text s => quote s
  | .entry e => e.written
  | .list items => "[" ++ ", ".intercalate (writtenItems items) ++ "]"
  | .record fields => "\x7b" ++ ", ".intercalate (writtenFields fields) ++ "\x7d"

def Datum.writtenItems : List Datum → List String
  | [] => []
  | item :: items => item.written :: writtenItems items

def Datum.writtenFields : List (String × Datum) → List String
  | [] => []
  | (key, value) :: fields => (quote key ++ ": " ++ value.written) :: writtenFields fields

end

mutual

/-- The integers that stand anywhere in a datum. -/
def Datum.integers : Datum → List Int
  | .null | .truth _ | .text _ => []
  | .number n => [n]
  | .entry e => e.integers
  | .list items => itemIntegers items
  | .record fields => fieldIntegers fields

def Datum.itemIntegers : List Datum → List Int
  | [] => []
  | item :: items => item.integers ++ itemIntegers items

def Datum.fieldIntegers : List (String × Datum) → List Int
  | [] => []
  | (_, value) :: fields => value.integers ++ fieldIntegers fields

end

/-- Whether messages can show a datum. -/
def Datum.isWritable (d : Datum) : Bool := d.integers.all Text.isWritable

/-- A datum by itself: a text as it is, anything else as messages show it. -/
def Datum.plain : Datum → String
  | .text s => s
  | d => d.written

/-- Details by themselves: nothing, one datum, or several in parentheses. -/
def plainDetails : List Datum → String
  | [] => ""
  | [d] => d.plain
  | details => "(" ++ ", ".intercalate (details.map Datum.written) ++ ")"

end DeskComputer
