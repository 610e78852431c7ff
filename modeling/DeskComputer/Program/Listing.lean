import DeskComputer.Program.Label
import DeskComputer.Text.Blank
import DeskComputer.Word

/-!
# Listings

How entries are listed: `Instruction.listed` in upper case, with the data word of a `set` beside it.
`listEntries` lists a program whose data words are known as such, and `disassemble` a list of words
in which only the word before a word tells whether it is data. `listing` adds slots, words and
labels.
-/

namespace DeskComputer

open Text (upperHex signedHex padEnd trimEnd)

/-- The letter of a condition; a negative code counts from the last. -/
def conditionLetter? (code : Int) : Option Char :=
  let letters := ['V', 'C', 'Z', 'N']
  let place := if code < 0 then code + 4 else code
  if 0 ≤ place then letters[place.toNat]? else none

/-- An instruction as it is listed. `operand` is the text of the data word of a `set`. -/
def Instruction.listed (inst : Instruction Int) (operand : Option String) : String :=
  let name := inst.opcode.mnemonic.toUpper
  match inst with
  | .nop => name
  | .unary .set r => s!"{name} R{r}, " ++ operand.getD "<imm>"
  | .unary _ r => s!"{name} R{r}"
  | .pair _ r s => s!"{name} R{r}, R{s}"
  | .branch _ c r => name ++ " " ++ ((conditionLetter? c).map toString).getD "" ++ s!", R{r}"
  | .access _ r b o => s!"{name} R{r}, -{o}[R{b}]"

/-- Why the condition of a conditional jump has no letter, if it has none. -/
def Instruction.conditionFault? : Instruction Int → Option Fault
  | .branch _ c _ =>
    if c < -indexLimit || indexLimit ≤ c then some .indexTooLarge
    else if (conditionLetter? c).isNone then some .noSuchCondition
    else none
  | _ => none

/-- An integer as it is listed. -/
def listInteger (n : Int) : Except Fault String :=
  match Text.writeInteger? n with
  | some shown => .ok shown
  | none => .error .unwritable

/-- An entry as it is listed. -/
def Entry.listed (e : Entry) (operand : Option String) : Except Fault String :=
  match e with
  | .data value => listInteger value
  | .ref label => .ok label
  | .mark name => .ok (name ++ ":")
  | .code inst =>
    match inst.conditionFault? with
    | some fault => .error fault
    | none =>
      if inst.fields.all Text.isWritable then .ok (inst.listed operand) else .error .unwritable

/-- An entry as it is listed, where anything may stand for it. -/
def Datum.listed (d : Datum) (operand : Option String) : Except Fault String :=
  match d with
  | .entry e => e.listed operand
  | d => .error (if d.isWritable then .notAnEntry d else .unwritable)

/-- Whether an entry can be a data word. -/
def Entry.isDataWord : Entry → Bool
  | .data _ | .ref _ => true
  | _ => false

/-- The text of the data word of a `set`, given the entries after it. -/
def listOperand : List Entry → Except Fault (Option String)
  | .data value :: _ => do return some (← listInteger value)
  | .ref label :: _ => .ok (some label)
  | _ => .ok none

/-- The entries of a program as they are listed, given whether the entry before them is a `set`
that has not shown its data word. The data word of a `set` is listed beside it and leaves its own
text empty. -/
def listEntriesAfter (afterSet : Bool) : List Entry → Except Fault (List String)
  | [] => .ok []
  | e :: entries =>
    if afterSet && e.isDataWord then do return "" :: (← listEntriesAfter false entries)
    else do
      let operand ← if e.isSet then listOperand entries else .ok none
      return (← e.listed operand) :: (← listEntriesAfter e.isSet entries)

def listEntries (entries : List Entry) : Except Fault (List String) :=
  listEntriesAfter false entries

/-! ### Disassembly -/

/-- A word of a program with what it stands for. -/
structure ListedWord where
  slot : Int
  word : String
  text : String
  isData : Bool
  deriving DecidableEq, Repr

def ListedWord.line (w : ListedWord) : String :=
  let text := if w.isData then s!".data {Word.toByte w.word}" else w.text
  signedHex 2 w.slot ++ ": " ++ w.word ++ "  " ++ text

/-- The words from a slot on with what they stand for, given whether the first of them is data. -/
def listWordsFrom (slot : Int) (isData : Bool) : List String → Except Fault (List ListedWord)
  | [] => .ok []
  | word :: words =>
    if isData then do
      return { slot, word, text := "", isData } :: (← listWordsFrom (slot + 1) false words)
    else do
      let inst := (← Word.decode (.text word)).widen
      let isSet := inst.opcode = .unary .set
      let operand := if isSet then words.head?.map fun w => toString (Word.toByte w) else none
      let text := inst.listed operand
      return { slot, word, text, isData } :: (← listWordsFrom (slot + 1) isSet words)

/-- The words of a program with what they stand for. Every word is checked before any is read. -/
def disassemble (words : List Datum) (start : Int) : Except Fault (List ListedWord) := do
  listWordsFrom start false (← words.mapM Word.bits)

/-! ### Whole listings -/

/-- The lines of a program: slot, word and text. -/
def programLines (slot : Nat) : List Entry → List String → Except Fault (List String)
  | e :: entries, text :: texts => do
    let word := (← e.encode).getD ""
    let line := upperHex 2 slot ++ "  " ++ word ++ "  " ++ text
    return String.ofList (trimEnd line.toList) :: (← programLines (slot + 1) entries texts)
  | _, _ => .ok []

/-- The lines of a label table, by slot. Labels of one slot keep their order. -/
def labelLines (table : LabelTable) : List String :=
  if table.isEmpty then []
  else
    let sorted := table.mergeSort fun a b => a.2 ≤ b.2
    "" :: "Labels:" :: sorted.map fun (name, slot) =>
      "  " ++ padEnd 16 name ++ " " ++ signedHex 2 slot

def listing (program : List Entry) (table : LabelTable) : Except Fault String := do
  let lines ← programLines 0 program (← listEntries program)
  return "\n".intercalate (lines ++ labelLines table)

end DeskComputer
