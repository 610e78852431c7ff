/-!
# Instructions and program entries

The instruction set has nineteen operations in five shapes. `Instruction φ` is an instruction whose
register, condition and offset fields have type `φ`: integers as entries hold them, where nothing
bounds them yet, and `Fin 4` once a word has been decoded. An `Entry` is what source text
contributes to a program.
-/

namespace DeskComputer

/-- Registers, conditions and offsets are numbered from zero to three. -/
instance neZero_four : @NeZero Nat Zero.ofOfNat0 4 := ⟨Nat.succ_ne_zero 3⟩

inductive UnaryOp where
  | inc | dec | mvlnk | j | jlnk | input | output | lshft | rshft | and | set
  deriving DecidableEq, Repr

inductive PairOp where
  | mv | add | sub
  deriving DecidableEq, Repr

/-- The conditional jumps, through a register. -/
inductive BranchOp where
  | jcnd | jlnkcnd
  deriving DecidableEq, Repr

inductive AccessOp where
  | ld | st
  deriving DecidableEq, Repr

/-- An operation, by its shape. -/
inductive Opcode where
  | nop
  | unary (op : UnaryOp)
  | pair (op : PairOp)
  | branch (op : BranchOp)
  | access (op : AccessOp)
  deriving DecidableEq, Repr

def UnaryOp.mnemonic : UnaryOp → String
  | .inc => "inc"
  | .dec => "dec"
  | .mvlnk => "mvlnk"
  | .j => "j"
  | .jlnk => "jlnk"
  | .input => "in"
  | .output => "out"
  | .lshft => "lshft"
  | .rshft => "rshft"
  | .and => "and"
  | .set => "set"

def PairOp.mnemonic : PairOp → String
  | .mv => "mv"
  | .add => "add"
  | .sub => "sub"

def BranchOp.mnemonic : BranchOp → String
  | .jcnd => "jcnd"
  | .jlnkcnd => "jlnkcnd"

def AccessOp.mnemonic : AccessOp → String
  | .ld => "ld"
  | .st => "st"

/-- An operation's name in source text, in lower case. -/
def Opcode.mnemonic : Opcode → String
  | .nop => "nop"
  | .unary op => op.mnemonic
  | .pair op => op.mnemonic
  | .branch op => op.mnemonic
  | .access op => op.mnemonic

def UnaryOp.all : List UnaryOp :=
  [.inc, .dec, .mvlnk, .j, .jlnk, .input, .output, .lshft, .rshft, .and, .set]

def Opcode.all : List Opcode :=
  .nop :: UnaryOp.all.map .unary ++ [.mv, .add, .sub].map .pair ++
    [.jcnd, .jlnkcnd].map .branch ++ [.ld, .st].map .access

def Opcode.ofMnemonic? (mnemonic : String) : Option Opcode :=
  all.find? (·.mnemonic == mnemonic)

/-- How many operands an operation has in source text. The data word of `set` counts as one. -/
def Opcode.arity : Opcode → Nat
  | .nop => 0
  | .unary .set => 2
  | .unary _ => 1
  | .pair _ => 2
  | .branch _ => 2
  | .access _ => 2

inductive Instruction (φ : Type) where
  | nop
  | unary (op : UnaryOp) (reg : φ)
  /-- The first register is the destination of `mv` and both operand and result otherwise. -/
  | pair (op : PairOp) (reg₁ reg₂ : φ)
  | branch (op : BranchOp) (cond reg : φ)
  /-- Reads or writes `reg` at the address in `base` less `offset`. -/
  | access (op : AccessOp) (reg base offset : φ)
  deriving DecidableEq, Repr

def Instruction.opcode {φ : Type} : Instruction φ → Opcode
  | .nop => .nop
  | .unary op _ => .unary op
  | .pair op _ _ => .pair op
  | .branch op _ _ => .branch op
  | .access op _ _ _ => .access op

/-- The fields of an instruction, in the order in which they are checked. -/
def Instruction.fields {φ : Type} : Instruction φ → List φ
  | .nop => []
  | .unary _ r => [r]
  | .pair _ r s => [r, s]
  | .branch _ c r => [c, r]
  | .access _ r b o => [o, r, b]

def Instruction.map {φ ψ : Type} (f : φ → ψ) : Instruction φ → Instruction ψ
  | .nop => .nop
  | .unary op r => .unary op (f r)
  | .pair op r s => .pair op (f r) (f s)
  | .branch op c r => .branch op (f c) (f r)
  | .access op r b o => .access op (f r) (f b) (f o)

/-- The instruction with its fields as plain integers. -/
def Instruction.widen (i : Instruction (Fin 4)) : Instruction Int :=
  i.map fun field => (field.val : Int)

/-- What source text contributes to a program. -/
inductive Entry where
  | code (inst : Instruction Int)
  | data (value : Int)
  /-- A data word that still names a label. -/
  | ref (label : String)
  /-- The definition of a label. It takes no slot. -/
  | mark (name : String)
  deriving DecidableEq, Repr

/-- The integers that an entry holds. -/
def Entry.integers : Entry → List Int
  | .code inst => inst.fields
  | .data value => [value]
  | .ref _ | .mark _ => []

def Entry.takesSlot : Entry → Bool
  | .mark _ => false
  | _ => true

/-- Whether an entry is a `set`, whose data word comes next. -/
def Entry.isSet : Entry → Bool
  | .code (.unary .set _) => true
  | _ => false

end DeskComputer
