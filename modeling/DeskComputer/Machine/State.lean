import DeskComputer.Machine.Flags
import DeskComputer.Word

/-!
# The state of the machine

Four registers, a link register, the flags, a program counter, 256 bytes of data memory, and input
and output bytes. `State.execute` is what an instruction does to it. Values are plain numbers; that
they stay bytes is a property of the operations.
-/

namespace DeskComputer

/-- Data memory has 256 places. -/
instance neZero_memory : @NeZero Nat Zero.ofOfNat0 256 := ⟨Nat.succ_ne_zero 255⟩

structure State where
  pc : Nat := 0
  link : Nat := 0
  registers : Vector Nat 4 := Vector.replicate 4 0
  flags : Flags := {}
  memory : Vector Nat 256 := Vector.replicate 256 0
  input : Array Nat := #[]
  /-- How much of the input has been read. -/
  inputPosition : Nat := 0
  output : Array Nat := #[]
  deriving DecidableEq

namespace State

def register (s : State) (r : Fin 4) : Nat := s.registers[r]

def setRegister (s : State) (r : Fin 4) (value : Nat) : State :=
  { s with registers := s.registers.set r value }

/-- The state with a register loaded and zero and negative set by it. -/
def load (s : State) (r : Fin 4) (value : Nat) : State :=
  { s.setRegister r value with flags := s.flags.setZN value }

def address (s : State) (base offset : Fin 4) : Fin 256 :=
  Fin.ofNat 256 (s.register base + 256 - offset)

def advance (s : State) : State := { s with pc := s.pc + 1 }

/-- The slot after the current one, the first slot coming after the last. -/
def nextSlot (s : State) (words : Array String) : Nat := (s.pc + 1) % words.size

/-- The input with its next byte read, and that byte; zero at the end of the input. -/
def readInput (s : State) : Nat × State :=
  match s.input[s.inputPosition]? with
  | some byte => (byte, { s with inputPosition := s.inputPosition + 1 })
  | none => (0, s)

def executeUnary (s : State) (words : Array String) (op : UnaryOp) (r : Fin 4) :
    Except Fault State :=
  let a := s.register r
  match op with
  | .inc =>
    let b := (a + 1) % 256
    let flags := { s.flags with zero := b = 0, carry := b = 0, negative := 128 ≤ b }
    .ok { s.setRegister r b with flags }.advance
  | .dec =>
    let b := (a + 255) % 256
    let flags := { s.flags with zero := b = 0, carry := b = 255, negative := 128 ≤ b }
    .ok { s.setRegister r b with flags }.advance
  | .mvlnk => .ok (s.setRegister r (s.link % 256)).advance
  | .j => .ok { s with pc := a }
  | .jlnk => .ok { s with link := s.nextSlot words, pc := a }
  | .input =>
    let (byte, s) := s.readInput
    .ok (s.load r byte).advance
  | .output => .ok { s with output := s.output.push a }.advance
  | .lshft => .ok (s.load r (a * 2 % 256)).advance
  | .rshft => .ok (s.load r (a / 2)).advance
  | .and =>
    let next := r + 1
    let b := a &&& s.register next
    let s := s.setRegister next b
    .ok { s with flags := { s.flags with zero := b = 0, negative := 128 ≤ a } }.advance
  | .set => do
    let value ← Word.value (.text (words[s.nextSlot words]?.getD ""))
    return { s.setRegister r value with pc := s.pc + 2 }

def executePair (s : State) (op : PairOp) (r₁ r₂ : Fin 4) : State :=
  let a := s.register r₁
  let b := s.register r₂
  match op with
  | .mv => (s.setRegister r₁ b).advance
  | .add =>
    let s := s.load r₁ ((a + b) % 256)
    { s with flags := { s.flags with carry := 256 ≤ a + b } }.advance
  | .sub =>
    let s := s.load r₁ ((a + 256 - b) % 256)
    { s with flags := { s.flags with carry := a < b } }.advance

def executeBranch (s : State) (words : Array String) (op : BranchOp) (condition r : Fin 4) :
    State :=
  if s.flags.test condition then
    match op with
    | .jcnd => { s with pc := s.register r }
    | .jlnkcnd => { s with link := s.nextSlot words, pc := s.register r }
  else { s with pc := s.nextSlot words }

def executeAccess (s : State) (op : AccessOp) (r base offset : Fin 4) : State :=
  let address := s.address base offset
  match op with
  | .ld => (s.load r (s.memory.get address)).advance
  | .st => { s with memory := s.memory.set address (s.register r) address.isLt }.advance

/-- What an instruction does, in a program of the given words. Only `set` can fail: its data word is
checked. -/
def execute (s : State) (words : Array String) : Instruction (Fin 4) → Except Fault State
  | .nop => .ok s.advance
  | .unary op r => s.executeUnary words op r
  | .pair op r₁ r₂ => .ok (s.executePair op r₁ r₂)
  | .branch op condition r => .ok (s.executeBranch words op condition r)
  | .access op r base offset => .ok (s.executeAccess op r base offset)

end State

end DeskComputer
