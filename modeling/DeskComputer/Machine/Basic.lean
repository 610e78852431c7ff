import DeskComputer.Codec
import DeskComputer.Machine.Breakpoints
import DeskComputer.Machine.State

/-!
# The machine

A `Machine` is loaded with a program by `reset` and executes one instruction at each `step`. After
a fault of `step` it is halted, and stays so until the next `reset`. Operations that can fail answer
with the machine that they leave.
-/

namespace DeskComputer

inductive Status where
  | unloaded
  /-- A program is loaded and nothing has been executed. -/
  | loaded
  | stepping
  | halted
  deriving DecidableEq, Repr

def Status.name : Status → String
  | .unloaded => "UNLOADED"
  | .loaded => "LOADED"
  | .stepping => "STEPPING"
  | .halted => "HALTED"

structure Machine where
  /-- How input text becomes bytes. -/
  codec : Codec := .utf8
  state : State := {}
  breakpoints : Breakpoints := {}
  /-- The program as it was given. -/
  program : List Entry := []
  words : Array String := #[]
  status : Status := .unloaded
  haltedBy : Option Fault := none
  stepCount : Nat := 0

namespace Machine

def withCodec (codecs : Codecs) (name : String) : Except Fault Machine := do
  return { codec := ← codecs name }

/-- Loads a program and its input and clears the state. The program is in place before the input is
encoded, so an input that the codec refuses leaves the new program with the old state. -/
def reset (m : Machine) (program : List Entry) (input : List Text.CodePoint) :
    Except Fault Unit × Machine :=
  match encodeAll program with
  | .error fault => (.error fault, m)
  | .ok words =>
    let m := { m with program, words := words.toArray }
    match m.codec.encode input with
    | .error fault => (.error fault, m)
    | .ok bytes =>
      (.ok (),
        { m with
          state := { input := bytes.toArray }
          status := .loaded
          haltedBy := none
          stepCount := 0
          breakpoints := { m.breakpoints with lastEvent := none } })

def halt (m : Machine) (fault : Fault) : Machine :=
  { m with status := .halted, haltedBy := some fault }

def haltedFault (m : Machine) : Fault :=
  match m.haltedBy with
  | some cause => .haltedBy cause
  | none => .halted

/-- Fetches, decodes and executes one instruction, and answers it. -/
def step (m : Machine) : Except Fault (Instruction (Fin 4)) × Machine :=
  if m.status = .halted then (.error m.haltedFault, m)
  else
    match m.words[m.state.pc]? with
    | none =>
      let fault := .outOfProgram m.state.pc m.words.size
      (.error fault, m.halt fault)
    | some word =>
      match Word.decode (.text word) with
      | .error fault => (.error fault, m.halt fault)
      | .ok inst =>
        match m.state.execute m.words inst with
        | .error fault => (.error fault, m)
        | .ok state =>
          (.ok inst, { m with state, status := .stepping, stepCount := m.stepCount + 1 })

/-! ### Inspection -/

def consumed (m : Machine) : List Nat := m.state.input.toList.take m.state.inputPosition

def remaining (m : Machine) : List Nat := m.state.input.toList.drop m.state.inputPosition

def isHalted (m : Machine) : Bool := m.status = .halted

def summary (m : Machine) : String :=
  let registers := m.state.registers.toList.zipIdx.map fun (value, i) =>
    s!"R{i}={Text.upperHex 2 value}"
  String.join
    ["Machine(status=", m.status.name, ", pc=", toString m.state.pc, ", lnk=",
      toString m.state.link, ", ", " ".intercalate registers, ", flags=",
      Text.binary 4 m.state.flags.toNat, ")"]

/-! ### Direct access -/

/-- Stores the low byte of a value in a register. Indices from −4 to −1 count from the last. -/
def setRegister (m : Machine) (index value : Int) : Except Fault Machine :=
  if -4 ≤ index ∧ index < 4 then
    .ok { m with state := m.state.setRegister (Fin.ofNat 4 (index % 4).toNat) (value % 256).toNat }
  else if index < -indexLimit || indexLimit ≤ index then .error .indexTooLarge
  else .error .noSuchRegister

def setFlags (m : Machine) (flags : Flags) : Machine :=
  { m with state := { m.state with flags } }

/-- The byte at an address, modulo the size of the memory. -/
def readByte (m : Machine) (address : Int) : Nat :=
  m.state.memory.get (Fin.ofNat 256 (address % 256).toNat)

/-- Stores the low byte of a value at an address, modulo the size of the memory. -/
def writeByte (m : Machine) (address value : Int) : Machine :=
  let place := Fin.ofNat 256 (address % 256).toNat
  { m with
    state := { m.state with memory := m.state.memory.set place (value % 256).toNat place.isLt } }

end Machine

end DeskComputer
