import DeskComputer.Fault
import DeskComputer.Text.Digit

/-!
# Words

A word is eight binary digits, most significant first. `Entry.encodeByte` lays an entry out as the
number that its word writes, and `Word.decode` reads an instruction back from a word:

    00 11 r s   mv r, s
    00 code r   nop (code 0, r = 0) and the operations on one register (codes 1 to 11)
    01 00 r s   add r, s
    01 01 r s   sub r, s
    01 10 c r   jcnd c, r
    01 11 c r   jlnkcnd c, r
    10 o r b    ld r, o[b]
    11 o r b    st r, o[b]

Three words stand for no instruction: those of 1, 2 and 3.
-/

namespace DeskComputer

/-- The four bits that tell the operations on one register apart. -/
def UnaryOp.code : UnaryOp → Nat
  | .inc => 1
  | .dec => 2
  | .mvlnk => 3
  | .j => 4
  | .jlnk => 5
  | .input => 6
  | .output => 7
  | .lshft => 8
  | .rshft => 9
  | .and => 10
  | .set => 11

def UnaryOp.ofCode? (code : Nat) : Option UnaryOp := all.find? (·.code == code)

/-! ### Encoding -/

/-- A field's value, which has to fit in two bits. The message of a refusal shows the value, and
then the entry. -/
def Entry.field (e : Entry) (value : Int) : Except Fault Nat :=
  if 0 ≤ value ∧ value < 4 then .ok value.toNat
  else
    match Text.writeInteger? value with
    | none => .error .unwritable
    | some shown => .error (.ofDatum (.entry e) s!"field value {shown} does not fit in 2 bits")

/-- The number that an entry's word writes. -/
def Entry.encodeByte (e : Entry) : Except Fault Nat :=
  match e with
  | .data value => .ok (value % 256).toNat
  | .ref label => .error (.encoding (.entry e) s!"unresolved label '{label}'")
  | .mark _ => .error (.encoding (.entry e) "not an encodable entry")
  | .code .nop => .ok 0
  | .code (.unary op r) => do
    let r ← e.field r
    return op.code * 4 + r
  | .code (.pair op r s) => do
    let r ← e.field r
    let s ← e.field s
    let group := match op with
      | .mv => 48
      | .add => 64
      | .sub => 80
    return group + r * 4 + s
  | .code (.branch op c r) => do
    let c ← e.field c
    let r ← e.field r
    let group := match op with
      | .jcnd => 96
      | .jlnkcnd => 112
    return group + c * 4 + r
  | .code (.access op r b o) => do
    let o ← e.field o
    let r ← e.field r
    let b ← e.field b
    let group := match op with
      | .ld => 128
      | .st => 192
    return group + o * 16 + r * 4 + b

namespace Word

def digitAt (n place : Nat) : Char := if n.testBit place then '1' else '0'

def ofByte (n : Nat) : String := String.ofList ([7, 6, 5, 4, 3, 2, 1, 0].map (digitAt n))

def toByte (word : String) : Nat :=
  Text.ofDigits 2 (word.toList.map fun c => if c = '1' then 1 else 0)

end Word

/-- The word of an entry. The definition of a label has none. -/
def Entry.encode (e : Entry) : Except Fault (Option String) :=
  match e with
  | .mark _ => .ok none
  | _ => do return some (Word.ofByte (← e.encodeByte))

def encodeAll : List Entry → Except Fault (List String)
  | [] => .ok []
  | e :: entries => do
    let word? ← e.encode
    return word?.toList ++ (← encodeAll entries)

/-- The number that the word of an entry writes, where anything may stand for the entry. -/
def Datum.encodeByte : Datum → Except Fault Nat
  | .entry e => e.encodeByte
  | d => .error (.ofDatum d "not an encodable entry")

def Datum.encode : Datum → Except Fault (Option String)
  | .entry e => e.encode
  | d => .error (.ofDatum d "not an encodable entry")

/-! ### Decoding -/

def Instruction.ofByte? (n : Nat) : Option (Instruction (Fin 4)) :=
  let mid := n / 16 % 4
  let high := Fin.ofNat 4 (n / 4)
  let low := Fin.ofNat 4 n
  match n / 64 with
  | 0 =>
    if mid = 3 then some (.pair .mv high low)
    else if n / 4 = 0 then if n = 0 then some .nop else none
    else (UnaryOp.ofCode? (n / 4)).map (.unary · low)
  | 1 =>
    match mid with
    | 0 => some (.pair .add high low)
    | 1 => some (.pair .sub high low)
    | 2 => some (.branch .jcnd high low)
    | _ => some (.branch .jlnkcnd high low)
  | 2 => some (.access .ld high low (Fin.ofNat 4 mid))
  | _ => some (.access .st high low (Fin.ofNat 4 mid))

namespace Word

/-- The word that a datum is: eight binary digits, or a byte. -/
def bits (d : Datum) : Except Fault String :=
  match d with
  | .number n =>
    if 0 ≤ n ∧ n ≤ 255 then .ok (ofByte n.toNat)
    else .error (.ofDatum d "value out of 8-bit range")
  | .text s =>
    if s.length ≠ 8 then .error (.encoding d s!"expected 8 bits, got {s.length}")
    else if s.toList.all fun c => c = '0' || c = '1' then .ok s
    else .error (.encoding d "word contains non-binary characters")
  | _ => .error (.ofDatum d "words are 8-character bit strings")

/-- The number that a datum writes as a word. -/
def value (d : Datum) : Except Fault Nat := do return toByte (← bits d)

/-- The instruction that a datum stands for as a word. A datum that has a value can be shown. -/
def decode (d : Datum) : Except Fault (Instruction (Fin 4)) := do
  match Instruction.ofByte? (← value d) with
  | some inst => return inst
  | none => throw (.encoding d "nop has no register operand")

end Word

end DeskComputer
