/-!
# Flags

The four condition flags. Nothing but a direct store sets the overflow flag.
-/

namespace DeskComputer

structure Flags where
  negative : Bool := false
  zero : Bool := false
  carry : Bool := false
  overflow : Bool := false
  deriving DecidableEq, Repr

namespace Flags

/-- The flags in the low four bits of an integer, overflow lowest. -/
def ofInt (bits : Int) : Flags where
  negative := bits / 8 % 2 = 1
  zero := bits / 4 % 2 = 1
  carry := bits / 2 % 2 = 1
  overflow := bits % 2 = 1

def toNat (f : Flags) : Nat :=
  f.negative.toNat * 8 + f.zero.toNat * 4 + f.carry.toNat * 2 + f.overflow.toNat

/-- Whether a condition holds: overflow, carry, zero and negative, by their codes. -/
def test (f : Flags) (condition : Fin 4) : Bool :=
  match condition with
  | 0 => f.overflow
  | 1 => f.carry
  | 2 => f.zero
  | 3 => f.negative

/-- The flags with zero and negative as a byte has them. -/
def setZN (f : Flags) (value : Nat) : Flags :=
  { f with zero := value = 0, negative := 128 ≤ value }

def letters (f : Flags) : String :=
  String.ofList
    [if f.negative then 'N' else '-', if f.zero then 'Z' else '-',
      if f.carry then 'C' else '-', if f.overflow then 'V' else '-']

end Flags

end DeskComputer
