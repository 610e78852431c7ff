/-!
# Character classes as ranges of code points

`Ranges.contains` decides membership. The classes themselves are tables in the modules that use
them.
-/

namespace DeskComputer.Text

/-- A class of characters, as closed ranges of code points in increasing order. -/
abbrev Ranges := List (Nat × Nat)

def Ranges.contains (ranges : Ranges) (c : Char) : Bool :=
  ranges.any fun range => range.1 ≤ c.toNat && c.toNat ≤ range.2

end DeskComputer.Text
