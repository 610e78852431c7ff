/-!
# Written numbers

Numbers in a base, and text padded to a width. Widths count characters and never cut.
-/

namespace DeskComputer.Text

/-- The text with `fill` in front of it up to a width. -/
def padStart (width : Nat) (fill : Char) (text : String) : String :=
  String.ofList (List.replicate (width - text.length) fill ++ text.toList)

/-- The text with spaces after it up to a width. -/
def padEnd (width : Nat) (text : String) : String :=
  String.ofList (text.toList ++ List.replicate (width - text.length) ' ')

def hex (width n : Nat) : String := padStart width '0' (String.ofList (Nat.toDigits 16 n))

def upperHex (width n : Nat) : String :=
  padStart width '0' (String.ofList ((Nat.toDigits 16 n).map Char.toUpper))

/-- A signed number in upper-case hexadecimal. The sign counts as one of the `width` characters. -/
def signedHex (width : Nat) (n : Int) : String :=
  if n < 0 then "-" ++ upperHex (width - 1) n.natAbs else upperHex width n.natAbs

def binary (width n : Nat) : String := padStart width '0' (String.ofList (Nat.toDigits 2 n))

end DeskComputer.Text
