import DeskComputer.Text.Blank
import DeskComputer.Text.Digit
import DeskComputer.Text.WordChar

/-!
# Character classes

Classes whose ranges do not overlap have no character in common: blanks are neither decimal digits
nor word characters.
-/

namespace DeskComputer.Text

variable {ranges others : Ranges} {c : Char}

theorem Ranges.contains_iff :
    ranges.contains c = true ↔ ∃ range ∈ ranges, range.1 ≤ c.toNat ∧ c.toNat ≤ range.2 := by
  simp [Ranges.contains]

theorem Ranges.contains_eq_false
    (outside : ∀ range ∈ ranges, c.toNat < range.1 ∨ range.2 < c.toNat) :
    ranges.contains c = false := by
  rw [Bool.eq_false_iff]
  intro inside
  obtain ⟨range, member, low, high⟩ := contains_iff.mp inside
  have := outside range member
  omega

/-- Whether no range of one class overlaps one of another. -/
def Ranges.disjoint (ranges others : Ranges) : Bool :=
  ranges.all fun (low, high) => others.all fun (low', high') =>
    Nat.blt high low' || Nat.blt high' low

theorem Ranges.contains_of_disjoint (disjoint : ranges.disjoint others = true)
    (inside : ranges.contains c = true) : others.contains c = false := by
  simp only [Ranges.disjoint, List.all_eq_true, Bool.or_eq_true, Nat.blt_eq] at disjoint
  obtain ⟨range, member, low, high⟩ := contains_iff.mp inside
  apply contains_eq_false
  intro other member'
  have := disjoint range member other member'
  omega

theorem isWordChar_of_blank (blank : isBlank c = true) : isWordChar c = false :=
  Ranges.contains_of_disjoint (by decide +kernel) blank

theorem isBlank_of_decimal (decimal : isDecimal c = true) : isBlank c = false :=
  Ranges.contains_of_disjoint (by decide +kernel) decimal

theorem isDecimal_of_value {v : Nat} (value : decimalValue? c = some v) : isDecimal c = true := by
  unfold decimalValue? at value
  rw [Option.map_eq_some_iff] at value
  obtain ⟨range, found, -⟩ := value
  have inside := List.find?_some found
  rw [Bool.and_eq_true, decide_eq_true_eq, decide_eq_true_eq] at inside
  exact Ranges.contains_iff.mpr ⟨range, List.mem_of_find?_eq_some found, inside⟩

end DeskComputer.Text
