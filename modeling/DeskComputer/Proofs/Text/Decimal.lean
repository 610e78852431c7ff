import DeskComputer.Proofs.Text.Positional
import DeskComputer.Text.Case
import DeskComputer.Text.Integer
import Mathlib.Algebra.Group.Int.Defs

/-!
# Decimal numerals

A number is written in ASCII digits, without a leading zero but for zero itself, and its digits
write the number. It is short enough to be written if it is below a power of ten. ASCII text is put
into lower case character by character.
-/

namespace DeskComputer.Text

/-! ### Digits -/

def decimalDigits : List Char := ['0', '1', '2', '3', '4', '5', '6', '7', '8', '9']

theorem mem_decimalDigits {c : Char} (h : c.isDigit = true) : c ∈ decimalDigits := by
  have small : c.toNat - 48 < 10 ∧ 48 ≤ c.toNat := by
    simp only [Char.isDigit, Bool.and_eq_true, decide_eq_true_eq] at h
    have low : 48 ≤ c.val.toNat := h.1
    have high : c.val.toNat ≤ 57 := h.2
    exact ⟨by rw [Char.toNat]; omega, low⟩
  have all : ∀ d : Fin 10, Char.ofNat (48 + d) ∈ decimalDigits := by decide
  have here := all ⟨c.toNat - 48, small.1⟩
  rwa [Nat.add_sub_cancel' small.2, Char.ofNat_toNat] at here

/-- What holds of the ten digits holds of the digits of a number. -/
theorem forall_mem_toDigits {P : Char → Prop} [DecidablePred P]
    (all : decimalDigits.all (fun c => decide (P c)) = true) (n : Nat) :
    ∀ c ∈ Nat.toDigits 10 n, P c := by
  intro c hc
  have digit : c.isDigit = true := Nat.isDigit_of_mem_toDigits (by decide) (by decide) hc
  exact of_decide_eq_true (List.all_eq_true.mp all c (mem_decimalDigits digit))

/-- The digits of a number in a base are those below the base. -/
theorem exists_digitChar {base : Nat} (big : 1 < base) (n : Nat) :
    ∀ c ∈ Nat.toDigits base n, ∃ digit < base, c = Nat.digitChar digit := by
  induction n using Nat.strongRecOn with
  | ind n ih =>
    intro c inside
    by_cases single : n < base
    · rw [Nat.toDigits_of_lt_base single, List.mem_singleton] at inside
      exact ⟨n, single, inside⟩
    · rw [Nat.toDigits_of_base_le big (by omega), List.mem_append, List.mem_singleton] at inside
      rcases inside with before | last
      · exact ih (n / base) (Nat.div_lt_self (by omega) big) c before
      · exact ⟨n % base, Nat.mod_lt n (by omega), last⟩

theorem digits_toDigits {base : Nat} (big : 1 < base) (n : Nat) :
    Digits base (Nat.toDigits base n) n := by
  induction n using Nat.strongRecOn with
  | ind n ih =>
    by_cases single : n < base
    · rw [Nat.toDigits_of_lt_base single]
      exact .single single
    · have shorter := ih (n / base) (Nat.div_lt_self (by omega) big)
      have whole := shorter.append (Nat.mod_lt n (by omega))
      rw [Nat.div_add_mod'] at whole
      rwa [Nat.toDigits_of_base_le big (by omega)]

/-- Only zero is written with a zero in front. -/
theorem head?_toDigits {n : Nat} (positive : 0 < n) : (Nat.toDigits 10 n).head? ≠ some '0' := by
  induction n using Nat.strongRecOn with
  | ind n ih =>
    by_cases single : n < 10
    · rw [Nat.toDigits_of_lt_base single]
      simp
      omega
    · have shorter := ih (n / 10) (by omega) (by omega)
      have filled : Nat.toDigits 10 (n / 10) ≠ [] := Nat.toDigits_ne_nil
      obtain ⟨c, digits, same⟩ := List.exists_cons_of_ne_nil filled
      rw [Nat.toDigits_of_base_le (by decide) (by omega), same]
      rwa [same] at shorter

/-- Powers of ten are written with zeros. -/
theorem exists_toDigits_zeros (k : Nat) :
    ∃ n, 0 < n ∧ Nat.toDigits 10 n = '1' :: List.replicate k '0' := by
  induction k with
  | zero => exact ⟨1, by decide, rfl⟩
  | succ k ih =>
    obtain ⟨n, positive, same⟩ := ih
    refine ⟨10 * n + 0, by omega, ?_⟩
    rw [← Nat.toDigits_append_toDigits (by decide) positive (by decide), same,
      List.replicate_succ', List.cons_append]
    rfl

/-! ### The limit -/

theorem length_toDigits_le {base : Nat} (big : 1 < base) {n k : Nat} (some : 0 < k) :
    (Nat.toDigits base n).length ≤ k ↔ n < base ^ k := by
  induction k generalizing n with
  | zero => exact absurd some (Nat.lt_irrefl 0)
  | succ k ih =>
    by_cases single : n < base
    · have below : n < base ^ (k + 1) :=
        Nat.lt_of_lt_of_le single (Nat.le_self_pow (by omega) base)
      simp [Nat.toDigits_of_lt_base single, below]
    rw [Nat.toDigits_of_base_le big (by omega), List.length_append, List.length_singleton,
      Nat.add_le_add_iff_right]
    rcases Nat.eq_zero_or_pos k with rfl | more
    · have filled : Nat.toDigits base (n / base) ≠ [] := Nat.toDigits_ne_nil
      have longer := List.length_pos_iff.mpr filled
      rw [Nat.zero_add, Nat.pow_one]
      omega
    · rw [ih more, Nat.div_lt_iff_lt_mul (by omega), ← Nat.pow_succ]

theorem isWritable_iff {n : Int} : isWritable n = true ↔ n.natAbs < 10 ^ decimalLimit := by
  rw [isWritable, decide_eq_true_eq, length_toDigits_le (by decide) (by decide)]

theorem isWritable_small {n : Int} (small : n.natAbs < 1000) : isWritable n = true := by
  have below : 10 ^ 3 ≤ 10 ^ decimalLimit := Nat.pow_le_pow_right (by decide) (by decide)
  exact isWritable_iff.mpr (Nat.lt_of_lt_of_le small below)

/-- The least number that is too long to be written. -/
theorem isWritable_limit : isWritable (10 ^ decimalLimit) = false := by
  rw [← Bool.not_eq_true, isWritable_iff, Int.natAbs_pow, show (10 : Int).natAbs = 10 from rfl]
  exact Nat.lt_irrefl _

theorem lower_of_ascii {text : List Char} (ascii : ∀ c ∈ text, c.toNat < 0x80) :
    lower text = text.map lowerChar := by
  have placed : ∀ before : List Char, lowerAfter before text = text.map lowerChar := by
    induction text with
    | nil => intro before; rfl
    | cons c text ih =>
      intro before
      rw [List.forall_mem_cons] at ascii
      have sigma : c ≠ 'Σ' := by
        rintro rfl
        exact absurd ascii.1 (by decide)
      have dotted : c ≠ 'İ' := by
        rintro rfl
        exact absurd ascii.1 (by decide)
      rw [lowerAfter, lowerInPlace, if_neg sigma, if_neg dotted, ih ascii.2]
      rfl
  exact placed []

theorem lower_toDigits (n : Nat) : lower (Nat.toDigits 10 n) = Nat.toDigits 10 n := by
  have ascii : ∀ c ∈ Nat.toDigits 10 n, c.toNat < 0x80 := forall_mem_toDigits (by decide) n
  have kept : ∀ c ∈ Nat.toDigits 10 n, lowerChar c = c := forall_mem_toDigits (by decide) n
  rw [lower_of_ascii ascii]
  exact (List.map_congr_left kept).trans (List.map_id _)

end DeskComputer.Text
