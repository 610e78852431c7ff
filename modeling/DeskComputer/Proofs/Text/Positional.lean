import DeskComputer.Text.Digit
import Mathlib.Algebra.Group.Nat.Defs
import Mathlib.Data.List.Induction

/-!
# Positional numerals

The digits of a base write each number that fits into their count in one way only. `Digits` says
what they write from the left to the right, and a numeral is read as just that, in either letter
case.
-/

namespace DeskComputer.Text

variable {base : Nat}

/-! ### Digit values -/

theorem ofDigits_lt {values : List Nat} (h : ∀ v ∈ values, v < base) :
    ofDigits base values < base ^ values.length := by
  have folded : ∀ total, values.foldl (fun total value => total * base + value) total <
      (total + 1) * base ^ values.length := by
    induction values with
    | nil => intro total; simp
    | cons v values ih =>
      intro total
      have first : v < base := h v List.mem_cons_self
      have rest := ih (fun w hw => h w (List.mem_cons_of_mem _ hw)) (total * base + v)
      have scale : (total * base + v + 1) * base ^ values.length ≤
          (total + 1) * base * base ^ values.length := by
        apply Nat.mul_le_mul_right
        rw [Nat.add_mul, Nat.one_mul]
        omega
      rw [List.foldl_cons, List.length_cons, Nat.pow_succ', ← Nat.mul_assoc]
      omega
  have total := folded 0
  rw [Nat.zero_add, Nat.one_mul] at total
  exact total

theorem ofDigits_concat (base : Nat) (values : List Nat) (v : Nat) :
    ofDigits base (values ++ [v]) = ofDigits base values * base + v := by
  unfold ofDigits
  rw [List.foldl_append]
  rfl

/-- Of the numerals of one length no two have the same value. -/
theorem ofDigits_injective {first second : List Nat}
    (size : first.length = second.length) (small : ∀ v ∈ first, v < base)
    (small' : ∀ v ∈ second, v < base) (same : ofDigits base first = ofDigits base second) :
    first = second := by
  induction first using List.reverseRecOn generalizing second with
  | nil => exact (List.length_eq_zero_iff.mp size.symm).symm
  | append_singleton first v ih =>
    obtain rfl | ⟨second, w, rfl⟩ := List.eq_nil_or_concat second
    · simp at size
    rw [List.concat_eq_append] at size small' same ⊢
    have hv : v < base := small v (by simp)
    have hw : w < base := small' w (by simp)
    have positive : 0 < base := by omega
    rw [ofDigits_concat, ofDigits_concat] at same
    have last := congrArg (· % base) same
    have rest := congrArg (· / base) same
    simp only [Nat.mul_add_mod', Nat.mod_eq_of_lt hv, Nat.mod_eq_of_lt hw] at last
    simp only [Nat.mul_comm _ base, Nat.mul_add_div positive, Nat.div_eq_of_lt hv,
      Nat.div_eq_of_lt hw, Nat.add_zero] at rest
    rw [last, ih (by simpa using size) (fun u hu => small u (by simp [hu]))
      (fun u hu => small' u (by simp [hu])) rest]

/-! ### Digits -/

/-- Digits of a base, in lower case, and the number that they write. -/
inductive Digits (base : Nat) : List Char → Nat → Prop where
  | single {d : Nat} : d < base → Digits base [d.digitChar] d
  | append {digits : List Char} {n d : Nat} :
      Digits base digits n → d < base → Digits base (digits ++ [d.digitChar]) (n * base + d)

namespace Digits

variable {digits : List Char} {n : Nat}

theorem ne_nil (written : Digits base digits n) : digits ≠ [] := by
  cases written <;> simp

theorem zero_cons (positive : 0 < base) (written : Digits base digits n) :
    Digits base ('0' :: digits) n := by
  induction written with
  | @single d fits =>
    have whole := Digits.append (.single positive) fits
    rwa [Nat.zero_mul, Nat.zero_add] at whole
  | append _ fits ih => exact .append ih fits

/-- What holds of the digits of a base holds of all characters of a numeral. -/
theorem forall_mem {P : Char → Prop} (each : ∀ d < base, P d.digitChar)
    (written : Digits base digits n) : ∀ c ∈ digits, P c := by
  induction written with
  | single fits => simpa using each _ fits
  | append _ fits ih =>
    rw [List.forall_mem_append]
    exact ⟨ih, by simpa using each _ fits⟩

end Digits

theorem baseValue?_digitChar {v : Nat} (small : base ≤ 16) (fits : v < base) :
    baseValue? base v.digitChar = some v := by
  have values : ∀ v : Fin 16,
      ('0' ≤ v.val.digitChar ∧ v.val.digitChar ≤ '9') ∧ v.val.digitChar.toNat - 48 = v ∨
      ¬('0' ≤ v.val.digitChar ∧ v.val.digitChar ≤ '9') ∧
        ('a' ≤ v.val.digitChar ∧ v.val.digitChar ≤ 'f') ∧ v.val.digitChar.toNat - 97 + 10 = v := by
    decide
  unfold baseValue?
  dsimp only
  rcases values ⟨v, by omega⟩ with ⟨digit, value⟩ | ⟨other, letter, value⟩
  · rw [if_pos digit]
    exact (congrArg (fun w => if w < base then some w else none) value).trans (if_pos fits)
  · rw [if_neg other, if_pos letter]
    exact (congrArg (fun w => if w < base then some w else none) value).trans (if_pos fits)

theorem baseValue?_eq_some {v : Nat} {c : Char} (value : baseValue? base c = some v) :
    v < base ∧ c.toLower = v.digitChar := by
  -- The three rows of digits, each by its first code point.
  have rows : (∀ v : Fin 10, (Char.ofNat (48 + v)).toLower = v.val.digitChar) ∧
      (∀ v : Fin 6, (Char.ofNat (97 + v)).toLower = (v.val + 10).digitChar) ∧
      ∀ v : Fin 6, (Char.ofNat (65 + v)).toLower = (v.val + 10).digitChar := by
    decide
  have row : ∀ first size shift : Nat,
      (∀ v : Fin size, (Char.ofNat (first + v)).toLower = (v.val + shift).digitChar) →
      first ≤ c.toNat → c.toNat < first + size → c.toNat - first + shift = v →
      c.toLower = v.digitChar := by
    intro first size shift all low high same
    have here := all ⟨c.toNat - first, by omega⟩
    rwa [Nat.add_sub_cancel' low, Char.ofNat_toNat, same] at here
  unfold baseValue? at value
  dsimp only at value
  rw [Option.ite_none_right_eq_some, Option.some.injEq] at value
  obtain ⟨fits, same⟩ := value
  rw [same] at fits
  refine ⟨fits, ?_⟩
  split at same
  · rename_i digit
    exact row 48 10 0 rows.1 digit.1 (Nat.lt_succ_of_le digit.2) same
  · split at same
    · rename_i letter
      exact row 97 6 10 rows.2.1 letter.1 (Nat.lt_succ_of_le letter.2) same
    · split at same
      · rename_i capital
        exact row 65 6 10 rows.2.2 capital.1 (Nat.lt_succ_of_le capital.2) same
      · omega

theorem readNumeral?_concat (text : List Char) (c : Char) :
    readNumeral? base (text ++ [c]) = (baseValue? base c).bind fun v =>
      if text = [] then some v else (readNumeral? base text).map (· * base + v) := by
  unfold readNumeral? isNumeral
  cases value : baseValue? base c with
  | none => simp [value]
  | some v =>
    rw [List.filterMap_append, List.filterMap_cons_some value, List.filterMap_nil,
      ofDigits_concat, List.all_append]
    by_cases empty : text = []
    · simp [empty, value, ofDigits]
    · by_cases digits : text.all (fun c => (baseValue? base c).isSome) = true <;>
        simp [empty, value, digits]

/-- Digits of a base are read as the number that they write. -/
theorem readNumeral?_of_digits {digits : List Char} {n : Nat} (small : base ≤ 16)
    (written : Digits base digits n) : readNumeral? base digits = some n := by
  induction written with
  | single fits =>
    exact (readNumeral?_concat [] _).trans (by simp [baseValue?_digitChar small fits])
  | @append digits n d written fits ih =>
    have filled : digits ≠ [] := by
      rintro rfl
      cases ih
    simp [readNumeral?_concat, baseValue?_digitChar small fits, filled, ih]

theorem digits_of_readNumeral? {text : List Char} {n : Nat}
    (lowered : ∀ c ∈ text, c.toLower = c) (read : readNumeral? base text = some n) :
    Digits base text n := by
  induction text using List.reverseRecOn generalizing n with
  | nil => cases read
  | append_singleton text c ih =>
    rw [List.forall_mem_append, List.forall_mem_singleton] at lowered
    rw [readNumeral?_concat, Option.bind_eq_some_iff] at read
    obtain ⟨v, value, read⟩ := read
    obtain ⟨fits, same⟩ := baseValue?_eq_some value
    rw [← lowered.2, same]
    by_cases empty : text = []
    · rw [if_pos empty, Option.some.injEq] at read
      rw [empty, ← read]
      exact .single fits
    · rw [if_neg empty, Option.map_eq_some_iff] at read
      obtain ⟨m, front, rfl⟩ := read
      exact .append (ih lowered.1 front) fits

end DeskComputer.Text
