import DeskComputer.Proofs.Outcome
import DeskComputer.Proofs.Text.Positional
import DeskComputer.Source.Operand

/-!
# Numerals in source text

A number is written in one of eight ways: decimal, octal with a leading zero, or in base 16, 2 or 8
with the letter of the base behind a leading zero or behind the digits. `Numeral` says this without
the order in which the reader tries them. Each numeral is read as its number, but for two kinds that
are refused, and nothing else is read.
-/

namespace DeskComputer.Source

open Text

/-- The unsigned numbers of source text, in lower case. -/
inductive Numeral : List Char → Nat → Prop where
  | decimal {digits : List Char} {n : Nat} :
      Digits 10 digits n → digits.head? ≠ some '0' → Numeral digits n
  /-- The digit zero alone is octal, too. -/
  | octal {digits : List Char} {n : Nat} : Digits 8 ('0' :: digits) n → Numeral ('0' :: digits) n
  | leading {letter : Char} {base : Nat} {digits : List Char} {n : Nat} :
      (letter, base) ∈ [('x', 16), ('b', 2), ('o', 8)] → Digits base digits n →
      Numeral ('0' :: letter :: digits) n
  | trailing {letter : Char} {base : Nat} {digits : List Char} {n : Nat} :
      (letter, base) ∈ [('h', 16), ('b', 2), ('o', 8)] → Digits base digits n →
      Numeral (digits ++ [letter]) n

/-- Whether a hexadecimal numeral with its base at the end starts like a binary one with its base at
the front. -/
def Shadowed (numeral : List Char) : Prop :=
  (∃ rest, numeral = '0' :: 'b' :: rest) ∧ numeral.getLast? = some 'h'

/-- Whether a numeral is decimal and has more digits than are converted. -/
def TooLong (numeral : List Char) : Prop :=
  (∀ c ∈ numeral, c.isDigit = true) ∧ numeral.head? ≠ some '0' ∧ decimalLimit < numeral.length

theorem mem_bases {letter hex : Char} {base : Nat} :
    (letter, base) ∈ [(hex, 16), ('b', 2), ('o', 8)] ↔
      letter = hex ∧ base = 16 ∨ letter = 'b' ∧ base = 2 ∨ letter = 'o' ∧ base = 8 := by
  simp

theorem le_of_mem_bases {letter hex : Char} {base : Nat}
    (announced : (letter, base) ∈ [(hex, 16), ('b', 2), ('o', 8)]) : base ≤ 16 := by
  have := mem_bases.mp announced
  omega

theorem leadingBase?_eq_some {letter : Char} {base : Nat} :
    leadingBase? letter = some base ↔ (letter, base) ∈ [('x', 16), ('b', 2), ('o', 8)] := by
  unfold leadingBase?
  split <;> simp_all [eq_comm]

theorem trailingBase?_eq_some {letter : Char} {base : Nat} :
    trailingBase? letter = some base ↔ (letter, base) ∈ [('h', 16), ('b', 2), ('o', 8)] := by
  unfold trailingBase?
  split <;> simp_all [eq_comm]

/-! ### How numerals are read -/

section Complete

variable {digits : List Char} {base n : Nat}

theorem readTrailing?_digits (small : base ≤ 10) (written : Digits base digits n) :
    readTrailing? digits = none := by
  have unmarked : ∀ d < 10, trailingBase? d.digitChar = none := by decide
  have each : ∀ c ∈ digits, trailingBase? c = none :=
    written.forall_mem fun d fits => unmarked d (by omega)
  have last := List.getLast?_eq_some_getLast written.ne_nil
  rw [readTrailing?, last]
  exact congrArg (· >>= fun base => readNumeral? base _) (each _ (List.mem_of_getLast? last))

theorem readLeading?_eq_none {text : List Char}
    (unmarked : ∀ letter rest, text = '0' :: letter :: rest → rest ≠ [] →
      leadingBase? letter = none) :
    readLeading? text = none := by
  unfold readLeading?
  split
  · rename_i letter d rest
    rw [unmarked letter (d :: rest) rfl (List.cons_ne_nil d rest), Option.map_none]
  · rfl

theorem readUnsigned_decimal (written : Digits 10 digits n) (positive : digits.head? ≠ some '0') :
    readUnsigned digits =
      if digits.length ≤ decimalLimit then .ok (some n) else .error ⟨digits.length⟩ := by
  have read := readNumeral?_of_digits (by decide) written
  unfold readNumeral? at read
  rw [Option.ite_none_right_eq_some, Option.some.injEq] at read
  have size : (digits.filterMap (baseValue? 10)).length = digits.length := by
    rw [List.length_filterMap_eq_countP, List.countP_eq_length]
    intro c member
    exact List.all_eq_true.mp (Bool.and_eq_true_iff.mp read.1).2 c member
  have unled : readLeading? digits = none :=
    readLeading?_eq_none fun letter rest same _ => absurd (congrArg List.head? same) positive
  rw [readUnsigned, unled, readTrailing?_digits (by decide) written]
  dsimp only
  rw [if_neg positive, if_pos read.1, ofDecimal, size, read.2]
  split <;> rfl

theorem readUnsigned_octal (written : Digits 8 ('0' :: digits) n) :
    readUnsigned ('0' :: digits) = .ok (some n) := by
  have unmarked : ∀ d < 8, leadingBase? d.digitChar = none := by decide
  have unled : readLeading? ('0' :: digits) = none := by
    apply readLeading?_eq_none
    rintro letter rest same -
    have each : ∀ c ∈ '0' :: digits, leadingBase? c = none := written.forall_mem unmarked
    exact each letter (by simp [same])
  rw [readUnsigned, unled, readTrailing?_digits (by decide) written]
  exact congrArg Except.ok (readNumeral?_of_digits (by decide) written)

theorem readUnsigned_leading {letter : Char}
    (announced : (letter, base) ∈ [('x', 16), ('b', 2), ('o', 8)])
    (written : Digits base digits n) :
    readUnsigned ('0' :: letter :: digits) = .ok (some n) := by
  have small := le_of_mem_bases announced
  obtain ⟨d, rest, rfl⟩ := List.exists_cons_of_ne_nil written.ne_nil
  have led : readLeading? ('0' :: letter :: d :: rest) = some (some n) := by
    rw [readLeading?, leadingBase?_eq_some.mpr announced, Option.map_some,
      readNumeral?_of_digits small written]
  rw [readUnsigned, led]

theorem readUnsigned_trailing {letter : Char}
    (announced : (letter, base) ∈ [('h', 16), ('b', 2), ('o', 8)]) (written : Digits base digits n)
    (plain : ¬Shadowed (digits ++ [letter])) :
    readUnsigned (digits ++ [letter]) = .ok (some n) := by
  have small := le_of_mem_bases announced
  have unled : readLeading? (digits ++ [letter]) = none := by
    apply readLeading?_eq_none
    intro second rest same filled
    obtain ⟨front, last, rfl⟩ := (List.eq_nil_or_concat rest).resolve_left filled
    rw [List.concat_eq_append] at same
    have split : digits ++ [letter] = ('0' :: second :: front) ++ [last] := same
    have member : second ∈ digits := by simp [(List.append_inj' split rfl).1]
    have other : second ≠ 'b' := by
      rintro rfl
      obtain ⟨rfl, rfl⟩ | ⟨-, rfl⟩ | ⟨-, rfl⟩ := mem_bases.mp announced
      · exact plain ⟨⟨_, same⟩, List.getLast?_concat⟩
      · exact written.forall_mem (P := (· ≠ 'b')) (by decide) 'b' member rfl
      · exact written.forall_mem (P := (· ≠ 'b')) (by decide) 'b' member rfl
    have unmarked : ∀ d < 16, d.digitChar ≠ 'b' → leadingBase? d.digitChar = none := by decide
    have each : ∀ c ∈ digits, c ≠ 'b' → leadingBase? c = none :=
      written.forall_mem fun d fits => unmarked d (by omega)
    exact each second member other
  have trailed : readTrailing? (digits ++ [letter]) = some n := by
    rw [readTrailing?, List.getLast?_concat, List.dropLast_concat]
    have := readNumeral?_of_digits small written
    simp [trailingBase?_eq_some.mpr announced, this]
  rw [readUnsigned, unled, trailed]

theorem readUnsigned_shadowed {numeral : List Char} (shadowed : Shadowed numeral) :
    readUnsigned numeral = .ok none := by
  obtain ⟨⟨rest, rfl⟩, last⟩ := shadowed
  obtain _ | ⟨d, rest⟩ := rest
  · cases last
  have unread : readNumeral? 2 (d :: rest) = none := by
    have member : 'h' ∈ d :: rest := List.mem_of_getLast? (by simpa using last)
    refine if_neg fun numeral => ?_
    have digit := List.all_eq_true.mp (Bool.and_eq_true_iff.mp numeral).2 'h' member
    exact absurd digit (by decide)
  have led : readLeading? ('0' :: 'b' :: d :: rest) = some none := congrArg some unread
  rw [readUnsigned, led]

variable {numeral : List Char}

theorem readUnsigned_tooLong (written : Numeral numeral n) (long : TooLong numeral) :
    readUnsigned numeral = .error ⟨numeral.length⟩ := by
  obtain ⟨digits, positive, size⟩ := long
  cases written with
  | decimal written _ => rw [readUnsigned_decimal written positive, if_neg (by omega)]
  | octal _ => exact absurd rfl positive
  | leading _ _ => exact absurd rfl positive
  | @trailing letter base front n announced written =>
    have digit : letter.isDigit = true := digits letter (by simp)
    obtain ⟨rfl, -⟩ | ⟨rfl, -⟩ | ⟨rfl, -⟩ := mem_bases.mp announced <;> cases digit

theorem readUnsigned_numeral (written : Numeral numeral n) (plain : ¬Shadowed numeral)
    (short : ¬TooLong numeral) : readUnsigned numeral = .ok (some n) := by
  cases written with
  | decimal written positive =>
    rw [readUnsigned_decimal written positive, if_pos]
    by_contra long
    exact short ⟨written.forall_mem (by decide), positive, by omega⟩
  | octal written => exact readUnsigned_octal written
  | leading announced written => exact readUnsigned_leading announced written
  | trailing announced written => exact readUnsigned_trailing announced written plain

theorem shadowed_of_readUnsigned (written : Numeral numeral n)
    (read : readUnsigned numeral = .ok none) : Shadowed numeral := by
  by_contra plain
  by_cases long : TooLong numeral
  · rw [readUnsigned_tooLong written long] at read
    cases read
  · rw [readUnsigned_numeral written plain long] at read
    cases read

theorem Numeral.ne_nil (written : Numeral numeral n) : numeral ≠ [] := by
  cases written with
  | decimal written _ => exact written.ne_nil
  | octal _ => exact List.cons_ne_nil _ _
  | leading _ _ => exact List.cons_ne_nil _ _
  | trailing _ _ => simp

theorem Numeral.forall_mem {P : Char → Prop} (digits : ∀ d < 16, P d.digitChar)
    (letters : P 'x' ∧ P 'o' ∧ P 'h') (written : Numeral numeral n) : ∀ c ∈ numeral, P c := by
  obtain ⟨x, o, h⟩ := letters
  cases written with
  | decimal written _ => exact written.forall_mem fun d fits => digits d (by omega)
  | octal written => exact written.forall_mem fun d fits => digits d (by omega)
  | leading announced written =>
    have small := mem_bases.mp announced
    rw [List.forall_mem_cons, List.forall_mem_cons]
    refine ⟨digits 0 (by decide), ?_, written.forall_mem fun d fits => digits d (by omega)⟩
    obtain ⟨rfl, -⟩ | ⟨rfl, -⟩ | ⟨rfl, -⟩ := small
    · exact x
    · exact digits 11 (by decide)
    · exact o
  | trailing announced written =>
    have small := mem_bases.mp announced
    rw [List.forall_mem_append, List.forall_mem_singleton]
    refine ⟨written.forall_mem fun d fits => digits d (by omega), ?_⟩
    obtain ⟨rfl, -⟩ | ⟨rfl, -⟩ | ⟨rfl, -⟩ := small
    · exact h
    · exact digits 11 (by decide)
    · exact o

end Complete

/-! ### Numbers that are read -/

section Sound

variable {text : List Char} {n : Nat}

theorem numeral_of_readLeading? (lowered : ∀ c ∈ text, c.toLower = c)
    (read : readLeading? text = some (some n)) : Numeral text n := by
  unfold readLeading? at read
  split at read
  · rename_i letter d digits
    rw [Option.map_eq_some_iff] at read
    obtain ⟨base, announced, read⟩ := read
    refine .leading (leadingBase?_eq_some.mp announced) (digits_of_readNumeral? ?_ read)
    exact fun c member => lowered c (by simp_all)
  · cases read

theorem numeral_of_readTrailing? (lowered : ∀ c ∈ text, c.toLower = c)
    (read : readTrailing? text = some n) : Numeral text n := by
  unfold readTrailing? at read
  simp only [Option.bind_eq_bind, Option.bind_eq_some_iff] at read
  obtain ⟨letter, last, base, announced, read⟩ := read
  obtain ⟨digits, rfl⟩ := List.getLast?_eq_some_iff.mp last
  rw [List.dropLast_concat] at read
  refine .trailing (trailingBase?_eq_some.mp announced) (digits_of_readNumeral? ?_ read)
  exact fun c member => lowered c (List.mem_append_left _ member)

theorem numeral_of_readUnsigned (lowered : ∀ c ∈ text, c.toLower = c)
    (read : readUnsigned text = .ok (some n)) : Numeral text n := by
  unfold readUnsigned at read
  split at read
  · rename_i number? led
    cases read
    exact numeral_of_readLeading? lowered led
  · split at read
    · rename_i m trailed
      cases read
      exact numeral_of_readTrailing? lowered trailed
    · split at read
      · rename_i zero
        obtain ⟨digits, rfl⟩ := List.head?_eq_some_iff.mp zero
        exact .octal (digits_of_readNumeral? lowered (Except.ok.inj read))
      · rename_i other
        split at read
        · rename_i digits
          have value : readNumeral? 10 text = some n := by
            unfold ofDecimal at read
            split at read
            · cases read
              exact if_pos digits
            · cases read
          exact .decimal (digits_of_readNumeral? lowered value) other
        · cases read

theorem tooLong_of_readUnsigned {o : Oversized} (lowered : ∀ c ∈ text, c.toLower = c)
    (read : readUnsigned text = .error o) :
    (∃ n, Numeral text n) ∧ TooLong text ∧ o = ⟨text.length⟩ := by
  have refused := read
  unfold readUnsigned at refused
  split at refused
  · cases refused
  · split at refused
    · cases refused
    · split at refused
      · cases refused
      · rename_i positive
        split at refused
        · rename_i numeral
          have written := digits_of_readNumeral? lowered (if_pos numeral)
          rw [readUnsigned_decimal written positive, ite_eq_iff] at read
          obtain ⟨-, none⟩ | ⟨long, same⟩ := read
          · cases none
          · exact ⟨⟨_, .decimal written positive⟩,
              ⟨written.forall_mem (by decide), positive, by omega⟩, (Except.error.inj same).symm⟩
        · cases refused

end Sound

end DeskComputer.Source
