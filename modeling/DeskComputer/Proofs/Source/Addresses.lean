import DeskComputer.Proofs.Source.Names
import DeskComputer.Proofs.Text.Positional

/-!
# Addresses in source text

An address is an offset and the name of a register in brackets. `addressParts?_eq` says what the
reader looks for, `Address` which tokens are addresses, and `Address.read` that these are read, if
their digits are not too many.
-/

namespace DeskComputer.Source

open Text

/-! ### Parts of an address -/

/-- The text of an address without the sign in front of it. -/
def unsigned (text : List Char) : List Char := if text.head? = some '-' then text.tail else text

section Parts

variable {token digits inner : List Char}

theorem addressParts?_eq_none
    (other : ∀ inner, (unsigned (trim token)).dropWhile isDecimal ≠ '[' :: inner) :
    addressParts? token = none := by
  unfold unsigned at other
  unfold addressParts?
  dsimp only
  split
  · rename_i inner same
    exact absurd same (other inner)
  · rfl

theorem addressParts?_eq (offset : (unsigned (trim token)).takeWhile isDecimal = digits)
    (behind : (unsigned (trim token)).dropWhile isDecimal = '[' :: inner) :
    addressParts? token =
      if !digits.isEmpty && !((trimStart inner).takeWhile isWordChar).isEmpty &&
          trimStart ((trimStart inner).dropWhile isWordChar) = [']'] then
        some (digits, (trimStart inner).takeWhile isWordChar)
      else none := by
  unfold unsigned at offset behind
  unfold addressParts?
  dsimp only
  rw [offset, behind]
  rfl

end Parts

/-! ### Written addresses -/

/-- An offset and the name of a register in brackets, with blanks around the name. -/
def bracketed (digits before name after : List Char) : List Char :=
  digits ++ '[' :: (before ++ (name ++ (after ++ [']'])))

/-- Tokens that write an address: a sign that says nothing, decimal digits of any script, and the
name of a register in brackets. The number counts the digits. -/
inductive Address (offset base : Fin 4) : List Char → Nat → Prop where
  | token {sign digits before name after : List Char} {values : List Nat} :
      sign = [] ∨ sign = ['-'] → digits ≠ [] → digits.map decimalValue? = values.map some →
      ofDigits 10 values = offset → (∀ c ∈ before, isBlank c = true) →
      NameOf registerNames base name → (∀ c ∈ after, isBlank c = true) →
      Address offset base (sign ++ bracketed digits before name after) digits.length

section Address

variable {sign digits before name after : List Char}

theorem getLast?_bracketed : (sign ++ bracketed digits before name after).getLast? = some ']' := by
  simp [bracketed, List.getLast?_append, List.getLast?_cons]

theorem whole_bracketed (signed : sign = [] ∨ sign = ['-'])
    (decimal : ∀ c ∈ digits, isDecimal c = true) (filled : digits ≠ [])
    (blank : ∀ c ∈ before, isBlank c = true) (plain : Plain name)
    (blank' : ∀ c ∈ after, isBlank c = true) :
    Whole (sign ++ bracketed digits before name after) := by
  have sign_uncut : Uncut sign := by
    rcases signed with rfl | rfl
    · exact .nil
    · exact .plain (by decide) (by decide) .nil
  have digits_uncut : Uncut digits := by
    refine .of_forall fun c member => ⟨?_, ?_⟩
    · rintro rfl
      exact absurd (decimal _ member) (by decide)
    · rintro rfl
      exact absurd (decimal _ member) (by decide)
  have bracket : Uncut [']'] := .plain (by decide) (by decide) .nil
  refine ⟨by simp [bracketed], trim_eq_self ?_ ?_, ?_⟩
  · obtain ⟨d, digits, rfl⟩ := List.exists_cons_of_ne_nil filled
    rcases signed with rfl | rfl
    · rintro c ⟨⟩
      exact isBlank_of_decimal (decimal d List.mem_cons_self)
    · rintro c ⟨⟩
      decide
  · rw [getLast?_bracketed]
    rintro c ⟨⟩
    decide
  · exact sign_uncut.append (digits_uncut.append (.plain (by decide) (by decide)
      (.append (.of_blank blank) (plain.uncut.append (.append (.of_blank blank') bracket)))))

theorem unsigned_bracketed (signed : sign = [] ∨ sign = ['-'])
    (decimal : ∀ c ∈ digits, isDecimal c = true) (filled : digits ≠ []) :
    unsigned (sign ++ bracketed digits before name after) = bracketed digits before name after := by
  rcases signed with rfl | rfl
  · apply if_neg
    obtain ⟨d, digits, rfl⟩ := List.exists_cons_of_ne_nil filled
    rintro ⟨⟩
    exact absurd (decimal '-' List.mem_cons_self) (by decide)
  · rfl

theorem addressParts?_bracketed (signed : sign = [] ∨ sign = ['-'])
    (decimal : ∀ c ∈ digits, isDecimal c = true) (filled : digits ≠ [])
    (blank : ∀ c ∈ before, isBlank c = true) (plain : Plain name)
    (word : ∀ c ∈ name, isWordChar c = true) (blank' : ∀ c ∈ after, isBlank c = true) :
    addressParts? (sign ++ bracketed digits before name after) = some (digits, name) := by
  obtain ⟨inner, inside⟩ : ∃ inner, inner = before ++ (name ++ (after ++ [']'])) := ⟨_, rfl⟩
  have text : unsigned (trim (sign ++ bracketed digits before name after)) =
      digits ++ '[' :: inner := by
    rw [(whole_bracketed signed decimal filled blank plain blank').trimmed,
      unsigned_bracketed signed decimal filled, inside, bracketed]
  have bracket : ∀ c ∈ ('[' :: inner).head?, isDecimal c = false := by
    rintro c ⟨⟩
    decide
  have opened : trimStart inner = name ++ (after ++ [']']) := by
    rw [inside, trimStart_of_blank blank]
    apply trimStart_of_head
    intro c first
    rw [List.head?_append, List.head?_eq_some_head plain.ne_nil, Option.some_or] at first
    cases first
    exact plain.unblank _ (List.head_mem plain.ne_nil)
  have ends : ∀ c ∈ (after ++ [']']).head?, isWordChar c = false := by
    intro c first
    cases after with
    | nil =>
      cases first
      decide +kernel
    | cons d after =>
      cases first
      exact isWordChar_of_blank (blank' _ List.mem_cons_self)
  have closed : trimStart (after ++ [']']) = [']'] := trimStart_of_blank blank' [']']
  have offset := takeWhile_run decimal bracket
  have behind := dropWhile_run decimal bracket
  rw [← text] at offset behind
  rw [addressParts?_eq offset behind, opened, takeWhile_run word ends, dropWhile_run word ends,
    closed, if_pos]
  simp [filled, plain.ne_nil]

end Address

namespace Address

variable {offset base : Fin 4} {token : List Char} {size : Nat}

theorem isDecimal_of_values {digits : List Char} {values : List Nat}
    (valued : digits.map decimalValue? = values.map some) : ∀ c ∈ digits, isDecimal c = true := by
  intro c member
  have here : decimalValue? c ∈ values.map some := valued ▸ List.mem_map_of_mem member
  obtain ⟨v, -, same⟩ := List.mem_map.mp here
  exact isDecimal_of_value same.symm

theorem whole (address : Address offset base token size) :
    Whole token ∧ token.getLast? ≠ some ':' := by
  cases address with
  | token signed filled valued _ blank named blank' =>
    rw [getLast?_bracketed]
    exact ⟨whole_bracketed signed (isDecimal_of_values valued) filled blank named.register.1 blank',
      by decide⟩

/-- An address is read unless it has too many digits. -/
theorem read (address : Address offset base token size) :
    readAddress token =
      if size ≤ decimalLimit then .ok (offset, base) else .error (.oversized ⟨size⟩) := by
  cases address with
  | @token sign digits before name after values signed filled valued value blank named blank' =>
    obtain ⟨plain, word, register⟩ := named.register
    have size : values.length = digits.length := by
      rw [← List.length_map some, ← valued, List.length_map]
    have each : digits.filterMap decimalValue? = (digits.map decimalValue?).filterMap id := by
      rw [List.filterMap_map]
      rfl
    have digit_values : digits.filterMap decimalValue? = values := by
      rw [each, valued, List.filterMap_map]
      exact List.filterMap_some
    unfold readAddress
    rw [addressParts?_bracketed signed (isDecimal_of_values valued) filled blank plain word blank']
    dsimp only
    rw [digit_values, ofDecimal, size, value]
    by_cases short : digits.length ≤ decimalLimit
    · rw [if_pos short, if_pos short]
      dsimp only
      rw [dif_pos offset.isLt, register]
      rfl
    · rw [if_neg short, if_neg short]

end Address

/-- A zero has as many leading zeros as one likes. -/
theorem address_zeros (k : Nat) :
    Address 0 1 (List.replicate (k + 1) '0' ++ ['[', 'r', '1', ']']) (k + 1) := by
  have none : ∀ c ∈ ([] : List Char), isBlank c = true := List.forall_mem_nil _
  have zero : ∀ n, ofDigits 10 (List.replicate n 0) = 0 := by
    intro n
    induction n with
    | zero => rfl
    | succ n ih => rw [List.replicate_succ', ofDigits_concat, ih]
  have values : (List.replicate (k + 1) '0').map decimalValue? =
      (List.replicate (k + 1) 0).map some := by
    rw [List.map_replicate, List.map_replicate]
    rfl
  have base : NameOf registerNames 1 ['r', '1'] := ⟨"r1", by decide, by decide⟩
  have written : Address 0 1 ([] ++ bracketed (List.replicate (k + 1) '0') [] ['r', '1'] [])
      (List.replicate (k + 1) '0').length :=
    .token (.inl rfl) (List.cons_ne_nil _ _) values (zero (k + 1)) none base none
  rwa [List.length_replicate] at written

end DeskComputer.Source
