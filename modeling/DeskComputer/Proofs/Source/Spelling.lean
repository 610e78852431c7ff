import DeskComputer.Proofs.Source.Layout
import DeskComputer.Proofs.Source.Numbers

/-!
# Spelled statements

A line that spells a mnemonic and plain tokens with commas between them is read as that operation
applied to those tokens. Registers, conditions, addresses and decimal numbers are read from the
tokens that listings write for them.
-/

namespace DeskComputer.Source

open Text

/-! ### Spelled lines -/

/-- Tokens as they stand between commas: all but the first with a space before them. -/
def spaced : List (List Char) → List (List Char)
  | [] => []
  | token :: tokens => token :: tokens.map (' ' :: ·)

/-- A line that spells a name and tokens. -/
def spelled (name : List Char) : List (List Char) → List Char
  | [] => name
  | token :: tokens => name ++ ' ' :: [','].intercalate (spaced (token :: tokens))

section Spelled

variable {name : List Char} {tokens : List (List Char)}

theorem mem_spaced {field : List Char} (h : field ∈ spaced tokens) :
    ∃ t ∈ tokens, field = t ∨ field = ' ' :: t := by
  cases tokens with
  | nil => cases h
  | cons token tokens =>
    rw [spaced, List.mem_cons, List.mem_map] at h
    rcases h with rfl | ⟨t, member, rfl⟩
    · exact ⟨field, List.mem_cons_self, .inl rfl⟩
    · exact ⟨t, List.mem_cons_of_mem _ member, .inr rfl⟩

theorem mem_spelled {c : Char} (h : c ∈ spelled name tokens) :
    c = ' ' ∨ c = ',' ∨ c ∈ name ∨ ∃ t ∈ tokens, c ∈ t := by
  cases tokens with
  | nil => exact .inr (.inr (.inl h))
  | cons token tokens =>
    rw [spelled, List.mem_append, List.mem_cons] at h
    rcases h with here | rfl | joined
    · exact .inr (.inr (.inl here))
    · exact .inl rfl
    · rcases mem_intercalate joined with rfl | ⟨f, member, here⟩
      · exact .inr (.inl rfl)
      · obtain ⟨t, present, rfl | rfl⟩ := mem_spaced member
        · exact .inr (.inr (.inr ⟨f, present, here⟩))
        · rcases List.mem_cons.mp here with rfl | here
          · exact .inl rfl
          · exact .inr (.inr (.inr ⟨t, present, here⟩))

theorem spelled_unbroken (named : Plain name) (plain : ∀ t ∈ tokens, Plain t) :
    ∀ c ∈ spelled name tokens, isLineBreak c = false := by
  intro c hc
  rcases mem_spelled hc with rfl | rfl | here | ⟨t, member, here⟩
  · decide
  · decide
  · exact isLineBreak_of_unblank (named.unblank c here)
  · exact isLineBreak_of_unblank ((plain t member).unblank c here)

theorem laidOut_spelled : LaidOut name tokens (spelled name tokens) := by
  have none : ∀ c ∈ ([] : List Char), isBlank c = true := List.forall_mem_nil _
  have space : ∀ c ∈ [' '], isBlank c = true := List.forall_mem_singleton.mpr (by decide)
  have later : ∀ tokens : List (List Char), Fields (tokens.map (' ' :: ·)) tokens := by
    intro tokens
    induction tokens with
    | nil => exact .nil
    | cons token tokens ih =>
      have field : Fields (([' '] ++ (token ++ [])) :: _) _ := .token space none ih
      rwa [List.append_nil] at field
  cases tokens with
  | nil =>
    have line : LaidOut name [] _ := .line none none none (fun _ => rfl) .nil
    simpa [spelled] using line
  | cons token tokens =>
    have fields : Fields (spaced (token :: tokens)) (token :: tokens) := by
      have field : Fields (([] ++ (token ++ [])) :: _) _ := .token none none (later tokens)
      rwa [List.append_nil] at field
    have line : LaidOut name (token :: tokens) _ := .line none space none (by simp) fields
    rwa [List.append_nil] at line

theorem parseStatement_spelled {op : Opcode} (named : Plain name)
    (known : Opcode.ofMnemonic? (String.ofList (lower name)) = some op)
    (plain : ∀ t ∈ tokens, Plain t) :
    parseStatement (trim (spelled name tokens)) = readStatement op tokens :=
  parseStatement_laidOut named known laidOut_spelled (fun t member => (plain t member).whole)
    fun t member => (plain t member).unlabelled

end Spelled

/-! ### Written operands -/

def registerToken (r : Fin 4) : List Char := 'R' :: Nat.toDigits 10 r

def conditionToken (c : Fin 4) : List Char :=
  match c with
  | 0 => ['V']
  | 1 => ['C']
  | 2 => ['Z']
  | 3 => ['N']

def addressToken (offset base : Fin 4) : List Char :=
  '-' :: Nat.toDigits 10 offset ++ '[' :: registerToken base ++ [']']

theorem plain_registerToken (r : Fin 4) : Plain (registerToken r) := by
  revert r
  decide

theorem plain_conditionToken (c : Fin 4) : Plain (conditionToken c) := by
  revert c
  decide

theorem plain_addressToken (offset base : Fin 4) : Plain (addressToken offset base) := by
  revert offset base
  decide

theorem plain_toDigits (n : Nat) : Plain (Nat.toDigits 10 n) :=
  plain_iff.mpr ⟨Nat.toDigits_ne_nil, forall_mem_toDigits (by decide) n⟩

theorem readRegister_token (r : Fin 4) : readRegister (registerToken r) = .ok r := by
  match r with
  | 0 | 1 | 2 | 3 => rfl

theorem readCondition_token (c : Fin 4) : readCondition (conditionToken c) = .ok c := by
  match c with
  | 0 | 1 | 2 | 3 => rfl

theorem addressParts?_token (offset base : Fin 4) :
    addressParts? (addressToken offset base) =
      some (Nat.toDigits 10 offset, registerToken base) := by
  revert offset base
  decide +kernel

theorem readAddress_token (offset base : Fin 4) :
    readAddress (addressToken offset base) = .ok (offset, base) := by
  have value :
      ∀ o : Fin 4, ofDecimal ((Nat.toDigits 10 o).filterMap decimalValue?) = .ok o.val := by
    intro o
    match o with
    | 0 | 1 | 2 | 3 => rfl
  rw [readAddress, addressParts?_token]
  dsimp only
  rw [value]
  dsimp only
  rw [dif_pos offset.isLt, readRegister_token]
  rfl

section Numerals

/-- A numeral is read unless it has too many digits. -/
theorem readUnsigned_toDigits (n : Nat) :
    readUnsigned (Nat.toDigits 10 n) =
      if (Nat.toDigits 10 n).length ≤ decimalLimit then .ok (some n)
      else .error ⟨(Nat.toDigits 10 n).length⟩ := by
  by_cases positive : 0 < n
  · exact readUnsigned_decimal (digits_toDigits (by decide) n) (head?_toDigits positive)
  · obtain rfl : n = 0 := by omega
    rfl

theorem readNumber_toDigits (n : Nat) :
    readNumber (Nat.toDigits 10 n) =
      if (Nat.toDigits 10 n).length ≤ decimalLimit then .ok (some (n : Int))
      else .error (.oversized ⟨(Nat.toDigits 10 n).length⟩) := by
  have unmarked : ∀ c ∈ Nat.toDigits 10 n, c ≠ '\'' ∧ c ≠ '-' :=
    forall_mem_toDigits (by decide) n
  have unquoted : readQuoted? (Nat.toDigits 10 n) = none :=
    readQuoted?_unquoted fun member => (unmarked '\'' member).1 rfl
  have unsigned : (Nat.toDigits 10 n).head? ≠ some '-' :=
    fun first => (unmarked '-' (List.mem_of_head? first)).2 rfl
  have lowered : lower (Nat.toDigits 10 n) = signed false (Nat.toDigits 10 n) := lower_toDigits n
  rw [readNumber_eq (plain_toDigits n).trim unquoted lowered fun _ => unsigned,
    readUnsigned_toDigits]
  split
  · rfl
  · rfl

theorem readImmediate_toDigits (n : Nat) :
    readImmediate (Nat.toDigits 10 n) =
      if (Nat.toDigits 10 n).length ≤ decimalLimit then .ok (.data (n % 256 : Int))
      else .error (.oversized ⟨(Nat.toDigits 10 n).length⟩) := by
  have filled : trim (Nat.toDigits 10 n) ≠ [] := by
    rw [(plain_toDigits n).trim]
    exact Nat.toDigits_ne_nil
  rw [readImmediate_eq filled, readNumber_toDigits]
  split
  · rfl
  · rfl

end Numerals

/-- A data word that is written with too many digits makes its line unreadable. -/
theorem parseLine_oversized {n : Nat} (long : decimalLimit < (Nat.toDigits 10 n).length) (r : Fin 4)
    (number : Int) (file : String) :
    parseLine (String.ofList (spelled ['s', 'e', 't'] [registerToken r, Nat.toDigits 10 n]))
      number file = .error ⟨(Nat.toDigits 10 n).length⟩ := by
  have named : Plain ['s', 'e', 't'] := by decide
  have plain : ∀ t ∈ [registerToken r, Nat.toDigits 10 n], Plain t := by
    simp [plain_registerToken, plain_toDigits]
  have known : Opcode.ofMnemonic? (String.ofList (lower ['s', 'e', 't'])) = some (.unary .set) := by
    decide
  have refused : readStatement (.unary .set) [registerToken r, Nat.toDigits 10 n] =
      .error (.oversized ⟨(Nat.toDigits 10 n).length⟩) := by
    rw [readStatement, readRegister_token, readImmediate_toDigits, if_neg (by omega)]
    rfl
  rw [parseLine, String.toList_ofList, parseStatement_spelled named known plain, refused]

end DeskComputer.Source
