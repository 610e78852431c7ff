import DeskComputer.Proofs.Source.Layout
import DeskComputer.Proofs.Text.Classes
import DeskComputer.Proofs.Text.LetterCase

/-!
# Names in source text

Mnemonics, registers and conditions are called by names in any letter case, and registers and
conditions by several. A name is read whole wherever it stands, and as what it names.
-/

namespace DeskComputer

theorem Opcode.mem_all (op : Opcode) : op ∈ all := by
  cases op with
  | nop => decide
  | unary op => cases op <;> decide
  | pair op => cases op <;> decide
  | branch op => cases op <;> decide
  | access op => cases op <;> decide

namespace Source

open Text

variable {token : List Char}

/-- Whether a token is one of the names of a number, in any letter case. -/
def NameOf (names : List (String × Fin 4)) (i : Fin 4) (token : List Char) : Prop :=
  ∃ name, (name, i) ∈ names ∧ token.map Char.toLower = name.toList

/-- Whether a name is read whole, and is in lower case. -/
def legible (name : String) : Bool :=
  decide (Plain name.toList) && decide (lower name.toList = name.toList)

theorem isPlain_toLower (c : Char) : isPlain c.toLower = isPlain c :=
  toLower_kept (by decide) c

theorem plain_of_toLower (plain : Plain (token.map Char.toLower)) : Plain token := by
  have filled := plain.ne_nil
  have each := plain.forall_mem
  rw [Ne, List.map_eq_nil_iff] at filled
  rw [List.forall_mem_map] at each
  exact plain_iff.mpr ⟨filled, fun c member => (isPlain_toLower c).symm.trans (each c member)⟩

theorem legible_cased {name : String} (named : legible name = true)
    (cased : token.map Char.toLower = name.toList) :
    Plain token ∧ String.ofList (lower token) = name := by
  rw [legible, Bool.and_eq_true, decide_eq_true_eq, decide_eq_true_eq] at named
  refine ⟨plain_of_toLower (cased ▸ named.1), ?_⟩
  rw [← lower_toLower, cased, named.2, String.ofList_toList]

/-- Whether the names of a table are legible, made of word characters and found where they stand. -/
def legibleTable (names : List (String × Fin 4)) : Bool :=
  names.all fun (name, i) =>
    legible name && name.toList.all isWordChar && names.lookup name == some i

theorem legibleTable_registerNames : legibleTable registerNames = true := by decide +kernel

theorem legibleTable_conditionNames : legibleTable conditionNames = true := by decide +kernel

theorem NameOf.found {names : List (String × Fin 4)} {i : Fin 4}
    (table : legibleTable names = true) (named : NameOf names i token) :
    Plain token ∧ (∀ c ∈ token, isWordChar c = true) ∧ names.lookup (nameKey token) = some i := by
  obtain ⟨name, member, cased⟩ := named
  have entry := List.all_eq_true.mp table _ member
  simp only [Bool.and_eq_true, List.all_eq_true, beq_iff_eq] at entry
  obtain ⟨⟨readable, word⟩, here⟩ := entry
  obtain ⟨plain, lowered⟩ := legible_cased readable cased
  refine ⟨plain, fun c inside => ?_, ?_⟩
  · rw [← isWordChar_toLower]
    exact word _ (cased ▸ List.mem_map_of_mem inside)
  · rw [nameKey, plain.trim, lowered, here]

theorem NameOf.register {r : Fin 4} (named : NameOf registerNames r token) :
    Plain token ∧ (∀ c ∈ token, isWordChar c = true) ∧ readRegister token = .ok r := by
  obtain ⟨plain, word, here⟩ := named.found legibleTable_registerNames
  refine ⟨plain, word, ?_⟩
  rw [readRegister, here]

theorem NameOf.condition {c : Fin 4} (named : NameOf conditionNames c token) :
    Plain token ∧ readCondition token = .ok c := by
  obtain ⟨plain, -, here⟩ := named.found legibleTable_conditionNames
  refine ⟨plain, ?_⟩
  rw [readCondition, here]

theorem mnemonic_found (op : Opcode) (cased : token.map Char.toLower = op.mnemonic.toList) :
    Plain token ∧ Opcode.ofMnemonic? (String.ofList (lower token)) = some op := by
  have table : (Opcode.all.all fun op => legible op.mnemonic &&
      decide (Opcode.ofMnemonic? op.mnemonic = some op)) = true := by decide +kernel
  have entry := List.all_eq_true.mp table op op.mem_all
  rw [Bool.and_eq_true, decide_eq_true_eq] at entry
  obtain ⟨plain, lowered⟩ := legible_cased entry.1 cased
  exact ⟨plain, by rw [lowered, entry.2]⟩

end Source

end DeskComputer
