import DeskComputer.Proofs.Outcome
import DeskComputer.Source.Statement

/-!
# Alignment

Every line of source contributes a whole statement: nothing, a label definition, an instruction
whose fields fit, or a `set` with its data word right behind it (`Contribution`). So the entries of
a source are `Aligned`: data words stand behind a `set` and nowhere else.
-/

namespace DeskComputer

/-- What may stand behind a `set`: a byte, or a label for one. -/
def Entry.IsOperand : Entry → Prop
  | .data value => ∃ byte : Nat, value = byte ∧ byte < 256
  | .ref _ => True
  | _ => False

/-- What one line of source can contribute. -/
inductive Contribution : List Entry → Prop where
  | nothing : Contribution []
  | mark (name : String) : Contribution [.mark name]
  | plain (inst : Instruction (Fin 4)) :
      inst.opcode ≠ .unary .set → Contribution [.code inst.widen]
  | set {r : Fin 4} {operand : Entry} :
      operand.IsOperand → Contribution [.code (Instruction.unary .set r).widen, operand]

/-- Entries that are whole statements. -/
inductive Aligned : List Entry → Prop where
  | nil : Aligned []
  | mark {name : String} {rest : List Entry} : Aligned rest → Aligned (.mark name :: rest)
  | plain {inst : Instruction (Fin 4)} {rest : List Entry} :
      inst.opcode ≠ .unary .set → Aligned rest → Aligned (.code inst.widen :: rest)
  | set {r : Fin 4} {operand : Entry} {rest : List Entry} :
      operand.IsOperand → Aligned rest →
      Aligned (.code (Instruction.unary .set r).widen :: operand :: rest)

namespace Contribution

variable {entries : List Entry}

theorem aligned (h : Contribution entries) : Aligned entries := by
  cases h with
  | nothing => exact .nil
  | mark name => exact .mark .nil
  | plain inst other => exact .plain other .nil
  | set operand => exact .set operand .nil

theorem eq_mark (h : Contribution entries) {name : String} (marked : .mark name ∈ entries) :
    entries = [.mark name] := by
  cases h with
  | nothing => cases marked
  | mark defined =>
    obtain rfl : name = defined := Entry.mark.inj (List.mem_singleton.mp marked)
    rfl
  | plain inst other => cases List.mem_singleton.mp marked
  | set operand =>
    rcases List.mem_cons.mp marked with same | later
    · cases same
    · obtain rfl := List.mem_singleton.mp later
      cases operand

theorem find?_eq_none (h : Contribution entries) (free : entries.find? Entry.takesSlot = none) :
    entries = [] ∨ ∃ name, entries = [.mark name] := by
  cases h with
  | nothing => exact .inl rfl
  | mark name => exact .inr ⟨name, rfl⟩
  | plain inst other => cases free
  | set operand => cases free

/-- The first slot of a line is that of an instruction. -/
theorem find?_eq_some (h : Contribution entries) {e : Entry}
    (found : entries.find? Entry.takesSlot = some e) :
    entries.head? = some e ∧ ∃ inst : Instruction (Fin 4), e = .code inst.widen := by
  cases h with
  | nothing => cases found
  | mark name => cases found
  | plain inst other =>
    cases found
    exact ⟨rfl, inst, rfl⟩
  | @set r operand fits =>
    cases found
    exact ⟨rfl, .unary .set r, rfl⟩

end Contribution

namespace Aligned

theorem append {first second : List Entry} (h : Aligned first) (h' : Aligned second) :
    Aligned (first ++ second) := by
  induction h with
  | nil => exact h'
  | mark _ ih => exact .mark ih
  | plain other _ ih => exact .plain other ih
  | set operand _ ih => exact .set operand ih

theorem flatten {lines : List (List Entry)} (h : ∀ line ∈ lines, Aligned line) :
    Aligned lines.flatten := by
  induction lines with
  | nil => exact .nil
  | cons line lines ih =>
    rw [List.flatten_cons]
    exact (h line List.mem_cons_self).append (ih fun l hl => h l (List.mem_cons_of_mem _ hl))

end Aligned

namespace Source

theorem readImmediate_operand {token : List Char} {e : Entry} (h : readImmediate token = .ok e) :
    e.IsOperand := by
  unfold readImmediate at h
  dsimp only at h
  split at h
  · cases h
  · obtain ⟨number?, -, h⟩ := bind_ok.mp h
    cases number? with
    | none =>
      obtain rfl := pure_ok.mp h
      exact trivial
    | some n =>
      obtain rfl := pure_ok.mp h
      exact ⟨(n % 256).toNat, by omega, by omega⟩

theorem readStatement_contribution {op : Opcode} {operands : List (List Char)}
    {entries : List Entry} (h : readStatement op operands = .ok entries) :
    Contribution entries := by
  unfold readStatement at h
  split at h
  · cases h
    exact .plain .nop (by decide)
  · obtain ⟨r, -, h⟩ := bind_ok.mp h
    obtain ⟨operand, read, h⟩ := bind_ok.mp h
    obtain rfl := pure_ok.mp h
    exact .set (readImmediate_operand read)
  · cases h
  · rename_i op token other
    obtain ⟨r, -, h⟩ := bind_ok.mp h
    obtain rfl := pure_ok.mp h
    have plain : (Instruction.unary op r).opcode ≠ .unary .set := by
      intro same
      exact other (Opcode.unary.inj same)
    exact .plain _ plain
  · obtain ⟨r, -, h⟩ := bind_ok.mp h
    obtain ⟨s, -, h⟩ := bind_ok.mp h
    obtain rfl := pure_ok.mp h
    exact .plain (.pair _ r s) (by simp [Instruction.opcode])
  · obtain ⟨c, -, h⟩ := bind_ok.mp h
    obtain ⟨r, -, h⟩ := bind_ok.mp h
    obtain rfl := pure_ok.mp h
    exact .plain (.branch _ c r) (by simp [Instruction.opcode])
  · obtain ⟨⟨offset, base⟩, -, h⟩ := bind_ok.mp h
    obtain ⟨r, -, h⟩ := bind_ok.mp h
    obtain rfl := pure_ok.mp h
    exact .plain (.access _ r base offset) (by simp [Instruction.opcode])
  · cases h

theorem parseStatement_contribution {line : List Char} {entries : List Entry}
    (h : parseStatement line = .ok entries) : Contribution entries := by
  unfold parseStatement at h
  split at h
  · cases h
    exact .nothing
  · split at h
    · dsimp only at h
      split at h
      · cases h
      · cases h
        exact .mark _
    · dsimp only at h
      split at h
      · cases h
      · exact readStatement_contribution h

theorem parseLine_contribution {text file : String} {number : Int} {entries : List Entry}
    (h : parseLine text number file = .ok (.ok entries)) : Contribution entries := by
  unfold parseLine at h
  split at h
  · rename_i read
    cases h
    exact parseStatement_contribution read
  · cases h
  · cases h

theorem parseLinesFrom_contribution {number : Nat} {file : String} {texts : List (List Char)}
    {lines : List ParsedLine} (h : parseLinesFrom number file texts = .ok lines) :
    ∀ line ∈ lines, Contribution line.entries := by
  induction texts generalizing number lines with
  | nil =>
    cases h
    simp
  | cons text texts ih =>
    obtain ⟨result, parsed, h⟩ := bind_ok.mp h
    obtain ⟨rest, remaining, h⟩ := bind_ok.mp h
    obtain rfl := pure_ok.mp h
    intro line member
    rcases List.mem_cons.mp member with rfl | later
    · cases result with
      | error d => exact .nothing
      | ok entries => exact parseLine_contribution parsed
    · exact ih remaining line later

end Source

end DeskComputer
