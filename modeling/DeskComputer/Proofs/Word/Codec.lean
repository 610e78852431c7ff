import DeskComputer.Proofs.Word.Binary

/-!
# Instructions as words

`Instruction.toByte` is the layout of an instruction whose fields have two bits each. Encoding
writes it, and decoding reads the instruction back; the bytes 1, 2 and 3 are the only ones that no
instruction has.
-/

namespace DeskComputer

/-- The byte of an instruction. -/
def Instruction.toByte : Instruction (Fin 4) → Nat
  | .nop => 0
  | .unary op r => op.code * 4 + r
  | .pair .mv r s => 48 + r * 4 + s
  | .pair .add r s => 64 + r * 4 + s
  | .pair .sub r s => 80 + r * 4 + s
  | .branch .jcnd c r => 96 + c * 4 + r
  | .branch .jlnkcnd c r => 112 + c * 4 + r
  | .access .ld r b o => 128 + o * 16 + r * 4 + b
  | .access .st r b o => 192 + o * 16 + r * 4 + b

theorem UnaryOp.code_bounds (op : UnaryOp) : 1 ≤ op.code ∧ op.code ≤ 11 := by
  cases op <;> decide

theorem Instruction.toByte_lt (inst : Instruction (Fin 4)) : inst.toByte < 256 := by
  cases inst with
  | nop => decide
  | unary op r =>
    have code := op.code_bounds
    simp only [toByte]
    omega
  | pair op r s => cases op <;> simp only [toByte] <;> omega
  | branch op c r => cases op <;> simp only [toByte] <;> omega
  | access op r b o => cases op <;> simp only [toByte] <;> omega

/-! ### Encoding -/

theorem Entry.field_fin (e : Entry) (f : Fin 4) : e.field (f.val : Int) = .ok f.val := by
  unfold field
  rw [if_pos (by omega), Int.toNat_natCast]

theorem Entry.encodeByte_code (inst : Instruction (Fin 4)) :
    (Entry.code inst.widen).encodeByte = .ok inst.toByte := by
  cases inst with
  | nop => rfl
  | unary op r =>
    simp only [Instruction.widen, Instruction.map, encodeByte, field_fin]
    rfl
  | pair op r s =>
    simp only [Instruction.widen, Instruction.map, encodeByte, field_fin]
    cases op <;> rfl
  | branch op c r =>
    simp only [Instruction.widen, Instruction.map, encodeByte, field_fin]
    cases op <;> rfl
  | access op r b o =>
    simp only [Instruction.widen, Instruction.map, encodeByte, field_fin]
    cases op <;> rfl

theorem Entry.encode_code (inst : Instruction (Fin 4)) :
    (Entry.code inst.widen).encode = .ok (some (Word.ofByte inst.toByte)) := by
  simp only [encode, encodeByte_code]
  rfl

theorem Entry.encode_data (value : Int) :
    (Entry.data value).encode = .ok (some (Word.ofByte (value % 256).toNat)) := rfl

theorem Entry.encode_takesSlot {e : Entry} {word? : Option String} (slot : e.takesSlot = true)
    (h : e.encode = .ok word?) : ∃ word, word? = some word := by
  cases e with
  | mark name => cases slot
  | _ =>
    obtain ⟨n, -, h⟩ := bind_ok.mp h
    exact ⟨_, (pure_ok.mp h).symm⟩

theorem Entry.encode_binary {e : Entry} {word : String} (h : e.encode = .ok (some word)) :
    Word.Binary word := by
  have written : ∀ result : Except Fault Nat,
      (do return some (Word.ofByte (← result))) = Except.ok (some word) → Word.Binary word := by
    intro result h
    obtain ⟨n, -, h⟩ := bind_ok.mp h
    obtain rfl := Option.some.inj (pure_ok.mp h)
    exact Word.binary_ofByte n
  cases e with
  | mark name => cases h
  | code inst => exact written _ h
  | data value => exact written _ h
  | ref label => exact written _ h

theorem encodeAll_cons {e : Entry} {rest : List Entry} {word : String} {words : List String}
    (first : e.encode = .ok (some word)) (remaining : encodeAll rest = .ok words) :
    encodeAll (e :: rest) = .ok (word :: words) := by
  rw [encodeAll, first, remaining]
  rfl

theorem encodeAll_binary {program : List Entry} {words : List String}
    (h : encodeAll program = .ok words) : ∀ w ∈ words, Word.Binary w := by
  induction program generalizing words with
  | nil =>
    cases h
    simp
  | cons e program ih =>
    obtain ⟨word?, first, h⟩ := bind_ok.mp h
    obtain ⟨rest, remaining, h⟩ := bind_ok.mp h
    obtain rfl := pure_ok.mp h
    intro w hw
    rcases List.mem_append.mp hw with here | there
    · rw [Option.mem_toList] at here
      exact Entry.encode_binary (first.trans (congrArg Except.ok here))
    · exact ih remaining w there

/-- The words of a program are those of the entries that take a slot, in order. -/
theorem encodeAll_slots {program : List Entry} {words : List String}
    (h : encodeAll program = .ok words) :
    (program.filter Entry.takesSlot).map Entry.encode = words.map fun word => .ok (some word) := by
  induction program generalizing words with
  | nil =>
    cases h
    rfl
  | cons e program ih =>
    obtain ⟨word?, first, h⟩ := bind_ok.mp h
    obtain ⟨rest, remaining, h⟩ := bind_ok.mp h
    obtain rfl := pure_ok.mp h
    by_cases slot : e.takesSlot = true
    · obtain ⟨word, rfl⟩ := e.encode_takesSlot slot first
      rw [List.filter_cons_of_pos slot, List.map_cons, ih remaining, first]
      rfl
    · cases e with
      | mark name =>
        cases first
        rw [List.filter_cons_of_neg slot, ih remaining]
        rfl
      | _ => exact absurd rfl slot

/-! ### Decoding -/

theorem Instruction.ofByte?_toByte (inst : Instruction (Fin 4)) :
    ofByte? inst.toByte = some inst := by
  cases inst with
  | nop => rfl
  | unary op r => revert r; cases op <;> decide
  | pair op r s => revert r s; cases op <;> decide
  | branch op c r => revert c r; cases op <;> decide
  | access op r b o => revert r b o; cases op <;> decide

theorem Instruction.toByte_ofByte? {n : Nat} (h : n < 256) {inst : Instruction (Fin 4)}
    (found : ofByte? n = some inst) : inst.toByte = n := by
  have all : ∀ n : Fin 256, (ofByte? n).all (·.toByte = n.val) := by
    decide +kernel
  have here := all ⟨n, h⟩
  rw [found] at here
  simpa using here

theorem Instruction.ofByte?_eq_none {n : Nat} (h : n < 256) :
    ofByte? n = none ↔ n = 1 ∨ n = 2 ∨ n = 3 := by
  have all : ∀ n : Fin 256, ofByte? n = none ↔ n.val = 1 ∨ n.val = 2 ∨ n.val = 3 := by
    decide +kernel
  exact all ⟨n, h⟩

/-- What a binary word that stands for no instruction is refused with. -/
def Word.refused (w : String) : Fault := .encoding (.text w) "nop has no register operand"

/-- Decoding looks a byte up, whichever way it is spelled. -/
theorem Word.decode_spells {d : Datum} {n : Nat} (h : Spells d n) :
    decode d = ((Instruction.ofByte? n).map Except.ok).getD
      (.error (.encoding d "nop has no register operand")) := by
  unfold decode
  rw [h.value]
  simp only [bind, Except.bind]
  cases Instruction.ofByte? n <;> rfl

/-- A text is refused with a message, however long it is. -/
theorem Word.value_text_error {s : String} {fault : Fault} (h : value (.text s) = .error fault) :
    ∃ reason, fault = .encoding (.text s) reason := by
  rcases bits_cases (.text s) with ⟨n, spelled⟩ | ⟨reason, refused⟩
  · cases spelled.value.symm.trans h
  · rw [value, refused] at h
    exact ⟨reason, (Except.error.inj h).symm⟩

theorem Word.decode_text_error {s : String} {fault : Fault} (h : decode (.text s) = .error fault) :
    ∃ reason, fault = .encoding (.text s) reason := by
  rcases bind_error.mp h with refused | ⟨n, -, unused⟩
  · exact value_text_error refused
  · split at unused
    · cases unused
    · exact ⟨_, (Except.error.inj unused).symm⟩

theorem Word.decode_of_binary {w : String} (h : Binary w) :
    decode (.text w) =
      ((Instruction.ofByte? (toByte w)).map Except.ok).getD (.error (refused w)) :=
  decode_spells (.digits h)

theorem Word.decode_ok {w : String} (h : Binary w) {inst : Instruction (Fin 4)} :
    decode (.text w) = .ok inst ↔ Instruction.ofByte? (toByte w) = some inst := by
  rw [decode_of_binary h]
  cases Instruction.ofByte? (toByte w) <;> simp

theorem Word.decode_error {w : String} (h : Binary w) {fault : Fault} :
    decode (.text w) = .error fault ↔
      Instruction.ofByte? (toByte w) = none ∧ fault = refused w := by
  rw [decode_of_binary h]
  cases Instruction.ofByte? (toByte w) <;> simp [eq_comm]

/-- A word that decodes is the word of the instruction. -/
theorem Word.ofByte_of_decode {w : String} (h : Binary w) {inst : Instruction (Fin 4)}
    (found : decode (.text w) = .ok inst) : ofByte inst.toByte = w := by
  rw [Instruction.toByte_ofByte? (toByte_lt h) ((decode_ok h).mp found), ofByte_toByte h]

/-- Decoding reads back the instruction that a word was written for. -/
theorem Word.decode_ofByte (inst : Instruction (Fin 4)) :
    decode (.text (ofByte inst.toByte)) = .ok inst := by
  rw [decode_ok (binary_ofByte _), toByte_ofByte inst.toByte_lt]
  exact inst.ofByte?_toByte

end DeskComputer
