import DeskComputer.Proofs.Program.Views
import DeskComputer.Proofs.Source.Names
import DeskComputer.Proofs.Source.Spelling

/-!
# Listings as source text

The text of a disassembly is source text, and it assembles to a program with the same words: every
listed instruction is read as itself, a `set` with the data word beside it, and the empty text of
the data word adds nothing. Main statement: `assembleSource_disassembled`.
-/

namespace DeskComputer

open Source Text

/-! ### Listed instructions -/

/-- The name of an operation as it is listed. -/
def Opcode.shown (op : Opcode) : List Char := op.mnemonic.toList.map Char.toUpper

theorem Opcode.plain_shown (op : Opcode) : Plain op.shown := by
  have every : ∀ op ∈ all, Plain op.shown := by decide
  exact every op op.mem_all

theorem Opcode.ofMnemonic?_shown (op : Opcode) :
    ofMnemonic? (String.ofList (lower op.shown)) = some op := by
  have every : ∀ op ∈ all, ofMnemonic? (String.ofList (lower op.shown)) = some op := by decide
  exact every op op.mem_all

namespace Instruction

/-- The operands of an instruction as they are listed. -/
def tokens (operand : Option String) : Instruction (Fin 4) → List (List Char)
  | .nop => []
  | .unary .set r => [registerToken r, (operand.getD "<imm>").toList]
  | .unary _ r => [registerToken r]
  | .pair _ r s => [registerToken r, registerToken s]
  | .branch _ c r => [conditionToken c, registerToken r]
  | .access _ r b o => [registerToken r, addressToken o b]

variable {inst : Instruction (Fin 4)} {operand : Option String}

theorem plain_tokens (plain : ∀ text ∈ operand, Plain text.toList) :
    ∀ t ∈ inst.tokens operand, Plain t := by
  have shown : Plain (operand.getD "<imm>").toList := by
    cases operand with
    | none => decide
    | some text => exact plain text rfl
  cases inst with
  | unary op r => cases op <;> simp [tokens, plain_registerToken, shown]
  | _ => simp [tokens, plain_registerToken, plain_conditionToken, plain_addressToken]

theorem toList_listed (inst : Instruction (Fin 4)) (operand : Option String) :
    (inst.widen.listed operand).toList = spelled inst.opcode.shown (inst.tokens operand) := by
  have name : ∀ op : Opcode, op.mnemonic.toUpper.toList = op.shown := fun op => String.toList_map
  have text : ∀ s : String, toString s = s := fun s => rfl
  have number : ∀ f : Fin 4, (f.val : Int).repr.toList = Nat.toDigits 10 f :=
    fun f => Nat.toList_repr
  have letter : ∀ c : Fin 4, ((conditionLetter? (c.val : Int)).map toString).getD "" =
      String.ofList (conditionToken c) := by
    decide
  cases inst with
  | nop => exact name _
  | unary op r =>
    cases op <;>
      simp [widen, map, listed, opcode, tokens, spelled, spaced, registerToken, name, text, number]
  | _ =>
    simp [widen, map, listed, opcode, tokens, spelled, spaced, registerToken, addressToken, name,
      text, number, letter]

theorem readStatement_tokens (other : inst.opcode ≠ .unary .set) :
    readStatement inst.opcode (inst.tokens operand) = .ok [.code inst.widen] := by
  cases inst with
  | nop => rfl
  | unary op r =>
    cases op with
    | set => exact absurd rfl other
    | _ =>
      simp only [tokens, opcode, readStatement, readRegister_token]
      rfl
  | _ =>
    simp only [tokens, opcode, readStatement, readRegister_token, readCondition_token,
      readAddress_token]
    rfl

theorem readStatement_tokens_set {r : Fin 4} {text : String} {e : Entry}
    (read : readImmediate text.toList = .ok e) :
    readStatement (.unary .set) ((Instruction.unary .set r).tokens (some text)) =
      .ok [.code (Instruction.unary .set r).widen, e] := by
  simp only [tokens, Option.getD_some, readStatement, readRegister_token, read]
  rfl

theorem unbroken_listed (inst : Instruction (Fin 4)) (plain : ∀ text ∈ operand, Plain text.toList) :
    ∀ c ∈ (inst.widen.listed operand).toList, isLineBreak c = false := by
  rw [toList_listed]
  exact spelled_unbroken inst.opcode.plain_shown (plain_tokens plain)

theorem plain_number (n : Nat) : ∀ text ∈ some (toString n), Plain text.toList := by
  intro text here
  cases here
  have digits : (toString n).toList = Nat.toDigits 10 n := Nat.toList_repr
  rw [digits]
  exact plain_toDigits n

theorem parseStatement_listed (other : inst.opcode ≠ .unary .set) :
    parseStatement (trim (inst.widen.listed none).toList) = .ok [.code inst.widen] := by
  rw [toList_listed, parseStatement_spelled inst.opcode.plain_shown inst.opcode.ofMnemonic?_shown
    (plain_tokens (by simp)), readStatement_tokens other]

/-- A listed `set` is read as itself and its data word. -/
theorem parseStatement_listed_set {r : Fin 4} {byte : Nat} (small : byte < 256) :
    parseStatement (trim
        ((Instruction.unary .set r).widen.listed (some (toString byte))).toList) =
      .ok [.code (Instruction.unary .set r).widen, .data byte] := by
  have digits : (toString byte).toList = Nat.toDigits 10 byte := Nat.toList_repr
  have short : (Nat.toDigits 10 byte).length ≤ decimalLimit := by
    have three := (Nat.length_toDigits_le_iff (k := 3) (by decide) (by decide)).mpr
      (show byte < 10 ^ 3 by omega)
    exact Nat.le_trans three (by decide)
  have read : readImmediate (toString byte).toList = .ok (.data byte) := by
    rw [digits, readImmediate_toDigits, if_pos short, Int.emod_eq_of_lt (by omega) (by omega)]
  rw [toList_listed, parseStatement_spelled (Opcode.plain_shown _) (Opcode.ofMnemonic?_shown _)
    (plain_tokens (plain_number byte))]
  exact readStatement_tokens_set read

end Instruction

/-! ### Listed programs -/

/-- What the lines of a text are read as, together. -/
inductive Reads : List String → List Entry → Prop where
  | nil : Reads [] []
  | cons {line : String} {lines : List String} {entries rest : List Entry} :
      parseStatement (trim line.toList) = .ok entries → Reads lines rest →
      Reads (line :: lines) (entries ++ rest)

namespace Reads

variable {lines : List String} {entries : List Entry}

theorem blank (h : Reads lines entries) : Reads ("" :: lines) entries := by
  have read : parseStatement (trim "".toList) = .ok [] := rfl
  exact .cons read h

/-- An empty line at the end adds nothing. -/
theorem unpad (h : Reads (lines ++ [""]) entries) : Reads lines entries := by
  induction lines generalizing entries with
  | nil =>
    rw [List.nil_append] at h
    obtain _ | ⟨read, rest⟩ := h
    cases read
    exact rest
  | cons line lines ih =>
    rw [List.cons_append] at h
    obtain _ | ⟨read, rest⟩ := h
    exact .cons read (ih rest)

theorem parseLinesFrom (h : Reads lines entries) (number : Nat) (file : String) :
    ∃ parsed, parseLinesFrom number file (lines.map String.toList) = .ok parsed ∧
      parsed.filterMap ParsedLine.error? = [] ∧ parsed.flatMap ParsedLine.entries = entries := by
  induction h generalizing number with
  | nil => exact ⟨[], rfl, rfl, rfl⟩
  | @cons line lines entries rest read _ ih =>
    obtain ⟨parsed, remaining, fine, whole⟩ := ih (number + 1)
    have first : parseLine line number file = .ok (.ok entries) := by rw [parseLine, read]
    refine ⟨⟨number, line, .ok entries⟩ :: parsed, ?_, fine, ?_⟩
    · rw [List.map_cons, Source.parseLinesFrom, String.ofList_toList, first, remaining]
      rfl
    · rw [List.flatMap_cons, whole]
      rfl

/-- Lines without breaks that are joined by line feeds are read as they stand. -/
theorem parseSource (h : Reads lines entries)
    (unbroken : ∀ line ∈ lines, ∀ c ∈ line.toList, isLineBreak c = false) (file : String) :
    ∃ parsed, parseSource ("\n".intercalate lines) file = .ok parsed ∧
      parsed.filterMap ParsedLine.error? = [] ∧ parsed.flatMap ParsedLine.entries = entries := by
  have joined : ("\n".intercalate lines).toList = ['\n'].intercalate (lines.map String.toList) := by
    rw [String.toList_intercalate]
    rfl
  have inside : ∀ line ∈ lines.map String.toList, ∀ c ∈ line, isLineBreak c = false := by
    intro line member
    obtain ⟨text, present, rfl⟩ := List.mem_map.mp member
    exact unbroken text present
  rw [Source.parseSource, joined]
  -- The last line is cut off if it is empty, as that of a data word is.
  rcases splitLines_intercalate inside with whole | cut
  · rw [whole]
    exact h.parseLinesFrom 1 file
  · obtain ⟨kept, empty, rfl, same, last⟩ := List.map_eq_append_iff.mp cut.symm
    obtain ⟨text, rfl, blank⟩ := List.map_eq_singleton_iff.mp last
    rw [String.toList_eq_nil_iff.mp blank] at h
    rw [← same]
    exact h.unpad.parseLinesFrom 1 file

/-- Lines without breaks assemble to what their entries link to. -/
theorem assembleSource (h : Reads lines entries)
    (unbroken : ∀ line ∈ lines, ∀ c ∈ line.toList, isLineBreak c = false) {program : List Entry}
    (linked : link entries = .ok program) (file : String) :
    assembleSource ("\n".intercalate lines) file = .ok program := by
  obtain ⟨parsed, read, fine, whole⟩ := h.parseSource unbroken file
  rw [assembleSource_ok]
  exact ⟨parsed, read, fine, by rw [whole, linked]⟩

end Reads

namespace Assembled

variable {program : List Entry}

/-- A program without labels is linked as it is. -/
theorem link (h : Assembled program) : link program = .ok program := by
  rw [link_ok, resolve?_ok, h.filter_takesSlot]
  constructor
  · intro label member
    rcases h.entries _ member with ⟨inst, same⟩ | ⟨byte, -, same⟩
    · cases same
    · cases same
  · have kept : ∀ e ∈ program, e.resolved (.ofEntries program) = e := by
      intro e member
      rcases h.entries e member with ⟨inst, rfl⟩ | ⟨byte, -, rfl⟩
      · rfl
      · rfl
    exact ((List.map_congr_left kept).trans (List.map_id _)).symm

/-- The lines of a listing are read as the program that is listed. -/
theorem reads_listed (h : Assembled program) :
    ∃ texts, listEntries program = .ok texts ∧ Reads texts program ∧
      ∀ text ∈ texts, ∀ c ∈ text.toList, isLineBreak c = false := by
  induction h with
  | nil => exact ⟨[], rfl, .nil, by simp⟩
  | @plain inst rest other _ ih =>
    obtain ⟨texts, listed, reads, unbroken⟩ := ih
    refine ⟨_, listEntries_plain other listed,
      .cons (Instruction.parseStatement_listed other) reads, ?_⟩
    rw [List.forall_mem_cons]
    exact ⟨inst.unbroken_listed (by simp), unbroken⟩
  | @set r byte rest small _ ih =>
    obtain ⟨texts, listed, reads, unbroken⟩ := ih
    refine ⟨_, listEntries_set small listed, ?_, ?_⟩
    · exact .cons (Instruction.parseStatement_listed_set small) reads.blank
    · rw [List.forall_mem_cons, List.forall_mem_cons]
      exact ⟨Instruction.unbroken_listed _ (Instruction.plain_number byte), by simp, unbroken⟩

/-- The lines of a listing assemble to the program that is listed. -/
theorem assembleSource_listed (h : Assembled program) {texts : List String}
    (listed : listEntries program = .ok texts) (file : String) :
    assembleSource ("\n".intercalate texts) file = .ok program := by
  obtain ⟨texts', listed', reads, unbroken⟩ := h.reads_listed
  obtain rfl : texts = texts' := Except.ok.inj (listed.symm.trans listed')
  exact reads.assembleSource unbroken h.link file

end Assembled

/-! ### Disassembled words -/

/-- Whether a listed word is a `set` whose data word is missing if the word is the last. -/
def ListedWord.AwaitsData (w : ListedWord) : Prop :=
  w.isData = false ∧ ∃ r, Word.decode (.text w.word) = .ok (.unary .set r)

section Words

variable {words : List String} {slot : Int} {listed : List ListedWord}

/-- What the first word of a listing is read as, and where its operand comes from. -/
theorem listWordsFrom_cons {w : String}
    (read : listWordsFrom slot false (w :: words) = .ok listed) :
    ∃ inst rest, Word.decode (.text w) = .ok inst ∧
      listWordsFrom (slot + 1) (inst.opcode = .unary .set) words = .ok rest ∧
      listed = ⟨slot, w, inst.widen.listed (if inst.opcode = .unary .set then
        words.head?.map fun d => toString (Word.toByte d) else none), false⟩ :: rest := by
  rw [listWordsFrom, if_neg (by decide)] at read
  obtain ⟨inst, found, read⟩ := bind_ok.mp read
  obtain ⟨rest, remaining, read⟩ := bind_ok.mp read
  obtain rfl := pure_ok.mp read
  rw [Instruction.opcode_widen] at remaining ⊢
  exact ⟨inst, rest, found, remaining, rfl⟩

theorem listWordsFrom_data {d : String} (read : listWordsFrom slot true (d :: words) = .ok listed) :
    ∃ rest, listWordsFrom (slot + 1) false words = .ok rest ∧
      listed = ⟨slot, d, "", true⟩ :: rest := by
  rw [listWordsFrom, if_pos rfl] at read
  obtain ⟨rest, remaining, read⟩ := bind_ok.mp read
  exact ⟨rest, remaining, (pure_ok.mp read).symm⟩

theorem complete_tail {first : ListedWord} {rest : List ListedWord}
    (complete : ∀ last ∈ (first :: rest).getLast?, ¬last.AwaitsData) :
    ∀ last ∈ rest.getLast?, ¬last.AwaitsData := by
  intro last here
  apply complete last
  rw [List.getLast?_cons, Option.mem_def.mp here]
  rfl

/-- The words of a listing whose last `set` has its data word are those of an assembled program, and
the program is listed as they are. -/
theorem assembled_of_listed (binary : ∀ w ∈ words, Word.Binary w)
    (read : listWordsFrom slot false words = .ok listed)
    (complete : ∀ last ∈ listed.getLast?, ¬last.AwaitsData) :
    ∃ program, Assembled program ∧ encodeAll program = .ok words ∧
      listEntries program = .ok (listed.map (·.text)) := by
  -- A `set` takes two words, so the induction is on the number of words that are left.
  induction size : words.length using Nat.strongRecOn generalizing words slot listed with
  | ind n ih =>
    cases words with
    | nil =>
      cases read
      exact ⟨[], .nil, rfl, rfl⟩
    | cons w words =>
      obtain ⟨inst, rest, found, remaining, rfl⟩ := listWordsFrom_cons read
      rw [List.forall_mem_cons] at binary
      have same : Word.ofByte inst.toByte = w := Word.ofByte_of_decode binary.1 found
      have code : (Entry.code inst.widen).encode = .ok (some w) := same ▸ Entry.encode_code inst
      by_cases set : inst.opcode = .unary .set
      · obtain ⟨r, rfl⟩ := inst.eq_set set
        cases words with
        | nil =>
          cases remaining
          exact absurd ⟨rfl, r, found⟩ (complete _ rfl)
        | cons d words =>
          rw [List.forall_mem_cons] at binary
          have small := Word.toByte_lt binary.2.1
          have data : (Entry.data (Word.toByte d)).encode = .ok (some d) := by
            rw [Entry.encode_data, Int.emod_eq_of_lt (by omega) (by omega), Int.toNat_natCast,
              Word.ofByte_toByte binary.2.1]
          rw [decide_eq_true set] at remaining
          obtain ⟨later, behind, rfl⟩ := listWordsFrom_data remaining
          obtain ⟨program, assembled, encoded, texts⟩ := ih words.length
            (by rw [← size, List.length_cons, List.length_cons]; omega) binary.2.2 behind
            (complete_tail (complete_tail complete)) rfl
          exact ⟨_, .set small assembled, encodeAll_cons code (encodeAll_cons data encoded),
            listEntries_set small texts⟩
      · rw [decide_eq_false set] at remaining
        obtain ⟨program, assembled, encoded, texts⟩ := ih words.length
          (by rw [← size, List.length_cons]; omega) binary.2 remaining (complete_tail complete) rfl
        refine ⟨_, .plain set assembled, encodeAll_cons code encoded, ?_⟩
        rw [List.map_cons, if_neg set]
        exact listEntries_plain set texts

end Words

/-- Assembling a disassembly gives the words back. -/
theorem assembleSource_disassembled {words : List Datum} {start : Int} {listed : List ListedWord}
    (read : disassemble words start = .ok listed)
    (complete : ∀ last ∈ listed.getLast?, ¬last.AwaitsData) (file : String) :
    ∃ program bits,
      assembleSource ("\n".intercalate (listed.map (·.text))) file = .ok program ∧
      words.mapM Word.bits = .ok bits ∧
      program.map Entry.encode = bits.map fun word => .ok (some word) := by
  obtain ⟨bits, written, read⟩ := bind_ok.mp read
  obtain ⟨program, assembled, encoded, texts⟩ :=
    assembled_of_listed (Word.binary_mapM_bits written) read complete
  have slots := encodeAll_slots encoded
  rw [assembled.filter_takesSlot] at slots
  exact ⟨program, bits, assembled.assembleSource_listed texts file, written, slots⟩

theorem assembleSource_disassembled_jump :
    ∃ listed, disassemble [.number 45, .text "00000011", .text "01101001"] 0 = .ok listed ∧
      (∀ last ∈ listed.getLast?, ¬last.AwaitsData) ∧
      ∃ program bits,
        assembleSource ("\n".intercalate (listed.map (·.text))) "jump" = .ok program ∧
        [.number 45, .text "00000011", .text "01101001"].mapM Word.bits = .ok bits ∧
        program.map Entry.encode = bits.map fun word => .ok (some word) := by
  have read : disassemble [.number 45, .text "00000011", .text "01101001"] 0 =
      .ok [⟨0, "00101101", (Instruction.unary .set 1).listed (some "3"), false⟩,
        ⟨1, "00000011", "", true⟩,
        ⟨2, "01101001", (Instruction.branch .jcnd 2 1).listed none, false⟩] := by rfl
  have complete : ∀ last ∈ [⟨0, "00101101", (Instruction.unary .set 1).listed (some "3"), false⟩,
        ⟨1, "00000011", "", true⟩,
        ⟨2, "01101001", (Instruction.branch .jcnd 2 1).listed none, false⟩].getLast?,
      ¬ListedWord.AwaitsData last := by
    rintro last here ⟨-, r, found⟩
    cases here
    cases found
  exact ⟨_, read, complete, assembleSource_disassembled read complete "jump"⟩

end DeskComputer
