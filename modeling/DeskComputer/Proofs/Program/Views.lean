import DeskComputer.Program.Listing
import DeskComputer.Proofs.Program.Assembly
import DeskComputer.Proofs.Word.Bijection

/-!
# Views of a program

An assembled program can be encoded, loaded and listed. Its entries know which of them are data, its
words only by the `set` before them, and both are listed alike. Main statement:
`assembleSource_views`.
-/

namespace DeskComputer

def Entry.isData : Entry → Bool
  | .data _ => true
  | _ => false

theorem Entry.isData_iff {e : Entry} : e.isData = true ↔ ∃ value, e = .data value := by
  cases e <;> simp [isData]

theorem Instruction.opcode_widen (inst : Instruction (Fin 4)) :
    inst.widen.opcode = inst.opcode := by
  cases inst <;> rfl

theorem Instruction.eq_set (inst : Instruction (Fin 4)) (h : inst.opcode = .unary .set) :
    ∃ r, inst = .unary .set r := by
  cases inst with
  | unary op r =>
    cases h
    exact ⟨r, rfl⟩
  | _ => cases h

theorem Entry.isSet_code {inst : Instruction (Fin 4)} (h : inst.opcode ≠ .unary .set) :
    (Entry.code inst.widen).isSet = false := by
  cases inst with
  | unary op r =>
    cases op with
    | set => exact absurd rfl h
    | _ => rfl
  | _ => rfl

theorem Instruction.fields_isWritable (inst : Instruction (Fin 4)) :
    inst.widen.fields.all Text.isWritable = true := by
  rw [widen, fields_map, List.all_map, List.all_eq_true]
  intro f _
  exact Text.isWritable_small (n := (f.val : Int)) (by omega)

theorem listInteger_byte {byte : Nat} (small : byte < 256) :
    listInteger byte = .ok (toString byte) := by
  rw [listInteger, Text.writeInteger?, if_pos (Text.isWritable_small (by omega))]
  rfl

/-- The conditions that have a code have a letter, so a listing does not fail. -/
theorem Entry.listed_code (inst : Instruction (Fin 4)) (operand : Option String) :
    (Entry.code inst.widen).listed operand = .ok (inst.widen.listed operand) := by
  cases inst with
  | branch op c r =>
    have letter : (conditionLetter? (c.val : Int)).isNone = false := by
      revert c
      decide
    have inside : ((c.val : Int) < -indexLimit || indexLimit ≤ (c.val : Int)) = false := by
      revert c
      decide
    have lettered : (Instruction.branch op c r).widen.conditionFault? = none := by
      simp only [Instruction.widen, Instruction.map, Instruction.conditionFault?, inside, letter,
        Bool.false_eq_true, if_false]
    simp only [listed, lettered, Instruction.fields_isWritable, if_true]
  | _ =>
    rw [listed, Instruction.fields_isWritable]
    rfl

/-! ### Listing statements -/

section Statements

variable {slot : Int} {words texts : List String} {rest : List Entry} {listed : List ListedWord}

theorem listWordsFrom_plain {inst : Instruction (Fin 4)} (other : inst.opcode ≠ .unary .set)
    (remaining : listWordsFrom (slot + 1) false words = .ok listed) :
    listWordsFrom slot false (Word.ofByte inst.toByte :: words) =
      .ok (⟨slot, Word.ofByte inst.toByte, inst.widen.listed none, false⟩ :: listed) := by
  rw [listWordsFrom, Word.decode_ofByte]
  simp only [bind, Except.bind, Bool.false_eq_true, if_false, Instruction.opcode_widen, other,
    decide_false, remaining]
  rfl

theorem listWordsFrom_set {r : Fin 4} {byte : Nat} (small : byte < 256)
    (remaining : listWordsFrom (slot + 1 + 1) false words = .ok listed) :
    listWordsFrom slot false
        (Word.ofByte (Instruction.unary .set r).toByte :: Word.ofByte byte :: words) =
      .ok (⟨slot, Word.ofByte (Instruction.unary .set r).toByte,
          (Instruction.unary .set r).widen.listed (some (toString byte)), false⟩ ::
        ⟨slot + 1, Word.ofByte byte, "", true⟩ :: listed) := by
  rw [listWordsFrom, Word.decode_ofByte]
  simp only [bind, Except.bind, Bool.false_eq_true, if_false, Instruction.opcode, List.head?_cons,
    Option.map_some, Word.toByte_ofByte small, listWordsFrom, remaining]
  rfl

theorem listEntries_plain {inst : Instruction (Fin 4)} (other : inst.opcode ≠ .unary .set)
    (remaining : listEntries rest = .ok texts) :
    listEntries (.code inst.widen :: rest) = .ok (inst.widen.listed none :: texts) := by
  unfold listEntries at remaining ⊢
  rw [listEntriesAfter, Entry.isSet_code other]
  simp only [Bool.false_and, Bool.false_eq_true, if_false, Entry.listed_code, remaining]
  rfl

theorem listEntries_set {r : Fin 4} {byte : Nat} (small : byte < 256)
    (remaining : listEntries rest = .ok texts) :
    listEntries (.code (Instruction.unary .set r).widen :: .data byte :: rest) =
      .ok ((Instruction.unary .set r).widen.listed (some (toString byte)) :: "" :: texts) := by
  unfold listEntries at remaining ⊢
  have set : (Entry.code (Instruction.unary .set r).widen).isSet = true := rfl
  have operand : listEntriesAfter true (.data byte :: rest) = .ok ("" :: texts) := by
    rw [listEntriesAfter, remaining]
    rfl
  rw [listEntriesAfter, set, operand]
  simp only [Bool.false_and, Bool.false_eq_true, if_false, if_true, Entry.listed_code, listOperand,
    listInteger_byte small]
  rfl

end Statements

/-! ### Whole programs -/

theorem bits_words {words : List String} (h : ∀ w ∈ words, Word.Binary w) :
    (words.map Datum.text).mapM Word.bits = .ok words := by
  induction words with
  | nil => rfl
  | cons w words ih =>
    have first : Word.bits (.text w) = .ok w :=
      Word.bits_text_ok.mpr ⟨rfl, h w List.mem_cons_self⟩
    rw [List.map_cons, List.mapM_cons, first, ih fun v hv => h v (List.mem_cons_of_mem _ hv)]
    rfl

namespace Assembled

variable {program : List Entry}

theorem entries (h : Assembled program) : ∀ e ∈ program,
    (∃ inst : Instruction (Fin 4), e = .code inst.widen) ∨
      ∃ byte : Nat, byte < 256 ∧ e = .data byte := by
  induction h with
  | nil => simp
  | @plain inst rest _ _ ih =>
    intro e member
    rcases List.mem_cons.mp member with rfl | later
    · exact .inl ⟨inst, rfl⟩
    · exact ih e later
  | @set r byte rest small _ ih =>
    intro e member
    rcases List.mem_cons.mp member with rfl | later
    · exact .inl ⟨_, rfl⟩
    · rcases List.mem_cons.mp later with rfl | later
      · exact .inr ⟨byte, small, rfl⟩
      · exact ih e later

theorem filter_takesSlot (h : Assembled program) : program.filter Entry.takesSlot = program := by
  apply List.filter_eq_self.mpr
  intro e member
  rcases h.entries e member with ⟨inst, rfl⟩ | ⟨byte, -, rfl⟩
  · rfl
  · rfl

/-- The data words are those right after a `set`. -/
theorem data_iff (h : Assembled program) (i : Nat) :
    (∃ value, program[i]? = some (.data value)) ↔
      ∃ j r, i = j + 1 ∧ program[j]? = some (.code (.unary .set r)) := by
  induction h generalizing i with
  | nil => simp
  | @plain inst rest other _ ih =>
    have notSet : ∀ r, Instruction.widen inst ≠ .unary .set r := by
      intro r same
      apply other
      rw [← inst.opcode_widen, same]
      rfl
    cases i with
    | zero => simp
    | succ i =>
      rw [List.getElem?_cons_succ, ih]
      constructor
      · rintro ⟨j, r, rfl, here⟩
        exact ⟨j + 1, r, rfl, here⟩
      · rintro ⟨j, r, same, here⟩
        cases j with
        | zero =>
          rw [List.getElem?_cons_zero, Option.some.injEq, Entry.code.injEq] at here
          exact absurd here (notSet r)
        | succ j => exact ⟨j, r, by omega, here⟩
  | @set r byte rest _ _ ih =>
    match i with
    | 0 => simp
    | 1 =>
      have here : (Entry.code (Instruction.unary .set r).widen :: .data byte :: rest)[0]? =
          some (.code (.unary .set r)) := rfl
      simp only [List.getElem?_cons_succ, List.getElem?_cons_zero, Option.some.injEq]
      exact iff_of_true ⟨byte, rfl⟩ ⟨0, r, rfl, here⟩
    | i + 2 =>
      rw [List.getElem?_cons_succ, List.getElem?_cons_succ, ih]
      constructor
      · rintro ⟨j, r, rfl, here⟩
        exact ⟨j + 2, r, rfl, here⟩
      · rintro ⟨j, r, same, here⟩
        match j with
        | 0 => omega
        | 1 => cases here
        | j + 2 => exact ⟨j, r, by omega, here⟩

/-- An assembled program has words, and the words are listed as the program is. -/
theorem views (h : Assembled program) :
    ∃ words, encodeAll program = .ok words ∧ ∀ slot, ∃ listed : List ListedWord,
      listWordsFrom slot false words = .ok listed ∧
      listEntries program = .ok (listed.map (·.text)) ∧
      listed.map (·.isData) = program.map Entry.isData := by
  induction h with
  | nil => exact ⟨[], rfl, fun slot => ⟨[], rfl, rfl, rfl⟩⟩
  | @plain inst rest other _ ih =>
    obtain ⟨words, encoded, view⟩ := ih
    refine ⟨_, encodeAll_cons (Entry.encode_code inst) encoded, ?_⟩
    intro slot
    obtain ⟨listed, read, texts, data⟩ := view (slot + 1)
    refine ⟨_, listWordsFrom_plain other read, listEntries_plain other texts, ?_⟩
    rw [List.map_cons, List.map_cons, data]
    rfl
  | @set r byte rest small _ ih =>
    obtain ⟨words, encoded, view⟩ := ih
    have operand : (Entry.data byte).encode = .ok (some (Word.ofByte byte)) := by
      rw [Entry.encode_data, Int.emod_eq_of_lt (by omega) (by omega), Int.toNat_natCast]
    refine ⟨_, encodeAll_cons (Entry.encode_code _) (encodeAll_cons operand encoded), ?_⟩
    intro slot
    obtain ⟨listed, read, texts, data⟩ := view (slot + 1 + 1)
    refine ⟨_, listWordsFrom_set small read, listEntries_set small texts, ?_⟩
    rw [List.map_cons, List.map_cons, List.map_cons, List.map_cons, data]
    rfl

end Assembled

/-- A program and its words agree, whichever way they are looked at. -/
structure Views (program : List Entry) (words : List String) : Prop where
  entries : ∀ e ∈ program, (∃ inst : Instruction (Fin 4), e = .code inst.widen) ∨
    ∃ byte : Nat, byte < 256 ∧ e = .data byte
  data : ∀ i : Nat, (∃ value, program[i]? = some (.data value)) ↔
    ∃ j r, i = j + 1 ∧ program[j]? = some (.code (.unary .set r))
  encoded : program.map Entry.encode = words.map fun word => .ok (some word)
  loaded : ∀ (m : Machine) (input : List Text.CodePoint),
    ((m.reset program input).1 = .ok () ↔ ∃ bytes, m.codec.encode input = .ok bytes) ∧
    (m.reset program input).2.words = words.toArray
  /-- The empty text is input for each of the usual codecs. -/
  loadedAlone : ∀ (m : Machine) (e : Text.Encoding), m.codec = .ofEncoding e →
    (m.reset program []).1 = .ok ()
  listed : ∀ start, ∃ listed : List ListedWord,
    disassemble (words.map .text) start = .ok listed ∧
      listEntries program = .ok (listed.map (·.text)) ∧
      ∀ i : Nat, (∃ l, listed[i]? = some l ∧ l.isData = true) ↔
        ∃ value, program[i]? = some (.data value)
  decoded : ∀ (i : Nat) inst, program[i]? = some (.code inst) →
    ∃ word found, words[i]? = some word ∧ Word.decode (.text word) = .ok found ∧
      found.widen = inst

/-- What a source text comes to can be encoded, loaded, listed and read back. -/
theorem assembleSource_views {source file : String} {program : List Entry}
    (h : assembleSource source file = .ok program) : ∃ words, Views program words := by
  have assembled := assembled_of_assembleSource h
  obtain ⟨words, encoded, view⟩ := assembled.views
  have slots := encodeAll_slots encoded
  rw [assembled.filter_takesSlot] at slots
  refine ⟨words, assembled.entries, assembled.data_iff, slots, ?_, ?_, ?_, ?_⟩
  · intro m input
    cases readable : m.codec.encode input with
    | ok bytes =>
      rw [Machine.reset_loaded encoded readable]
      exact ⟨iff_of_true rfl ⟨bytes, rfl⟩, rfl⟩
    | error fault =>
      rw [Machine.reset_unreadable encoded readable]
      exact ⟨iff_of_false (by simp) (by simp), rfl⟩
  · intro m e usual
    have readable : m.codec.encode [] = .ok [] := by rw [usual]; rfl
    rw [Machine.reset_loaded encoded readable]
  · intro start
    obtain ⟨listed, read, texts, data⟩ := view start
    have whole : disassemble (words.map .text) start = .ok listed := by
      rw [disassemble, bits_words (encodeAll_binary encoded)]
      exact read
    refine ⟨listed, whole, texts, ?_⟩
    intro i
    have here := congrArg (·[i]?) data
    rw [List.getElem?_map, List.getElem?_map] at here
    rw [← Option.map_eq_some_iff, here, Option.map_eq_some_iff]
    constructor
    · rintro ⟨e, found, marked⟩
      obtain ⟨value, rfl⟩ := Entry.isData_iff.mp marked
      exact ⟨value, found⟩
    · rintro ⟨value, found⟩
      exact ⟨_, found, rfl⟩
  · intro i inst found
    rcases assembled.entries _ (List.mem_of_getElem? found) with ⟨narrow, same⟩ | ⟨byte, -, same⟩
    · cases same
      have here := congrArg (·[i]?) slots
      simp only [List.getElem?_map, found, Option.map_some, Entry.encode_code] at here
      obtain ⟨word, stored, same⟩ := Option.map_eq_some_iff.mp here.symm
      cases same
      exact ⟨_, narrow, stored, Word.decode_ofByte narrow, rfl⟩
    · cases same

theorem assembleSource_views_forward :
    assembleSource "set b, end\njcnd Z, b\nEND:" "forward" = .ok
      [.code (.unary .set 1), .data 3, .code (.branch .jcnd 2 1)] ∧
    ∃ words, Views [.code (.unary .set 1), .data 3, .code (.branch .jcnd 2 1)] words :=
  have assembles : assembleSource "set b, end\njcnd Z, b\nEND:" "forward" = .ok
      [.code (.unary .set 1), .data 3, .code (.branch .jcnd 2 1)] := by rfl
  ⟨assembles, assembleSource_views assembles⟩

end DeskComputer
