import DeskComputer.Proofs.Text.Decimal
import DeskComputer.Proofs.Word.Codec

/-!
# The codec as a bijection

Encoding succeeds exactly on instructions whose fields have two bits each, and decoding exactly on
words of a byte other than 1, 2 and 3; there each undoes the other. What is refused is shown in the
message of the refusal, which fails if that is too long. Main statement: `codec_exact`.
-/

namespace DeskComputer

/-! ### Fields -/

theorem Instruction.fields_map {φ ψ : Type} (f : φ → ψ) (inst : Instruction φ) :
    (inst.map f).fields = inst.fields.map f := by
  cases inst <;> rfl

theorem fits_iff {field : Int} : 0 ≤ field ∧ field ≤ 3 ↔ ∃ f : Fin 4, (f.val : Int) = field := by
  constructor
  · rintro ⟨low, high⟩
    exact ⟨⟨field.toNat, by omega⟩, Int.toNat_of_nonneg low⟩
  · rintro ⟨f, rfl⟩
    omega

/-- An instruction whose fields fit is one that a word can hold. -/
theorem Instruction.fields_fit {inst : Instruction Int} :
    (∀ f ∈ inst.fields, 0 ≤ f ∧ f ≤ 3) ↔ ∃ narrow : Instruction (Fin 4), narrow.widen = inst := by
  constructor
  · intro fit
    cases inst with
    | nop => exact ⟨.nop, rfl⟩
    | unary op r =>
      obtain ⟨r, rfl⟩ := fits_iff.mp (fit r (by simp [fields]))
      exact ⟨.unary op r, rfl⟩
    | pair op r s =>
      obtain ⟨r, rfl⟩ := fits_iff.mp (fit r (by simp [fields]))
      obtain ⟨s, rfl⟩ := fits_iff.mp (fit s (by simp [fields]))
      exact ⟨.pair op r s, rfl⟩
    | branch op c r =>
      obtain ⟨c, rfl⟩ := fits_iff.mp (fit c (by simp [fields]))
      obtain ⟨r, rfl⟩ := fits_iff.mp (fit r (by simp [fields]))
      exact ⟨.branch op c r, rfl⟩
    | access op r b o =>
      obtain ⟨r, rfl⟩ := fits_iff.mp (fit r (by simp [fields]))
      obtain ⟨b, rfl⟩ := fits_iff.mp (fit b (by simp [fields]))
      obtain ⟨o, rfl⟩ := fits_iff.mp (fit o (by simp [fields]))
      exact ⟨.access op r b o, rfl⟩
  · rintro ⟨narrow, rfl⟩ f member
    rw [widen, fields_map, List.mem_map] at member
    obtain ⟨f, -, rfl⟩ := member
    exact fits_iff.mpr ⟨f, rfl⟩

/-! ### Refusals -/

/-- Whether every integer that a message would show of a datum is short enough to be written. -/
def Datum.Short (d : Datum) : Prop := ∀ n ∈ d.integers, n.natAbs < 10 ^ Text.decimalLimit

theorem Datum.short_iff {d : Datum} : d.Short ↔ d.isWritable = true := by
  rw [Short, isWritable, List.all_eq_true]
  exact forall₂_congr fun n _ => Text.isWritable_iff.symm

variable {d : Datum} {reason : String}

theorem Fault.ofDatum_short (short : d.Short) : ofDatum d reason = .encoding d reason :=
  if_pos (Datum.short_iff.mp short)

theorem Fault.ofDatum_long (long : ¬d.Short) : ofDatum d reason = .unwritable :=
  if_neg (mt Datum.short_iff.mpr long)

/-! ### Encoding -/

section Encoding

variable {inst : Instruction Int} {fault : Fault}

/-- What a field that does not fit is refused with. -/
def Entry.unfit (e : Entry) (field : Int) : Fault :=
  .ofDatum (.entry e) s!"field value {field} does not fit in 2 bits"

theorem Entry.field_ok {e : Entry} {field : Int} {n : Nat} (h : e.field field = .ok n) :
    0 ≤ field ∧ field ≤ 3 := by
  unfold Entry.field at h
  split at h
  · omega
  · split at h <;> cases h

theorem Entry.field_error {e : Entry} {field : Int} (member : field ∈ e.integers)
    (h : e.field field = .error fault) : ¬(0 ≤ field ∧ field ≤ 3) ∧ fault = e.unfit field := by
  unfold Entry.field Text.writeInteger? at h
  split at h
  · cases h
  · rename_i unfit
    refine ⟨by omega, ?_⟩
    split at h
    · -- The message ends at the field, before it would show the entry.
      rename_i long
      have long : Text.isWritable field = false := by simpa using long
      have whole : ¬(Datum.entry e).Short := fun short => by
        rw [Text.isWritable_iff.mpr (short field member)] at long
        cases long
      cases h
      exact (Fault.ofDatum_long whole).symm
    · rename_i shown written
      obtain rfl : shown = toString field := by
        split at written
        · exact (Option.some.inj written).symm
        · cases written
      exact (Except.error.inj h).symm

theorem Entry.encodeByte_fields {n : Nat} (h : (Entry.code inst).encodeByte = .ok n) :
    ∀ f ∈ inst.fields, 0 ≤ f ∧ f ≤ 3 := by
  cases inst with
  | nop => simp [Instruction.fields]
  | unary op r =>
    obtain ⟨a, hr, h⟩ := bind_ok.mp h
    simpa [Instruction.fields] using field_ok hr
  | pair op r s =>
    obtain ⟨a, hr, h⟩ := bind_ok.mp h
    obtain ⟨b, hs, h⟩ := bind_ok.mp h
    simpa [Instruction.fields] using And.intro (field_ok hr) (field_ok hs)
  | branch op c r =>
    obtain ⟨a, hc, h⟩ := bind_ok.mp h
    obtain ⟨b, hr, h⟩ := bind_ok.mp h
    simpa [Instruction.fields] using And.intro (field_ok hc) (field_ok hr)
  | access op r b o =>
    obtain ⟨x, ho, h⟩ := bind_ok.mp h
    obtain ⟨y, hr, h⟩ := bind_ok.mp h
    obtain ⟨z, hb, h⟩ := bind_ok.mp h
    simpa [Instruction.fields] using And.intro (field_ok ho) (And.intro (field_ok hr) (field_ok hb))

theorem Entry.encodeByte_error (h : (Entry.code inst).encodeByte = .error fault) :
    ∃ f ∈ inst.fields, (Entry.code inst).field f = .error fault := by
  cases inst with
  | nop => cases h
  | unary op r =>
    rcases bind_error.mp h with bad | ⟨_, -, h⟩
    · exact ⟨r, by simp [Instruction.fields], bad⟩
    · cases h
  | pair op r s =>
    rcases bind_error.mp h with bad | ⟨_, -, h⟩
    · exact ⟨r, by simp [Instruction.fields], bad⟩
    rcases bind_error.mp h with bad | ⟨_, -, h⟩
    · exact ⟨s, by simp [Instruction.fields], bad⟩
    · cases h
  | branch op c r =>
    rcases bind_error.mp h with bad | ⟨_, -, h⟩
    · exact ⟨c, by simp [Instruction.fields], bad⟩
    rcases bind_error.mp h with bad | ⟨_, -, h⟩
    · exact ⟨r, by simp [Instruction.fields], bad⟩
    · cases h
  | access op r b o =>
    rcases bind_error.mp h with bad | ⟨_, -, h⟩
    · exact ⟨o, by simp [Instruction.fields], bad⟩
    rcases bind_error.mp h with bad | ⟨_, -, h⟩
    · exact ⟨r, by simp [Instruction.fields], bad⟩
    rcases bind_error.mp h with bad | ⟨_, -, h⟩
    · exact ⟨b, by simp [Instruction.fields], bad⟩
    · cases h

/-- An instruction with a field that does not fit is refused for one of those. -/
theorem Entry.encodeByte_unfit (unfit : ¬∀ f ∈ inst.fields, 0 ≤ f ∧ f ≤ 3) :
    ∃ f ∈ inst.fields, ¬(0 ≤ f ∧ f ≤ 3) ∧
      (Entry.code inst).encodeByte = .error ((Entry.code inst).unfit f) := by
  cases encoded : (Entry.code inst).encodeByte with
  | ok n => exact absurd (encodeByte_fields encoded) unfit
  | error fault =>
    obtain ⟨f, member, refused⟩ := encodeByte_error encoded
    obtain ⟨bad, rfl⟩ := field_error member refused
    exact ⟨f, member, bad, rfl⟩

theorem Entry.encode_refused {e : Entry} (slot : e.takesSlot = true)
    (refused : e.encodeByte = .error fault) : e.encode = .error fault := by
  cases e with
  | mark name => cases slot
  | _ =>
    simp only [encode, refused]
    rfl

/-- Entries that come to a word, or to none because they take no slot. -/
def Entry.Encodable : Entry → Prop
  | .code inst => ∀ f ∈ inst.fields, 0 ≤ f ∧ f ≤ 3
  | .data _ | .mark _ => True
  | .ref _ => False

theorem Entry.encode_cases (e : Entry) :
    (e.Encodable ∧ ∃ word?, e.encode = .ok word?) ∨
      (¬e.Encodable ∧ ∃ reason, e.encode = .error (.ofDatum (.entry e) reason)) := by
  cases e with
  | code inst =>
    by_cases fit : ∀ f ∈ inst.fields, 0 ≤ f ∧ f ≤ 3
    · obtain ⟨narrow, rfl⟩ := Instruction.fields_fit.mp fit
      exact .inl ⟨fit, _, encode_code narrow⟩
    · obtain ⟨f, -, -, refused⟩ := encodeByte_unfit fit
      exact .inr ⟨fit, _, encode_refused rfl refused⟩
  | data value => exact .inl ⟨trivial, _, encode_data value⟩
  | ref label => exact .inr ⟨id, _, encode_refused rfl rfl⟩
  | mark name => exact .inl ⟨trivial, none, rfl⟩

/-- A program is refused for its first entry that is no word and takes a slot. -/
theorem encodeAll_cases (program : List Entry) :
    ((∀ e ∈ program, e.Encodable) ∧ ∃ words, encodeAll program = .ok words) ∨
      ∃ before e after reason, program = before ++ e :: after ∧ (∀ e ∈ before, e.Encodable) ∧
        ¬e.Encodable ∧ encodeAll program = .error (.ofDatum (.entry e) reason) := by
  induction program with
  | nil => exact .inl ⟨by simp, [], rfl⟩
  | cons e program ih =>
    rcases e.encode_cases with ⟨fine, word?, written⟩ | ⟨bad, reason, refused⟩
    · rcases ih with ⟨all, words, encoded⟩ | ⟨before, d, after, reason, rfl, all, bad, refused⟩
      · refine .inl ⟨List.forall_mem_cons.mpr ⟨fine, all⟩, word?.toList ++ words, ?_⟩
        rw [encodeAll, written, encoded]
        rfl
      · refine .inr ⟨e :: before, d, after, reason, rfl,
          List.forall_mem_cons.mpr ⟨fine, all⟩, bad, ?_⟩
        rw [encodeAll, written, refused]
        rfl
    · refine .inr ⟨[], e, program, reason, rfl, by simp, bad, ?_⟩
      rw [encodeAll, refused]
      rfl

theorem encodeAll_ok {program : List Entry} :
    (∃ words, encodeAll program = .ok words) ↔ ∀ e ∈ program, e.Encodable := by
  rcases encodeAll_cases program with ⟨all, encoded⟩ |
    ⟨before, e, after, reason, rfl, -, bad, refused⟩
  · exact iff_of_true encoded all
  · refine iff_of_false ?_ fun all => bad (all e (by simp))
    rintro ⟨words, encoded⟩
    cases refused.symm.trans encoded

theorem encodeAll_error {program : List Entry} (h : encodeAll program = .error fault) :
    ∃ e ∈ program, ∃ reason, ¬e.Encodable ∧ fault = .ofDatum (.entry e) reason := by
  rcases encodeAll_cases program with ⟨-, words, encoded⟩ |
    ⟨before, e, after, reason, rfl, -, bad, refused⟩
  · cases h.symm.trans encoded
  · cases h.symm.trans refused
    exact ⟨e, by simp, reason, bad, rfl⟩

end Encoding

/-! ### Both directions -/

/-- Encoding and decoding undo each other, and each refuses exactly what the other does not come
to: an instruction with a field that does not fit, and whatever is no word of an instruction. -/
theorem codec_exact :
    (∀ inst : Instruction Int,
      let entry := Entry.code inst
      ((∀ f ∈ inst.fields, 0 ≤ f ∧ f ≤ 3) →
        ∃ byte word narrow, entry.encodeByte = .ok byte ∧ entry.encode = .ok (some word) ∧
          Word.Binary word ∧ narrow.widen = inst ∧ Word.decode (.text word) = .ok narrow ∧
          Word.decode (.number byte) = .ok narrow) ∧
      ((¬∀ f ∈ inst.fields, 0 ≤ f ∧ f ≤ 3) →
        ∃ fault, entry.encodeByte = .error fault ∧ entry.encode = .error fault ∧
          ((∀ f ∈ inst.fields, f.natAbs < 10 ^ Text.decimalLimit) →
            ∃ f ∈ inst.fields, ¬(0 ≤ f ∧ f ≤ 3) ∧
              fault = .encoding (.entry entry) s!"field value {f} does not fit in 2 bits"))) ∧
    (∀ d : Datum,
      (∀ n, Word.Spells d n → n ≠ 1 ∧ n ≠ 2 ∧ n ≠ 3 →
        ∃ inst word, Word.decode d = .ok inst ∧ Word.bits d = .ok word ∧
          (Entry.code inst.widen).encode = .ok (some word)) ∧
      ((¬∃ n, Word.Spells d n ∧ n ≠ 1 ∧ n ≠ 2 ∧ n ≠ 3) →
        ∃ fault, Word.decode d = .error fault ∧
          (d.Short → ∃ reason, fault = .encoding d reason))) ∧
    ∀ v : Int, ∃ word, (Entry.data v).encode = .ok (some word) ∧
      Word.value (.text word) = .ok (v % 256).toNat := by
  refine ⟨fun inst => ⟨?_, ?_⟩, fun d => ⟨?_, ?_⟩, ?_⟩
  · intro fit
    obtain ⟨narrow, rfl⟩ := Instruction.fields_fit.mp fit
    refine ⟨_, _, narrow, Entry.encodeByte_code narrow, Entry.encode_code narrow,
      Word.binary_ofByte _, rfl, Word.decode_ofByte narrow, ?_⟩
    have small := narrow.toByte_lt
    rw [Word.decode_spells (.byte (by omega)), narrow.ofByte?_toByte]
    rfl
  · intro unfit
    obtain ⟨f, member, bad, refused⟩ := Entry.encodeByte_unfit unfit
    refine ⟨_, refused, Entry.encode_refused rfl refused, fun short => ?_⟩
    exact ⟨f, member, bad, Fault.ofDatum_short short⟩
  · intro n spelled used
    cases found : Instruction.ofByte? n with
    | none =>
      have unused := (Instruction.ofByte?_eq_none spelled.lt).mp found
      omega
    | some inst =>
      refine ⟨inst, _, ?_, spelled.bits, ?_⟩
      · rw [Word.decode_spells spelled, found]
        rfl
      · rw [Entry.encode_code, Instruction.toByte_ofByte? spelled.lt found]
  · intro unused
    rcases Word.bits_cases d with ⟨n, spelled⟩ | ⟨reason, refused⟩
    · have none : Instruction.ofByte? n = none := by
        rw [Instruction.ofByte?_eq_none spelled.lt]
        by_contra used
        exact unused ⟨n, spelled, by omega⟩
      refine ⟨.encoding d "nop has no register operand", ?_, fun _ => ⟨_, rfl⟩⟩
      rw [Word.decode_spells spelled, none]
      rfl
    · refine ⟨.ofDatum d reason, ?_, fun short => ⟨reason, Fault.ofDatum_short short⟩⟩
      rw [Word.decode, Word.value, refused]
      rfl
  · intro v
    refine ⟨_, Entry.encode_data v, ?_⟩
    rw [Word.value_text_of_binary (Word.binary_ofByte _), Word.toByte_ofByte (by omega)]

/-- The truth value that counts as zero is no word, though zero is one. A field that is too long to
be written is refused, but not with a message. -/
theorem codec_inexact :
    Word.decode (.number 0) = .ok .nop ∧
      Word.decode (.truth false) =
        .error (.encoding (.truth false) "words are 8-character bit strings") ∧
      (Entry.code (.unary .inc (10 ^ Text.decimalLimit))).encode = .error .unwritable := by
  refine ⟨rfl, rfl, Entry.encode_refused rfl (bind_error.mpr (.inl ?_))⟩
  have unfit : ¬(0 ≤ (10 : Int) ^ Text.decimalLimit ∧ (10 : Int) ^ Text.decimalLimit < 4) := by
    rintro ⟨low, high⟩
    have short := Text.isWritable_small (n := 10 ^ Text.decimalLimit) (by omega)
    rw [Text.isWritable_limit] at short
    cases short
  unfold Entry.field Text.writeInteger?
  rw [if_neg unfit, Text.isWritable_limit]
  rfl

end DeskComputer
