import DeskComputer.Proofs.Program.Relisting

/-!
# The text of a listing

An assembled program has a listing: a line for each entry, and the labels by slot. No line of an
entry holds an escape character, so one in a listing comes from the name of a label. Main statement:
`Assembled.listing`.
-/

namespace DeskComputer

open Source Text

/-! ### Lines of entries -/

/-- Whether a text holds no escape character. -/
def Unescaped (text : String) : Prop := '\x1b' ∉ text.toList

theorem Unescaped.append {first second : String} (h : Unescaped first) (h' : Unescaped second) :
    Unescaped (first ++ second) := by
  rw [Unescaped, String.toList_append, List.mem_append, not_or]
  exact ⟨h, h'⟩

theorem unescaped_number (n : Nat) : Unescaped (toString n) := by
  have digits : (toString n).toList = Nat.toDigits 10 n := Nat.toList_repr
  intro escape
  rw [digits] at escape
  have other : ∀ c ∈ Nat.toDigits 10 n, c ≠ '\x1b' := forall_mem_toDigits (by decide) n
  exact other _ escape rfl

theorem unescaped_upperHex (width n : Nat) : Unescaped (upperHex width n) := by
  have digits : ∀ digit < 16, (Nat.digitChar digit).toUpper ≠ '\x1b' := by decide
  rw [Unescaped, upperHex, padStart, String.toList_ofList, String.toList_ofList, List.mem_append,
    not_or]
  constructor
  · intro fill
    exact absurd (List.eq_of_mem_replicate fill) (by decide)
  · intro inside
    obtain ⟨c, member, same⟩ := List.mem_map.mp inside
    obtain ⟨digit, small, rfl⟩ := exists_digitChar (by decide) n c member
    exact digits digit small same

theorem unescaped_signedHex (width : Nat) (n : Int) : Unescaped (signedHex width n) := by
  unfold signedHex
  split
  · have sign : Unescaped "-" := by simp [Unescaped]
    exact sign.append (unescaped_upperHex _ _)
  · exact unescaped_upperHex _ _

theorem Word.Binary.unescaped {word : String} (h : Word.Binary word) : Unescaped word := by
  intro escape
  rcases h.2 _ escape with zero | one
  · cases zero
  · cases one

theorem Instruction.unescaped_listed (inst : Instruction (Fin 4)) {operand : Option String}
    (plain : ∀ text ∈ operand, Unescaped text) : Unescaped (inst.widen.listed operand) := by
  have name : ∀ op ∈ Opcode.all, '\x1b' ∉ op.shown := by decide
  have register : ∀ r, '\x1b' ∉ registerToken r := by decide
  have condition : ∀ c, '\x1b' ∉ conditionToken c := by decide
  have address : ∀ o b, '\x1b' ∉ addressToken o b := by decide
  have shown : '\x1b' ∉ (operand.getD "<imm>").toList := by
    cases operand with
    | none => simp
    | some text => exact plain text rfl
  have tokens : ∀ t ∈ inst.tokens operand, '\x1b' ∉ t := by
    cases inst with
    | unary op r => cases op <;> simp [Instruction.tokens, register, shown]
    | _ => simp [Instruction.tokens, register, condition, address]
  intro escape
  rw [toList_listed] at escape
  rcases mem_spelled escape with space | comma | inside | ⟨t, member, inside⟩
  · cases space
  · cases comma
  · exact name _ (Opcode.mem_all _) inside
  · exact tokens t member inside

theorem programLines_cons {slot : Nat} {e : Entry} {entries : List Entry} {text word : String}
    {texts lines : List String} (encoded : e.encode = .ok (some word)) (binary : Word.Binary word)
    (shown : Unescaped text) (remaining : programLines (slot + 1) entries texts = .ok lines)
    (plain : ∀ line ∈ lines, Unescaped line) :
    ∃ line, programLines slot (e :: entries) (text :: texts) = .ok (line :: lines) ∧
      ∀ l ∈ line :: lines, Unescaped l := by
  have whole : Unescaped (upperHex 2 slot ++ "  " ++ word ++ "  " ++ text) := by
    have gap : Unescaped "  " := by simp [Unescaped]
    exact ((((unescaped_upperHex 2 slot).append gap).append binary.unescaped).append gap).append
      shown
  rw [programLines, encoded, remaining]
  refine ⟨_, rfl, List.forall_mem_cons.mpr ⟨?_, plain⟩⟩
  rw [Unescaped, String.toList_ofList]
  exact fun escape => whole ((trimEnd_initial _).mem escape)

/-- An assembled program is listed on lines without an escape character. -/
theorem Assembled.programLines {program : List Entry} (h : Assembled program) :
    ∃ texts, listEntries program = .ok texts ∧ ∀ slot, ∃ lines,
      DeskComputer.programLines slot program texts = .ok lines ∧
        ∀ line ∈ lines, Unescaped line := by
  induction h with
  | nil => exact ⟨[], rfl, fun slot => ⟨[], rfl, List.forall_mem_nil _⟩⟩
  | @plain inst rest other _ ih =>
    obtain ⟨texts, listed, view⟩ := ih
    refine ⟨_, listEntries_plain other listed, ?_⟩
    intro slot
    obtain ⟨lines, remaining, plain⟩ := view (slot + 1)
    have none : ∀ text ∈ (none : Option String), Unescaped text := by simp
    obtain ⟨line, written, whole⟩ := programLines_cons (Entry.encode_code inst)
      (Word.binary_ofByte _) (inst.unescaped_listed none) remaining plain
    exact ⟨_, written, whole⟩
  | @set r byte rest small _ ih =>
    obtain ⟨texts, listed, view⟩ := ih
    refine ⟨_, listEntries_set small listed, ?_⟩
    intro slot
    obtain ⟨lines, remaining, plain⟩ := view (slot + 1 + 1)
    have empty : Unescaped "" := by simp [Unescaped]
    have operand : ∀ text ∈ some (toString byte), Unescaped text := by
      intro text here
      cases here
      exact unescaped_number byte
    obtain ⟨_, second, whole⟩ := programLines_cons (Entry.encode_data (byte : Int))
      (Word.binary_ofByte _) empty remaining plain
    obtain ⟨_, first, whole⟩ := programLines_cons (Entry.encode_code _)
      (Word.binary_ofByte _) (Instruction.unescaped_listed _ operand) second whole
    exact ⟨_, first, whole⟩

/-! ### Lines of labels -/

theorem unescaped_labelLines {table : LabelTable} (plain : ∀ name ∈ table.names, Unescaped name) :
    ∀ line ∈ labelLines table, Unescaped line := by
  have gap : Unescaped "  " := by simp [Unescaped]
  have blank : Unescaped " " := by simp [Unescaped]
  unfold labelLines
  split
  · exact List.forall_mem_nil _
  · refine List.forall_mem_cons.mpr ⟨by simp [Unescaped], ?_⟩
    refine List.forall_mem_cons.mpr ⟨by simp [Unescaped], ?_⟩
    intro line member
    obtain ⟨⟨name, slot⟩, bound, rfl⟩ := List.mem_map.mp member
    have named : Unescaped name :=
      plain name (List.mem_map_of_mem (List.mem_mergeSort.mp bound))
    have padded : Unescaped (padEnd 16 name) := by
      rw [Unescaped, padEnd, String.toList_ofList, List.mem_append, not_or]
      exact ⟨named, fun fill => absurd (List.eq_of_mem_replicate fill) (by decide)⟩
    exact ((gap.append padded).append blank).append (unescaped_signedHex 2 slot)

/-- An assembled program has a listing with its labels. It holds an escape character only if the
name of a label does. -/
theorem Assembled.listing {program : List Entry} (h : Assembled program) (table : LabelTable) :
    ∃ text, DeskComputer.listing program table = .ok text ∧
      ((∀ name ∈ table.names, Unescaped name) → Unescaped text) := by
  obtain ⟨texts, listed, view⟩ := h.programLines
  obtain ⟨lines, written, plain⟩ := view 0
  refine ⟨"\n".intercalate (lines ++ labelLines table), ?_, ?_⟩
  · rw [DeskComputer.listing, listed]
    simp only [bind, Except.bind, written]
    rfl
  · intro named escape
    rw [String.toList_intercalate] at escape
    rcases mem_intercalate escape with newline | ⟨_, member, inside⟩
    · cases newline
    · obtain ⟨line, whole, rfl⟩ := List.mem_map.mp member
      rcases List.mem_append.mp whole with entry | label
      · exact plain line entry inside
      · exact unescaped_labelLines named line label inside

end DeskComputer
