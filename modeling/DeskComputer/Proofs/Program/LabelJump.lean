import DeskComputer.Proofs.Machine.Representation
import DeskComputer.Proofs.Program.Execution

/-!
# Jumps through labels

Labels are counted in the slots in which the machine counts its program: a `set` of a label and a
jump through the register lead to the slot of the label, as a byte. There stands what its last
definition precedes. Main statement: `jump_reaches_label`.
-/

namespace DeskComputer

open Source

/-! ### Lines -/

/-- The entries of a source text that take a slot, with references as they were read. -/
def Assembler.slots (a : Assembler) : List Entry :=
  (a.lines.flatMap ParsedLine.entries).filter Entry.takesSlot

/-- Whether the last definition of a label leads to an entry: over lines that are blank or define
other labels, to the first entry of a line. -/
def LeadsTo (lines : List ParsedLine) (label : String) (e : Entry) : Prop :=
  ∃ before line skipped found after,
    lines = before ++ line :: (skipped ++ found :: after) ∧ line.entries = [.mark label] ∧
      (∀ l ∈ skipped ++ found :: after, .mark label ∉ l.entries) ∧
      (∀ l ∈ skipped, l.entries = [] ∨ ∃ name, l.entries = [.mark name]) ∧
      found.entries.head? = some e

section Lines

variable {lines : List ParsedLine} {label : String}

theorem last_definition (defined : .mark label ∈ lines.flatMap ParsedLine.entries) :
    ∃ before line after, lines = before ++ line :: after ∧ .mark label ∈ line.entries ∧
      ∀ l ∈ after, .mark label ∉ l.entries := by
  induction lines with
  | nil => cases defined
  | cons line lines ih =>
    by_cases again : .mark label ∈ lines.flatMap ParsedLine.entries
    · obtain ⟨before, last, after, rfl, here, none⟩ := ih again
      exact ⟨line :: before, last, after, rfl, here, none⟩
    · rw [List.flatMap_cons, List.mem_append] at defined
      refine ⟨[], line, lines, rfl, defined.resolve_right again, ?_⟩
      intro l member marked
      exact again (List.mem_flatMap.mpr ⟨l, member, marked⟩)

theorem leadsTo_of_find? {before after : List ParsedLine} {line : ParsedLine} {e : Entry}
    (whole : ∀ l ∈ after, Contribution l.entries) (here : line.entries = [.mark label])
    (last : ∀ l ∈ after, .mark label ∉ l.entries)
    (found : (after.flatMap ParsedLine.entries).find? Entry.takesSlot = some e) :
    LeadsTo (before ++ line :: after) label e ∧
      ∃ inst : Instruction (Fin 4), e = .code inst.widen := by
  rw [List.find?_flatMap, List.findSome?_eq_some_iff] at found
  obtain ⟨skipped, line', rest, rfl, first, passed⟩ := found
  have inside : line' ∈ skipped ++ line' :: rest := by simp
  obtain ⟨head, inst⟩ := (whole line' inside).find?_eq_some first
  refine ⟨⟨before, line, skipped, line', rest, rfl, here, last, ?_, head⟩, inst⟩
  intro l member
  exact (whole l (List.mem_append_left _ member)).find?_eq_none (passed l member)

/-- A label that is defined is bound to the slot to which it leads. -/
theorem label_slot (whole : ∀ l ∈ lines, Contribution l.entries)
    (defined : .mark label ∈ lines.flatMap ParsedLine.entries) :
    let entries := lines.flatMap ParsedLine.entries
    ∃ t : Nat, (LabelTable.ofEntries entries).lookup label = some (t : Int) ∧
      t ≤ (entries.filter Entry.takesSlot).length ∧
      ∀ e, (entries.filter Entry.takesSlot)[t]? = some e →
        LeadsTo lines label e ∧ ∃ inst : Instruction (Fin 4), e = .code inst.widen := by
  intro entries
  obtain ⟨before, line, after, rfl, marked, last⟩ := last_definition defined
  have here : line.entries = [.mark label] :=
    (whole line (by simp)).eq_mark marked
  have split : (before ++ line :: after).flatMap ParsedLine.entries =
      before.flatMap ParsedLine.entries ++ .mark label :: after.flatMap ParsedLine.entries := by
    rw [List.flatMap_append, List.flatMap_cons, here]
    rfl
  have free : .mark label ∉ after.flatMap ParsedLine.entries := by
    intro again
    obtain ⟨l, member, marked⟩ := List.mem_flatMap.mp again
    exact last l member marked
  refine ⟨(before.flatMap ParsedLine.entries).countP Entry.takesSlot, ?_, ?_, ?_⟩
  · unfold entries
    rw [split]
    exact LabelTable.lookup_ofEntries free
  · unfold entries
    rw [split, List.filter_append, List.length_append, List.countP_eq_length_filter]
    exact Nat.le_add_right _ _
  · intro e stands
    unfold entries at stands
    rw [split, filter_at_mark] at stands
    apply leadsTo_of_find? _ here last stands
    intro l member
    exact whole l (by simp [member])

end Lines

/-- In the place of a reference stands the slot of the label as a byte. A slot of the program to
which a label is bound is that of an instruction. -/
theorem reference_slot {source file label : String} {program : List Entry} {i : Nat}
    (assembles : assembleSource source file = .ok program)
    (reference : (({} : Assembler).assemble source file).2.slots[i]? = some (.ref label)) :
    let a := (({} : Assembler).assemble source file).2
    ∃ t : Nat, a.labels.lookup label = some (t : Int) ∧ t ≤ program.length ∧
      program[i]? = some (.data (t % 256)) ∧
      (t < program.length → ∃ inst : Instruction (Fin 4),
        program[t]? = some (.code inst.widen) ∧ LeadsTo a.lines label (.code inst.widen)) := by
  intro a
  obtain ⟨parsed, linked, labels⟩ := assemble_of_assembleSource assembles
  obtain ⟨bound, resolved⟩ := resolve?_ok.mp (link_ok.mp linked)
  rw [← labels] at resolved
  have whole : ∀ line ∈ a.lines, Contribution line.entries := parseLinesFrom_contribution parsed
  have referred : .ref label ∈ a.lines.flatMap ParsedLine.entries :=
    (List.mem_filter.mp (List.mem_of_getElem? reference)).1
  have defined : .mark label ∈ a.lines.flatMap ParsedLine.entries :=
    LabelTable.mem_names_ofEntries.mp (bound label referred)
  obtain ⟨t, slot, inside, leads⟩ := label_slot whole defined
  rw [← labels] at slot
  -- Resolution keeps slots in place.
  have replaced : ∀ {j : Nat} {e : Entry}, a.slots[j]? = some e →
      program[j]? = some (e.resolved a.labels) := by
    intro j e stands
    rw [resolved, List.getElem?_map]
    exact congrArg (Option.map (Entry.resolved a.labels)) stands
  have size : program.length = a.slots.length := by
    rw [resolved, List.length_map]
    rfl
  have data : program[i]? = some (.data (t % 256)) := by
    have found := replaced reference
    rwa [Entry.resolved, slot, Option.getD_some] at found
  refine ⟨t, slot, size ▸ inside, data, ?_⟩
  intro within
  obtain ⟨e, stands⟩ : ∃ e, a.slots[t]? = some e :=
    ⟨_, List.getElem?_eq_getElem (size ▸ within : t < a.slots.length)⟩
  obtain ⟨leading, inst, rfl⟩ := leads e stands
  exact ⟨inst, replaced stands, leading⟩

/-! ### Steps -/

namespace Machine.Holds

variable {m : Machine} {program : List Entry} {r : Fin 4}

theorem step_set (held : m.Holds program) (assembled : Assembled program)
    (running : m.status ≠ .halted) {value : Int}
    (here : program[m.state.pc]? = some (.code (Instruction.unary .set r).widen))
    (operand : program[m.state.pc + 1]? = some (.data value)) :
    m.step = (.ok (.unary .set r), { m with
      state := { m.state.setRegister r (value % 256).toNat with pc := m.state.pc + 2 }
      status := .stepping
      stepCount := m.stepCount + 1 }) := by
  have inside := (List.getElem?_eq_some_iff.mp operand).1
  have next : m.state.nextSlot m.words = m.state.pc + 1 := by
    unfold State.nextSlot
    rw [held.size assembled, Nat.mod_eq_of_lt inside]
  have fetched := held.fetch assembled operand (Entry.encode_data value)
  rw [← next] at fetched
  have byte : (value % 256).toNat < 256 := by omega
  have loads := State.executeUnary_set r fetched (Word.binary_ofByte _)
  rw [Word.toByte_ofByte byte] at loads
  exact held.step_execute assembled running here loads

theorem step_j (held : m.Holds program) (assembled : Assembled program)
    (running : m.status ≠ .halted)
    (here : program[m.state.pc]? = some (.code (Instruction.unary .j r).widen)) :
    m.step = (.ok (.unary .j r), { m with
      state := { m.state with pc := m.state.register r }
      status := .stepping
      stepCount := m.stepCount + 1 }) :=
  held.step_execute assembled running here rfl

/-- Two steps through a `set` and a jump: control is at the data word, and little else changes. -/
theorem step_set_j (held : m.Holds program) (assembled : Assembled program)
    (running : m.status ≠ .halted) {value : Int}
    (set : program[m.state.pc]? = some (.code (Instruction.unary .set r).widen))
    (operand : program[m.state.pc + 1]? = some (.data value))
    (jump : program[m.state.pc + 2]? = some (.code (Instruction.unary .j r).widen)) :
    m.step.1 = .ok (.unary .set r) ∧ m.step.2.step = (.ok (.unary .j r), { m with
      state := { m.state.setRegister r (value % 256).toNat with pc := (value % 256).toNat }
      status := .stepping
      stepCount := m.stepCount + 2 }) := by
  have first := held.step_set assembled running set operand
  have loaded : (m.state.setRegister r (value % 256).toNat).register r = (value % 256).toNat := by
    rw [State.register_setRegister, if_pos rfl]
  have heldOn : m.step.2.Holds program := by
    rw [first]
    exact held
  have runningOn : m.step.2.status ≠ .halted := by
    rw [first]
    exact Status.noConfusion
  have jumpOn : program[m.step.2.state.pc]? = some (.code (Instruction.unary .j r).widen) := by
    rw [first]
    exact jump
  have second := heldOn.step_j assembled runningOn jumpOn
  have target : m.step.2.state.register r = (value % 256).toNat := by
    rw [first]
    exact loaded
  rw [target] at second
  refine ⟨by rw [first], second.trans ?_⟩
  rw [first]

end Machine.Holds

/-- A `set` of a label and a jump through the register lead to the slot of the label, as a byte. If
that is the slot itself, what is executed there is what the last definition precedes. -/
theorem Machine.jump_reaches_label {source file : String} {program : List Entry}
    (assembles : assembleSource source file = .ok program) {label : String} {q : Nat} {r : Fin 4}
    (set : program[q]? = some (.code (Instruction.unary .set r).widen))
    (operand : (({} : Assembler).assemble source file).2.slots[q + 1]? = some (.ref label))
    (jump : program[q + 2]? = some (.code (Instruction.unary .j r).widen))
    {m : Machine} (held : m.Holds program) (running : m.status ≠ .halted)
    (here : m.state.pc = q) :
    let a := (({} : Assembler).assemble source file).2
    let n := m.step.2.step.2
    ∃ t : Nat, a.labels.lookup label = some (t : Int) ∧ t ≤ program.length ∧
      m.step.1 = .ok (.unary .set r) ∧ m.step.2.step.1 = .ok (.unary .j r) ∧
      n = { m with
        state := { m.state.setRegister r (t % 256) with pc := t % 256 }
        status := .stepping
        stepCount := m.stepCount + 2 } ∧
      (t < 256 → t < program.length → ∃ inst state,
        program[t]? = some (.code (Instruction.widen inst)) ∧
        LeadsTo a.lines label (.code inst.widen) ∧
        n.state.execute n.words inst = .ok state ∧
        n.step = (.ok inst, { n with state, status := .stepping, stepCount := n.stepCount + 1 })) ∧
      (t < 256 → t = program.length →
        n.step = (.error (.outOfProgram t program.length),
          n.halt (.outOfProgram t program.length))) := by
  intro a n
  have assembled := assembled_of_assembleSource assembles
  obtain ⟨t, slot, inside, data, leads⟩ := reference_slot assembles operand
  subst here
  obtain ⟨first, second⟩ := held.step_set_j assembled running set data jump
  have byte : ((t : Int) % 256 % 256).toNat = t % 256 := by omega
  rw [byte] at second
  have reached : n = { m with
      state := { m.state.setRegister r (t % 256) with pc := t % 256 }
      status := .stepping
      stepCount := m.stepCount + 2 } := congrArg Prod.snd second
  have heldOn : n.Holds program := by
    rw [reached]
    exact held
  have runningOn : n.status ≠ .halted := by
    rw [reached]
    exact Status.noConfusion
  have control : t < 256 → n.state.pc = t := by
    intro small
    rw [reached]
    exact Nat.mod_eq_of_lt small
  refine ⟨t, slot, inside, first, congrArg Prod.fst second, reached, ?_, ?_⟩
  · intro small within
    obtain ⟨inst, stands, leading⟩ := leads within
    rw [← control small] at stands
    obtain ⟨state, executed, stepped⟩ := heldOn.step assembled runningOn stands
    rw [control small] at stands
    exact ⟨inst, state, stands, leading, executed, stepped⟩
  · intro small past
    have beyond : n.words.size ≤ n.state.pc :=
      Nat.le_of_eq (by rw [heldOn.size assembled, control small, past])
    have failed := step_past_end runningOn beyond
    rwa [control small, heldOn.size assembled] at failed

/-- The last of two definitions counts. -/
theorem Machine.jump_reaches_label_redefined :
    let program : List Entry := [.code (.unary .set 0), .data 3, .code (.unary .j 0),
      .code (.unary .input 1)]
    let a := (({} : Assembler).assemble "x:\nset a,x\nj a\nx:\nin b" "twice").2
    let m := (({} : Machine).reset program (Text.codePoints "A")).2
    assembleSource "x:\nset a,x\nj a\nx:\nin b" "twice" = .ok program ∧
      a.slots[1]? = some (.ref "x") ∧ a.labels.lookup "x" = some 3 ∧ m.Holds program ∧
      m.status ≠ .halted ∧ m.state.pc = 0 ∧
      ∃ t : Nat, a.labels.lookup "x" = some (t : Int) ∧ m.step.2.step.2.state.pc = t % 256 ∧
        (t < 256 → t < program.length → ∃ inst : Instruction (Fin 4),
          program[t]? = some (.code inst.widen) ∧ LeadsTo a.lines "x" (.code inst.widen) ∧
            m.step.2.step.2.step.1 = .ok inst) := by
  have assembles : assembleSource "x:\nset a,x\nj a\nx:\nin b" "twice" = .ok
      [.code (.unary .set 0), .data 3, .code (.unary .j 0), .code (.unary .input 1)] := by rfl
  have operand : (({} : Assembler).assemble "x:\nset a,x\nj a\nx:\nin b" "twice").2.slots[0 + 1]? =
      some (.ref "x") := by rfl
  have loaded : (({} : Machine).reset [.code (.unary .set 0), .data 3, .code (.unary .j 0),
      .code (.unary .input 1)] (Text.codePoints "A")).1 = .ok () := by rfl
  have held := (Machine.reset_holds loaded).1
  obtain ⟨t, slot, -, -, -, reached, leads, -⟩ :=
    Machine.jump_reaches_label (q := 0) (r := 0) assembles rfl operand rfl held (by decide) rfl
  refine ⟨assembles, operand, rfl, held, by decide, rfl, t, slot, ?_, ?_⟩
  · rw [reached]
  · intro small within
    obtain ⟨inst, state, stands, leading, -, stepped⟩ := leads small within
    exact ⟨inst, stands, leading, congrArg Prod.fst stepped⟩

end DeskComputer
