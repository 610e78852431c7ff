import DeskComputer.Proofs.Machine.FailedReset
import DeskComputer.Proofs.Program.Views

/-!
# Assembled programs in execution

A machine that holds an assembled program fetches its entries. The data words are those behind a
`set`, and control comes to none of them unless a jump takes it there: the first entry is an
instruction, a `set` is followed by two slots, every other instruction by one, and the last slot by
the first. Main statement: `data_unexecuted`.
-/

namespace DeskComputer

variable {program : List Entry}

/-! ### Fetching -/

/-- The words of a program are in place. -/
def Machine.Holds (m : Machine) (program : List Entry) : Prop :=
  encodeAll program = .ok m.words.toList

theorem Machine.reset_holds {m : Machine} {input : List Text.CodePoint}
    (loaded : (m.reset program input).1 = .ok ()) :
    (m.reset program input).2.Holds program ∧ (m.reset program input).2.state.pc = 0 := by
  obtain ⟨words, bytes, encoded, readable⟩ := reset_succeeds.mp loaded
  rw [reset_loaded encoded readable]
  exact ⟨encoded, rfl⟩

namespace Machine.Holds

variable {m : Machine} {i : Nat}

theorem binary (held : m.Holds program) : ∀ w ∈ m.words, Word.Binary w :=
  fun w member => encodeAll_binary held w (Array.mem_def.mp member)

theorem slots (held : m.Holds program) (assembled : Assembled program) :
    program.map Entry.encode = m.words.toList.map fun word => .ok (some word) := by
  have slots := encodeAll_slots held
  rwa [assembled.filter_takesSlot] at slots

theorem size (held : m.Holds program) (assembled : Assembled program) :
    m.words.size = program.length := by
  have lengths := congrArg List.length (held.slots assembled)
  rw [List.length_map, List.length_map, Array.length_toList] at lengths
  exact lengths.symm

theorem fetch (held : m.Holds program) (assembled : Assembled program) {e : Entry} {word : String}
    (here : program[i]? = some e) (encoded : e.encode = .ok (some word)) :
    m.words[i]? = some word := by
  have slot := congrArg (·[i]?) (held.slots assembled)
  simp only [List.getElem?_map, here, Option.map_some, encoded] at slot
  obtain ⟨found, stored, same⟩ := Option.map_eq_some_iff.mp slot.symm
  cases same
  rwa [Array.getElem?_toList] at stored

/-- An instruction of the program is executed where control comes to it. -/
theorem step (held : m.Holds program) (assembled : Assembled program)
    (running : m.status ≠ .halted) {inst : Instruction (Fin 4)}
    (here : program[m.state.pc]? = some (.code inst.widen)) :
    ∃ state, m.state.execute m.words inst = .ok state ∧
      m.step = (.ok inst, { m with state, status := .stepping, stepCount := m.stepCount + 1 }) := by
  have fetched := held.fetch assembled here (Entry.encode_code inst)
  have inside := (Array.getElem?_eq_some_iff.mp fetched).1
  obtain ⟨state, executed⟩ := State.execute_ok inside held.binary inst
  have decoded : Instruction.ofByte? (Word.toByte (Word.ofByte inst.toByte)) = some inst := by
    rw [Word.toByte_ofByte inst.toByte_lt]
    exact inst.ofByte?_toByte
  exact ⟨state, executed,
    step_executed running fetched (Word.binary_ofByte _) decoded executed⟩

theorem step_execute (held : m.Holds program) (assembled : Assembled program)
    (running : m.status ≠ .halted) {inst : Instruction (Fin 4)}
    (here : program[m.state.pc]? = some (.code inst.widen)) {state : State}
    (executed : m.state.execute m.words inst = .ok state) :
    m.step = (.ok inst, { m with state, status := .stepping, stepCount := m.stepCount + 1 }) := by
  obtain ⟨reached, same, stepped⟩ := held.step assembled running here
  rw [executed] at same
  cases same
  exact stepped

end Machine.Holds

/-! ### Landings -/

/-- A slot to which control may come: that of an instruction, or one past the end. -/
def Landing (program : List Entry) (slot : Nat) : Prop :=
  (∃ inst, program[slot]? = some (.code inst)) ∨ program.length ≤ slot

namespace Assembled

variable {slot : Nat}

theorem landing_iff (h : Assembled program) :
    Landing program slot ↔ ∀ value, program[slot]? ≠ some (.data value) := by
  constructor
  · rintro (⟨inst, here⟩ | past) value data
    · rw [here] at data
      cases data
    · rw [List.getElem?_eq_none past] at data
      cases data
  · intro free
    by_cases past : program.length ≤ slot
    · exact .inr past
    · have here := List.getElem?_eq_getElem (Nat.not_le.mp past)
      rcases h.entries _ (List.getElem_mem (Nat.not_le.mp past)) with ⟨inst, same⟩ | ⟨byte, -, same⟩
      · exact .inl ⟨inst.widen, here.trans (congrArg some same)⟩
      · exact absurd (here.trans (congrArg some same)) (free byte)

theorem narrow (h : Assembled program) {i : Nat} {wide : Instruction Int}
    (here : program[i]? = some (.code wide)) :
    ∃ inst : Instruction (Fin 4), wide = inst.widen := by
  rcases h.entries _ (List.mem_of_getElem? here) with ⟨inst, same⟩ | ⟨byte, -, same⟩
  · exact ⟨inst, Entry.code.inj same⟩
  · cases same

/-- Only behind a `set` is there no landing. -/
theorem landing_of (h : Assembled program)
    (free : ∀ i r, slot = i + 1 → program[i]? ≠ some (.code (.unary .set r))) :
    Landing program slot := by
  rw [h.landing_iff]
  intro value data
  obtain ⟨i, r, same, before⟩ := (h.data_iff slot).mp ⟨value, data⟩
  exact free i r same before

theorem landing_zero (h : Assembled program) : Landing program 0 := by
  apply h.landing_of
  intro i r same
  omega

/-- Control that is not transferred goes on to a landing. -/
theorem landing_following (h : Assembled program) {s : State} {words : Array String}
    {inst : Instruction (Fin 4)} (size : words.size = program.length)
    (here : program[s.pc]? = some (.code inst.widen)) :
    Landing program (s.following words inst) := by
  have inside := (List.getElem?_eq_some_iff.mp here).1
  by_cases set : inst.opcode = .unary .set
  · obtain ⟨r, rfl⟩ := inst.eq_set set
    obtain ⟨value, data⟩ := (h.data_iff (s.pc + 1)).mpr ⟨s.pc, _, rfl, here⟩
    apply h.landing_of
    intro i q same before
    have next : i = s.pc + 1 := by
      have two : s.pc + 2 = i + 1 := same
      omega
    rw [next, data] at before
    cases before
  · -- Neither the next slot nor the first, which comes after the last, stands behind a `set`.
    have onward : Landing program (s.pc + 1) := by
      apply h.landing_of
      intro i q same before
      obtain rfl : i = s.pc := by omega
      rw [here, Option.some.injEq, Entry.code.injEq] at before
      apply set
      rw [← inst.opcode_widen, before]
      rfl
    have around : Landing program (s.nextSlot words) := by
      unfold State.nextSlot
      rw [size]
      by_cases last : s.pc + 1 = program.length
      · rw [last, Nat.mod_self]
        exact h.landing_zero
      · rw [Nat.mod_eq_of_lt (by omega)]
        exact onward
    cases inst with
    | nop => exact onward
    | unary op r =>
      cases op with
      | set => exact absurd rfl set
      | _ => exact onward
    | pair op r₁ r₂ => exact onward
    | branch op condition r => exact around
    | access op r base offset => exact onward

end Assembled

/-! ### Steps and edits -/

namespace Machine

variable {m : Machine}

/-- Whether an operation is an edit, or a step that transfers control to a landing if it transfers
it. -/
def Guided (program : List Entry) (m : Machine) : Operation → Prop
  | .step => ∀ inst slot, m.step.1 = .ok inst → m.state.target? inst = some slot →
      Landing program slot
  | .reset _ _ | .run _ => False
  | .setRegister _ _ | .writeByte _ _ | .setFlags _ | .breakpoint _ => True

/-- Whether every operation of a history is guided when its turn comes. -/
def GuidedThrough (program : List Entry) : Machine → List Operation → Prop
  | _, [] => True
  | m, operation :: history =>
    m.Guided program operation ∧ GuidedThrough program (m.perform operation) history

/-- The words of the program are in place, and control is at a landing. -/
structure OnTrack (program : List Entry) (m : Machine) : Prop where
  holds : m.Holds program
  landing : Landing program m.state.pc

namespace OnTrack

/-- A step fails in a halted machine and past the end only. -/
theorem step_cases (h : m.OnTrack program) (assembled : Assembled program) :
    (m.step = (.error m.haltedFault, m)) ∨
    (m.step = (.error (.outOfProgram m.state.pc m.words.size),
      m.halt (.outOfProgram m.state.pc m.words.size))) ∨
    (∃ inst state, program[m.state.pc]? = some (.code inst.widen) ∧
      m.state.execute m.words inst = .ok state ∧
      m.step =
        (.ok inst, { m with state, status := .stepping, stepCount := m.stepCount + 1 })) := by
  by_cases halted : m.status = .halted
  · exact .inl (step_of_halted halted)
  rcases h.landing with ⟨wide, here⟩ | past
  · obtain ⟨inst, rfl⟩ := assembled.narrow here
    obtain ⟨state, executed, stepped⟩ := h.holds.step assembled halted here
    exact .inr (.inr ⟨inst, state, here, executed, stepped⟩)
  · rw [← h.holds.size assembled] at past
    exact .inr (.inl (step_past_end halted past))

theorem decodes (h : m.OnTrack program) (assembled : Assembled program) (subject : Datum)
    (reason : String) : m.step.1 ≠ .error (.encoding subject reason) := by
  intro failed
  rcases h.step_cases assembled with stepped | stepped | ⟨inst, state, -, -, stepped⟩
  · rw [stepped] at failed
    unfold haltedFault at failed
    split at failed <;> cases failed
  · rw [stepped] at failed
    cases failed
  · rw [stepped] at failed
    cases failed

theorem step_pc (h : m.OnTrack program) (assembled : Assembled program)
    {inst : Instruction (Fin 4)} (done : m.step.1 = .ok inst) :
    m.step.2.state.pc = (m.state.target? inst).getD (m.state.following m.words inst) ∧
      Landing program (m.state.following m.words inst) := by
  rcases h.step_cases assembled with stepped | stepped | ⟨found, state, here, executed, stepped⟩
  · rw [stepped] at done
    cases done
  · rw [stepped] at done
    cases done
  · rw [stepped] at done ⊢
    cases done
    exact ⟨State.execute_pc executed,
      assembled.landing_following (h.holds.size assembled) here⟩

theorem step (h : m.OnTrack program) (assembled : Assembled program)
    (guided : m.Guided program .step) : m.step.2.OnTrack program := by
  rcases h.step_cases assembled with stepped | stepped | ⟨inst, state, here, executed, stepped⟩
  · rw [stepped]
    exact h
  · rw [stepped]
    exact ⟨h.holds, h.landing⟩
  · have done : m.step.1 = .ok inst := by rw [stepped]
    obtain ⟨control, onward⟩ := h.step_pc assembled done
    refine ⟨by rw [stepped]; exact h.holds, ?_⟩
    rw [control]
    cases transferred : m.state.target? inst with
    | none => exact onward
    | some slot => exact guided inst slot done transferred

theorem perform (h : m.OnTrack program) (assembled : Assembled program) {operation : Operation}
    (guided : m.Guided program operation) : (m.perform operation).OnTrack program := by
  cases operation with
  | reset program input => cases guided
  | run budget => cases guided
  | step => exact h.step assembled guided
  | setRegister index value =>
    obtain ⟨registers, left⟩ := m.perform_setRegister index value
    rw [left]
    exact ⟨h.holds, h.landing⟩
  | writeByte address value => exact ⟨h.holds, h.landing⟩
  | setFlags flags => exact ⟨h.holds, h.landing⟩
  | breakpoint operation => exact ⟨h.holds, h.landing⟩

theorem through (h : m.OnTrack program) (assembled : Assembled program) {history : List Operation}
    (guided : GuidedThrough program m history) :
    (history.foldl Machine.perform m).OnTrack program := by
  induction history generalizing m with
  | nil => exact h
  | cons operation history ih => exact ih (h.perform assembled guided.1) guided.2

end OnTrack

/-- As long as control is transferred to landings only, it is at no data word, every word that is
fetched is an instruction, and where control is not transferred it goes on to a landing. -/
theorem data_unexecuted {source file : String} {program : List Entry}
    (assembles : assembleSource source file = .ok program) {start : Machine}
    {input : List Text.CodePoint}
    (loaded : (start.reset program input).1 = .ok ()) {history : List Operation}
    (guided : GuidedThrough program (start.reset program input).2 history) :
    let m := history.foldl perform (start.reset program input).2
    (∀ value, program[m.state.pc]? ≠ some (.data value)) ∧
    (∀ subject reason, m.step.1 ≠ .error (.encoding subject reason)) ∧
    (∀ inst, m.step.1 = .ok inst → m.state.target? inst = none →
      m.step.2.state.pc = m.state.following m.words inst ∧
        ∀ value, program[m.state.following m.words inst]? ≠ some (.data value)) := by
  intro m
  have assembled := assembled_of_assembleSource assembles
  obtain ⟨held, begun⟩ := reset_holds loaded
  have track : m.OnTrack program := by
    have first : (start.reset program input).2.OnTrack program := by
      refine ⟨held, ?_⟩
      rw [begun]
      exact assembled.landing_zero
    exact first.through assembled guided
  refine ⟨assembled.landing_iff.mp track.landing, track.decodes assembled, ?_⟩
  intro inst done untransferred
  obtain ⟨control, onward⟩ := track.step_pc assembled done
  rw [untransferred] at control
  exact ⟨control, assembled.landing_iff.mp onward⟩

/-- A jump to the last slot, and a conditional jump there that goes on in the first. -/
theorem data_unexecuted_around :
    let program : List Entry :=
      [.code (.unary .set 0), .data 3, .code (.unary .j 0), .code (.branch .jcnd 2 0)]
    let start := (({} : Machine).reset program (Text.codePoints "A")).2
    let history : List Operation := [.step, .setRegister (-1) 300, .step, .step]
    let m := history.foldl perform start
    assembleSource "set a,3\nj a\njcnd z,a" "around" = .ok program ∧
      (({} : Machine).reset program (Text.codePoints "A")).1 = .ok () ∧
      GuidedThrough program start history ∧ m.state.pc = 0 ∧ m.stepCount = 3 ∧
      (∀ value, program[m.state.pc]? ≠ some (.data value)) ∧
      ∀ subject reason, m.step.1 ≠ .error (.encoding subject reason) := by
  have guided : GuidedThrough
      [.code (.unary .set 0), .data 3, .code (.unary .j 0), .code (.branch .jcnd 2 0)]
      (({} : Machine).reset
        [.code (.unary .set 0), .data 3, .code (.unary .j 0), .code (.branch .jcnd 2 0)]
        (Text.codePoints "A")).2
      [.step, .setRegister (-1) 300, .step, .step] := by
    refine ⟨?_, trivial, ?_, ?_, trivial⟩
    · rintro inst slot ⟨⟩ ⟨⟩
    · rintro inst slot ⟨⟩ ⟨⟩
      exact .inl ⟨_, rfl⟩
    · rintro inst slot ⟨⟩ ⟨⟩
  have assembles : assembleSource "set a,3\nj a\njcnd z,a" "around" = .ok
      [.code (.unary .set 0), .data 3, .code (.unary .j 0), .code (.branch .jcnd 2 0)] := by rfl
  have whole := data_unexecuted assembles rfl guided
  exact ⟨assembles, rfl, guided, rfl, rfl, whole.1, whole.2.1⟩

end Machine

end DeskComputer
