import DeskComputer.Proofs.Machine.Representation

/-!
# The life of a machine

A step is decided by the status of the machine, by whether the program counter is inside the
program, and by the word that it points to. Main statement: `after_step_outcome`, what a step
answers and leaves after any history.
-/

namespace DeskComputer.Machine

variable {m : Machine}

theorem WellFormed.haltedFault (h : m.WellFormed) (halted : m.status = .halted) :
    ∃ cause, m.haltedBy = some cause ∧ m.haltedFault = .haltedBy cause := by
  obtain ⟨cause, found⟩ := Option.isSome_iff_exists.mp (h.halted.mp halted)
  refine ⟨cause, found, ?_⟩
  unfold Machine.haltedFault
  rw [found]

/-- The words that no instruction has. -/
def Unused (word : String) : Prop :=
  Word.toByte word = 1 ∨ Word.toByte word = 2 ∨ Word.toByte word = 3

/-- A machine that is not halted is halted by a step that fails: past the end, or at a word that no
instruction has. -/
theorem step_failed (h : m.WellFormed) (running : m.status ≠ .halted) {fault : Fault}
    (failed : m.step.1 = .error fault) :
    m.step.2 = m.halt fault ∧
      (m.words.size ≤ m.state.pc ∧ fault = .outOfProgram m.state.pc m.words.size ∨
        ∃ word, m.words[m.state.pc]? = some word ∧ Unused word ∧ fault = Word.refused word) := by
  rcases m.step_cases h.words with ⟨halted, -⟩ | ⟨-, past, stepped⟩ |
    ⟨word, -, fetched, refused, stepped⟩ | ⟨word, inst, state, -, -, -, -, stepped⟩
  · exact absurd halted running
  · rw [stepped] at failed ⊢
    cases failed
    exact ⟨rfl, .inl ⟨past, rfl⟩⟩
  · rw [stepped] at failed ⊢
    cases failed
    have binary := h.words _ (Array.mem_of_getElem? fetched)
    have unused := (Instruction.ofByte?_eq_none (Word.toByte_lt binary)).mp refused
    exact ⟨rfl, .inr ⟨word, fetched, unused, rfl⟩⟩
  · rw [stepped] at failed
    cases failed

/-- What a step answers and leaves after any history. It fails in the first three cases only: a
halted machine stays as it is, and a machine that halts keeps all but its status. An instruction
that is executed finds everything that it takes for granted. -/
theorem after_step_outcome (codec : Codec) (history : List Operation) :
    let m := after codec history
    (m.status = .halted ↔
      ∃ cause, m.haltedBy = some cause ∧ m.step = (.error (.haltedBy cause), m)) ∧
    (m.status ≠ .halted ∧ m.words.size ≤ m.state.pc ↔
      m.step = (.error (.outOfProgram m.state.pc m.words.size),
        m.halt (.outOfProgram m.state.pc m.words.size))) ∧
    (m.status ≠ .halted ∧ (∃ word, m.words[m.state.pc]? = some word ∧ Unused word) ↔
      ∃ word reason, m.words[m.state.pc]? = some word ∧
        m.step = (.error (.encoding (.text word) reason), m.halt (.encoding (.text word) reason))) ∧
    (m.status ≠ .halted ∧ (∃ word, m.words[m.state.pc]? = some word ∧ ¬Unused word) ↔
      ∃ word inst state, m.words[m.state.pc]? = some word ∧ Word.decode (.text word) = .ok inst ∧
        m.state.Ready m.words inst ∧ m.state.execute m.words inst = .ok state ∧
        m.step =
          (.ok inst, { m with state, status := .stepping, stepCount := m.stepCount + 1 })) := by
  intro m
  have h : m.WellFormed := after_wellFormed codec history
  clear_value m
  have word : ∀ {w}, m.words[m.state.pc]? = some w → Word.Binary w := fun found =>
    h.words _ (Array.mem_of_getElem? found)
  have unused : ∀ {w}, m.words[m.state.pc]? = some w →
      (Instruction.ofByte? (Word.toByte w) = none ↔ Unused w) := fun found =>
    Instruction.ofByte?_eq_none (Word.toByte_lt (word found))
  -- Each way a step can go meets one of the four conditions and none of the others.
  rcases m.step_cases h.words with ⟨halted, stepped⟩ | ⟨running, past, stepped⟩ |
    ⟨w, running, fetched, refused, stepped⟩ |
    ⟨w, inst, state, running, fetched, decoded, executed, stepped⟩
  · obtain ⟨cause, found, same⟩ := h.haltedFault halted
    rw [same] at stepped
    simp [halted, found, stepped]
  · simp [running, past, stepped]
  · have inside := (Array.getElem?_eq_some_iff.mp fetched).1
    have before : ¬m.words.size ≤ m.state.pc := by omega
    have here : Unused w := (unused fetched).mp refused
    simp [running, before, fetched, here, stepped, Word.refused]
  · have inside := (Array.getElem?_eq_some_iff.mp fetched).1
    have before : ¬m.words.size ≤ m.state.pc := by omega
    have here : ¬Unused w := by
      intro bad
      rw [(unused fetched).mpr bad] at decoded
      cases decoded
    have read : Word.decode (.text w) = .ok inst := (Word.decode_ok (word fetched)).mpr decoded
    have ready := State.ready inside h.words h.bounded.registers inst
    simp [running, before, fetched, here, stepped, read, ready, executed]

end DeskComputer.Machine
