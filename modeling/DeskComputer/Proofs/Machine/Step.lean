import DeskComputer.Machine.Basic
import DeskComputer.Proofs.Word.Codec

/-!
# One step

`State.Ready` says what an instruction takes for granted, and `Machine.step_cases` everything that a
step can do: nothing in a halted machine, halt past the end or at a word that stands for no
instruction, and otherwise execute the instruction that the word stands for.
-/

namespace DeskComputer

/-- What an instruction takes for granted: slots to come back to or to go on at, a data word for
`set`, a byte for `output`. -/
def State.Ready (s : State) (words : Array String) : Instruction (Fin 4) → Prop
  | .unary .set _ => ∃ word, words[s.nextSlot words]? = some word ∧ Word.Binary word
  | .unary .output r => s.register r < 256
  | .unary .jlnk _ | .branch _ _ _ => 0 < words.size
  | _ => True

theorem State.nextSlot_lt {s : State} {words : Array String} (h : s.pc < words.size) :
    s.nextSlot words < words.size :=
  Nat.mod_lt _ (Nat.lt_of_le_of_lt (Nat.zero_le _) h)

/-- In a program of binary words nothing is missing for any instruction. -/
theorem State.ready {s : State} {words : Array String} (inside : s.pc < words.size)
    (binary : ∀ w ∈ words, Word.Binary w) (bytes : ∀ r, s.register r < 256)
    (inst : Instruction (Fin 4)) : s.Ready words inst := by
  have positive : 0 < words.size := by omega
  have next := nextSlot_lt inside
  cases inst with
  | nop => exact trivial
  | unary op r =>
    cases op with
    | set => exact ⟨_, Array.getElem?_eq_getElem next, binary _ (Array.getElem_mem next)⟩
    | output => exact bytes r
    | jlnk => exact positive
    | _ => exact trivial
  | pair op r₁ r₂ => exact trivial
  | branch op condition r => exact positive
  | access op r base offset => exact trivial

theorem State.executeUnary_set {s : State} {words : Array String} {word : String} (r : Fin 4)
    (fetched : words[s.nextSlot words]? = some word) (binary : Word.Binary word) :
    s.executeUnary words .set r =
      .ok { s.setRegister r (Word.toByte word) with pc := s.pc + 2 } := by
  unfold executeUnary
  dsimp only
  rw [fetched, Option.getD_some, Word.value_text_of_binary binary]
  rfl

/-- Of the instructions only `set` can fail, and it does not in a program of binary words. -/
theorem State.execute_ok {s : State} {words : Array String} (inside : s.pc < words.size)
    (binary : ∀ w ∈ words, Word.Binary w) (inst : Instruction (Fin 4)) :
    ∃ t, s.execute words inst = .ok t := by
  have next := nextSlot_lt inside
  cases inst with
  | unary op r =>
    cases op with
    | set =>
      exact ⟨_, executeUnary_set r (Array.getElem?_eq_getElem next)
        (binary _ (Array.getElem_mem next))⟩
    | _ => exact ⟨_, rfl⟩
  | _ => exact ⟨_, rfl⟩

theorem State.execute_error {s : State} {words : Array String} {inst : Instruction (Fin 4)}
    {fault : Fault} (refused : s.execute words inst = .error fault) :
    ∃ word reason, fault = .encoding (.text word) reason := by
  cases inst with
  | unary op r =>
    cases op with
    | set =>
      rcases bind_error.mp refused with unread | ⟨value, -, done⟩
      · exact ⟨_, Word.value_text_error unread⟩
      · cases done
    | _ => cases refused
  | _ => cases refused

/-! ### Control -/

/-- The slot to which an instruction transfers control, if it does. -/
def State.target? (s : State) : Instruction (Fin 4) → Option Nat
  | .unary .j r | .unary .jlnk r => some (s.register r)
  | .branch _ condition r => if s.flags.test condition then some (s.register r) else none
  | _ => none

/-- The slot at which execution goes on where control is not transferred. -/
def State.following (s : State) (words : Array String) : Instruction (Fin 4) → Nat
  | .unary .set _ => s.pc + 2
  | .branch _ _ _ => s.nextSlot words
  | _ => s.pc + 1

theorem State.readInput_eq (s : State) :
    s.readInput = (s.input[s.inputPosition]?.getD 0, { s with inputPosition :=
      if s.inputPosition < s.input.size then s.inputPosition + 1 else s.inputPosition }) := by
  unfold readInput
  split
  · rename_i byte found
    rw [found, if_pos (Array.getElem?_eq_some_iff.mp found).1]
    rfl
  · rename_i missing
    rw [missing, if_neg (by simpa using missing)]
    rfl

theorem State.execute_pc {s t : State} {words : Array String} {inst : Instruction (Fin 4)}
    (done : s.execute words inst = .ok t) :
    t.pc = (s.target? inst).getD (s.following words inst) := by
  cases inst with
  | nop =>
    cases done
    rfl
  | unary op r =>
    cases op with
    | set =>
      obtain ⟨value, -, done⟩ := bind_ok.mp done
      cases pure_ok.mp done
      rfl
    | input =>
      cases done
      exact congrArg (·.2.pc + 1) s.readInput_eq
    | _ =>
      cases done
      rfl
  | pair op r₁ r₂ =>
    cases done
    cases op <;> rfl
  | branch op condition r =>
    cases done
    unfold executeBranch
    by_cases taken : s.flags.test condition = true
    · have jumps : s.target? (.branch op condition r) = some (s.register r) := if_pos taken
      rw [jumps, if_pos taken]
      cases op <;> rfl
    · have stays : s.target? (.branch op condition r) = none := if_neg taken
      rw [stays, if_neg taken]
      rfl
  | access op r base offset =>
    cases done
    cases op <;> rfl

/-! ### Data -/

/-- The state with what an instruction does to memory, input and output. -/
def State.effect (s : State) : Instruction (Fin 4) → State
  | .unary .input _ => s.readInput.2
  | .unary .output r => { s with output := s.output.push (s.register r) }
  | .access op r base offset => { s with memory := (s.executeAccess op r base offset).memory }
  | _ => s

theorem State.execute_effect {s t : State} {words : Array String} {inst : Instruction (Fin 4)}
    (done : s.execute words inst = .ok t) :
    ∃ pc link registers flags, t = { s.effect inst with pc, link, registers, flags } := by
  cases inst with
  | nop =>
    cases done
    exact ⟨_, _, _, _, rfl⟩
  | unary op r =>
    cases op with
    | set =>
      obtain ⟨value, -, done⟩ := bind_ok.mp done
      cases pure_ok.mp done
      exact ⟨_, _, _, _, rfl⟩
    | _ =>
      cases done
      exact ⟨_, _, _, _, rfl⟩
  | pair op r₁ r₂ =>
    cases done
    cases op <;> exact ⟨_, _, _, _, rfl⟩
  | branch op condition r =>
    cases done
    unfold executeBranch
    by_cases taken : s.flags.test condition = true
    · rw [if_pos taken]
      cases op <;> exact ⟨_, _, _, _, rfl⟩
    · rw [if_neg taken]
      exact ⟨_, _, _, _, rfl⟩
  | access op r base offset =>
    cases done
    cases op <;> exact ⟨_, _, _, _, rfl⟩

/-- A register has a value, and zero and negative tell of it. -/
def State.Shows (s : State) (r : Fin 4) (value : Nat) : Prop :=
  s.register r = value ∧ s.flags.zero = decide (value = 0) ∧
    s.flags.negative = decide (128 ≤ value)

theorem State.load_shows (s : State) (r : Fin 4) (value : Nat) :
    (s.load r value).advance.Shows r value :=
  ⟨Vector.getElem_set_self r.isLt, rfl, rfl⟩

theorem State.execute_ld {s t : State} {words : Array String} {r base offset : Fin 4}
    (done : s.execute words (.access .ld r base offset) = .ok t) :
    t.Shows r (s.memory.get (s.address base offset)) := by
  cases done
  exact s.load_shows r _

theorem State.execute_input {s t : State} {words : Array String} {r : Fin 4}
    (done : s.execute words (.unary .input r) = .ok t) :
    t.Shows r (s.input[s.inputPosition]?.getD 0) := by
  have same : s.readInput.1 = s.input[s.inputPosition]?.getD 0 := congrArg Prod.fst s.readInput_eq
  cases done
  rw [← same]
  exact s.readInput.2.load_shows r _

namespace Machine

variable {m : Machine}

/-- The parts of a machine that a step can change. -/
theorem step_frame (m : Machine) : ∃ state status haltedBy stepCount,
    m.step.2 = { m with state, status, haltedBy, stepCount } := by
  unfold step
  split
  · exact ⟨_, _, _, _, rfl⟩
  · split
    · exact ⟨_, _, _, _, rfl⟩
    · split
      · exact ⟨_, _, _, _, rfl⟩
      · split
        · exact ⟨_, _, _, _, rfl⟩
        · exact ⟨_, _, _, _, rfl⟩

/-- A step executes the instruction that it has fetched, or fails and leaves the state alone. -/
theorem step_outcome (m : Machine) :
    (∃ word inst state, m.status ≠ .halted ∧ m.words[m.state.pc]? = some word ∧
      Word.decode (.text word) = .ok inst ∧ m.state.execute m.words inst = .ok state ∧
      m.step =
        (.ok inst, { m with state, status := .stepping, stepCount := m.stepCount + 1 })) ∨
    (∃ fault n, n.state = m.state ∧ m.step = (.error fault, n)) := by
  unfold step
  split
  · exact .inr ⟨_, m, rfl, rfl⟩
  · rename_i running
    split
    · exact .inr ⟨_, m.halt _, rfl, rfl⟩
    · rename_i word fetched
      split
      · exact .inr ⟨_, m.halt _, rfl, rfl⟩
      · rename_i inst decoded
        split
        · exact .inr ⟨_, m, rfl, rfl⟩
        · rename_i state executed
          exact .inl ⟨word, inst, state, running, fetched, decoded, executed, rfl⟩

theorem step_done {inst : Instruction (Fin 4)} (done : m.step.1 = .ok inst) :
    ∃ word state, m.words[m.state.pc]? = some word ∧ m.state.execute m.words inst = .ok state ∧
      m.step.2 = { m with state, status := .stepping, stepCount := m.stepCount + 1 } := by
  rcases m.step_outcome with ⟨word, found, state, -, fetched, -, executed, stepped⟩ |
    ⟨fault, n, -, stepped⟩
  · rw [stepped] at done ⊢
    cases done
    exact ⟨word, state, fetched, executed, rfl⟩
  · rw [stepped] at done
    cases done

theorem step_failed_state {fault : Fault} (failed : m.step.1 = .error fault) :
    m.step.2.state = m.state := by
  rcases m.step_outcome with ⟨word, inst, state, -, -, -, -, stepped⟩ | ⟨_, n, same, stepped⟩
  · rw [stepped] at failed
    cases failed
  · rw [stepped]
    exact same

/-- Whatever a step fails with can be written. -/
theorem step_writable (m : Machine) : m.step.1 ≠ .error .unwritable := by
  unfold step
  split
  · unfold haltedFault
    cases m.haltedBy <;> exact nofun
  · split
    · exact nofun
    · split
      · rename_i fault refused
        obtain ⟨reason, rfl⟩ := Word.decode_text_error refused
        exact nofun
      · split
        · rename_i fault refused
          obtain ⟨word, reason, rfl⟩ := State.execute_error refused
          exact nofun
        · exact nofun

theorem step_stepping {inst : Instruction (Fin 4)} {n : Machine} (done : m.step = (.ok inst, n)) :
    n.status = .stepping := by
  obtain ⟨word, state, -, -, same⟩ := step_done (congrArg Prod.fst done)
  rw [done] at same
  exact congrArg Machine.status same

theorem step_of_halted (halted : m.status = .halted) : m.step = (.error m.haltedFault, m) := by
  unfold step
  rw [if_pos halted]

theorem step_past_end (running : m.status ≠ .halted) (past : m.words.size ≤ m.state.pc) :
    m.step = (.error (.outOfProgram m.state.pc m.words.size),
      m.halt (.outOfProgram m.state.pc m.words.size)) := by
  unfold step
  rw [if_neg running, Array.getElem?_eq_none past]

theorem step_refused {word : String} (running : m.status ≠ .halted)
    (fetched : m.words[m.state.pc]? = some word) (binary : Word.Binary word)
    (refused : Instruction.ofByte? (Word.toByte word) = none) :
    m.step = (.error (Word.refused word), m.halt (Word.refused word)) := by
  unfold step
  rw [if_neg running, fetched]
  dsimp only
  rw [Word.decode_of_binary binary, refused]
  rfl

theorem step_executed {word : String} {inst : Instruction (Fin 4)} {state : State}
    (running : m.status ≠ .halted) (fetched : m.words[m.state.pc]? = some word)
    (binary : Word.Binary word) (decoded : Instruction.ofByte? (Word.toByte word) = some inst)
    (executed : m.state.execute m.words inst = .ok state) :
    m.step = (.ok inst, { m with state, status := .stepping, stepCount := m.stepCount + 1 }) := by
  unfold step
  rw [if_neg running, fetched]
  dsimp only
  rw [Word.decode_of_binary binary, decoded]
  dsimp only [Option.map_some, Option.getD_some]
  rw [executed]

/-- Everything that a step of a program of binary words can do. -/
theorem step_cases (binary : ∀ w ∈ m.words, Word.Binary w) :
    (m.status = .halted ∧ m.step = (.error m.haltedFault, m)) ∨
    (m.status ≠ .halted ∧ m.words.size ≤ m.state.pc ∧
      m.step = (.error (.outOfProgram m.state.pc m.words.size),
        m.halt (.outOfProgram m.state.pc m.words.size))) ∨
    (∃ word, m.status ≠ .halted ∧ m.words[m.state.pc]? = some word ∧
      Instruction.ofByte? (Word.toByte word) = none ∧
      m.step = (.error (Word.refused word), m.halt (Word.refused word))) ∨
    (∃ word inst state, m.status ≠ .halted ∧ m.words[m.state.pc]? = some word ∧
      Instruction.ofByte? (Word.toByte word) = some inst ∧
      m.state.execute m.words inst = .ok state ∧
      m.step =
        (.ok inst, { m with state, status := .stepping, stepCount := m.stepCount + 1 })) := by
  by_cases halted : m.status = .halted
  · exact .inl ⟨halted, step_of_halted halted⟩
  refine .inr ?_
  by_cases past : m.words.size ≤ m.state.pc
  · exact .inl ⟨halted, past, step_past_end halted past⟩
  refine .inr ?_
  have inside : m.state.pc < m.words.size := by omega
  have fetched := Array.getElem?_eq_getElem inside
  have word := binary _ (Array.getElem_mem inside)
  cases decoded : Instruction.ofByte? (Word.toByte m.words[m.state.pc]) with
  | none => exact .inl ⟨_, halted, fetched, decoded, step_refused halted fetched word decoded⟩
  | some inst =>
    obtain ⟨state, executed⟩ := State.execute_ok inside binary inst
    exact .inr ⟨_, inst, state, halted, fetched, decoded, executed,
      step_executed halted fetched word decoded executed⟩

end Machine

end DeskComputer
