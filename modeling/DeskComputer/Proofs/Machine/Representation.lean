import DeskComputer.Proofs.Machine.History
import DeskComputer.Proofs.Machine.Reset
import DeskComputer.Proofs.Machine.Step
import DeskComputer.Proofs.Text.Bytes

/-!
# The representation of a machine

Values of the machine are plain numbers and words are texts. `Machine.WellFormed` says which of them
occur, and every operation keeps it, a reset that fails halfway included. Main statement:
`after_represented`, what holds of the parts of a machine after any history.
-/

namespace DeskComputer

/-- Registers, memory, input and output hold bytes, and no more input is read than there is. -/
structure State.Bounded (s : State) : Prop where
  registers : ∀ r, s.register r < 256
  memory : ∀ a : Fin 256, s.memory[a] < 256
  input : ∀ b ∈ s.input, b < 256
  output : ∀ b ∈ s.output, b < 256
  position : s.inputPosition ≤ s.input.size

namespace State

variable {s t : State}

@[simp] theorem register_setRegister (s : State) (r q : Fin 4) (value : Nat) :
    (s.setRegister r value).register q = if r = q then value else s.register q := by
  unfold setRegister register
  simp only [Fin.getElem_fin, Vector.getElem_set, Fin.ext_iff]

/-! ### Bounds -/

theorem bounded_initial {input : Array Nat} (bytes : ∀ b ∈ input, b < 256) :
    Bounded { input } where
  registers r := by simp [register]
  memory a := by simp
  input := bytes
  output b hb := by simp at hb
  position := Nat.zero_le _

/-- Program counter, link register and flags are free. -/
theorem Bounded.control (h : s.Bounded) (pc link : Nat) (flags : Flags) :
    Bounded { s with pc, link, flags } :=
  ⟨h.registers, h.memory, h.input, h.output, h.position⟩

theorem Bounded.setRegister (h : s.Bounded) (r : Fin 4) {value : Nat} (byte : value < 256) :
    (s.setRegister r value).Bounded := by
  refine ⟨?_, h.memory, h.input, h.output, h.position⟩
  intro q
  rw [register_setRegister]
  split
  · exact byte
  · exact h.registers q

theorem Bounded.load (h : s.Bounded) (r : Fin 4) {value : Nat} (byte : value < 256) :
    (s.load r value).Bounded :=
  (h.setRegister r byte).control _ _ _

theorem Bounded.advance (h : s.Bounded) : s.advance.Bounded := h.control _ _ _

theorem Bounded.setMemory (h : s.Bounded) (place : Fin 256) {value : Nat} (byte : value < 256) :
    Bounded { s with memory := s.memory.set place value } := by
  refine ⟨h.registers, ?_, h.input, h.output, h.position⟩
  intro a
  simp only [Fin.getElem_fin, Vector.getElem_set]
  split
  · exact byte
  · exact h.memory a

theorem Bounded.pushOutput (h : s.Bounded) {value : Nat} (byte : value < 256) :
    Bounded { s with output := s.output.push value } := by
  refine ⟨h.registers, h.memory, h.input, ?_, h.position⟩
  intro b hb
  rcases Array.mem_push.mp hb with old | new
  · exact h.output b old
  · rw [new]
    exact byte

theorem Bounded.readInput (h : s.Bounded) : s.readInput.1 < 256 ∧ s.readInput.2.Bounded := by
  unfold State.readInput
  split
  · rename_i byte found
    have inside := (Array.getElem?_eq_some_iff.mp found).1
    exact ⟨h.input byte (Array.mem_of_getElem? found),
      ⟨h.registers, h.memory, h.input, h.output, inside⟩⟩
  · exact ⟨Nat.zero_lt_succ _, h⟩

/-! ### Instructions -/

theorem executeUnary_bounded (h : s.Bounded) {words : Array String} {op : UnaryOp} {r : Fin 4}
    (run : s.executeUnary words op r = .ok t) : t.Bounded := by
  have byte := h.registers r
  cases op with
  | inc =>
    cases run
    exact ((h.setRegister r (Nat.mod_lt _ (by decide))).control _ _ _).advance
  | dec =>
    cases run
    exact ((h.setRegister r (Nat.mod_lt _ (by decide))).control _ _ _).advance
  | mvlnk =>
    cases run
    exact (h.setRegister r (Nat.mod_lt _ (by decide))).advance
  | j =>
    cases run
    exact h.control _ _ _
  | jlnk =>
    cases run
    exact h.control _ _ _
  | input =>
    cases run
    exact (h.readInput.2.load r h.readInput.1).advance
  | output =>
    cases run
    exact (h.pushOutput byte).advance
  | lshft =>
    cases run
    exact (h.load r (Nat.mod_lt _ (by decide))).advance
  | rshft =>
    cases run
    exact (h.load r (by omega)).advance
  | and =>
    cases run
    have small : s.register r &&& s.register (r + 1) < 256 :=
      Nat.lt_of_le_of_lt Nat.and_le_left byte
    exact ((h.setRegister (r + 1) small).control _ _ _).advance
  | set =>
    obtain ⟨value, read, run⟩ := bind_ok.mp run
    cases pure_ok.mp run
    exact (h.setRegister r (Word.value_text_lt read)).control _ _ _

theorem executePair_bounded (h : s.Bounded) (op : PairOp) (r₁ r₂ : Fin 4) :
    (s.executePair op r₁ r₂).Bounded := by
  cases op with
  | mv => exact (h.setRegister r₁ (h.registers r₂)).advance
  | add => exact ((h.load r₁ (Nat.mod_lt _ (by decide))).control _ _ _).advance
  | sub => exact ((h.load r₁ (Nat.mod_lt _ (by decide))).control _ _ _).advance

theorem executeBranch_bounded (h : s.Bounded) (words : Array String) (op : BranchOp)
    (condition r : Fin 4) : (s.executeBranch words op condition r).Bounded := by
  unfold executeBranch
  split
  · cases op with
    | jcnd => exact h.control _ _ _
    | jlnkcnd => exact h.control _ _ _
  · exact h.control _ _ _

theorem executeAccess_bounded (h : s.Bounded) (op : AccessOp) (r base offset : Fin 4) :
    (s.executeAccess op r base offset).Bounded := by
  cases op with
  | ld => exact (h.load r (h.memory (s.address base offset))).advance
  | st => exact (h.setMemory _ (h.registers r)).advance

theorem execute_bounded (h : s.Bounded) {words : Array String} {inst : Instruction (Fin 4)}
    (run : s.execute words inst = .ok t) : t.Bounded := by
  cases inst with
  | nop =>
    cases run
    exact h.advance
  | unary op r => exact executeUnary_bounded h run
  | pair op r₁ r₂ =>
    cases run
    exact executePair_bounded h op r₁ r₂
  | branch op condition r =>
    cases run
    exact executeBranch_bounded h words op condition r
  | access op r base offset =>
    cases run
    exact executeAccess_bounded h op r base offset

end State

theorem Flags.toNat_lt (f : Flags) : f.toNat < 16 := by
  have bit : ∀ b : Bool, b.toNat ≤ 1 := Bool.toNat_le
  have n := bit f.negative
  have z := bit f.zero
  have c := bit f.carry
  have v := bit f.overflow
  unfold toNat
  omega

/-! ### Machines -/

/-- What holds of every machine. -/
structure Machine.WellFormed (m : Machine) : Prop where
  bounded : m.state.Bounded
  words : ∀ w ∈ m.words, Word.Binary w
  /-- A machine is halted by something, and only a halted one is. -/
  halted : m.status = .halted ↔ m.haltedBy.isSome

namespace Machine

variable {m : Machine}

theorem wellFormed_fresh (codec : Codec) : WellFormed { codec } where
  bounded := State.bounded_initial (by simp)
  words w hw := by simp at hw
  halted := by simp

theorem WellFormed.halt (h : m.WellFormed) (fault : Fault) : (m.halt fault).WellFormed :=
  ⟨h.bounded, h.words, by simp [Machine.halt]⟩

theorem WellFormed.withState (h : m.WellFormed) {state : State} (bounded : state.Bounded) :
    WellFormed { m with state } :=
  ⟨bounded, h.words, h.halted⟩

theorem wellFormed_loaded {codec : Codec} {breakpoints : Breakpoints}
    {program : List Entry} {words : List String} {input : List Text.CodePoint} {bytes : List Nat}
    (encoded : encodeAll program = .ok words) (readable : codec.encode input = .ok bytes) :
    WellFormed {
      codec
      state := { input := bytes.toArray }
      breakpoints
      program
      words := words.toArray
      status := .loaded } where
  bounded := by
    refine State.bounded_initial ?_
    intro b hb
    exact codec.encode_lt readable b (List.mem_toArray.mp hb)
  words w hw := encodeAll_binary encoded w (List.mem_toArray.mp hw)
  halted := by simp

theorem reset_wellFormed (h : m.WellFormed) (program : List Entry) (input : List Text.CodePoint) :
    (m.reset program input).2.WellFormed := by
  rcases m.reset_cases program input with ⟨fault, -, same⟩ | ⟨words, fault, encoded, -, same⟩ |
    ⟨words, bytes, encoded, readable, same⟩
  · rw [same]
    exact h
  · rw [same]
    exact ⟨h.bounded, fun w hw => encodeAll_binary encoded w (List.mem_toArray.mp hw), h.halted⟩
  · rw [same]
    exact wellFormed_loaded encoded readable

theorem step_wellFormed (h : m.WellFormed) : m.step.2.WellFormed := by
  rcases m.step_cases h.words with ⟨-, stepped⟩ | ⟨-, -, stepped⟩ | ⟨word, -, -, -, stepped⟩ |
    ⟨word, inst, state, running, -, -, executed, stepped⟩
  · rw [stepped]
    exact h
  · rw [stepped]
    exact h.halt _
  · rw [stepped]
    exact h.halt _
  · rw [stepped]
    refine ⟨State.execute_bounded h.bounded executed, h.words, ?_⟩
    have unhalted := (not_congr h.halted).mp running
    simp [unhalted]

theorem setRegister_wellFormed (h : m.WellFormed) {index value : Int} {n : Machine}
    (done : m.setRegister index value = .ok n) : n.WellFormed := by
  unfold setRegister at done
  split at done
  · cases done
    exact h.withState (h.bounded.setRegister _ (by omega))
  · split at done <;> cases done

theorem perform_wellFormed (h : m.WellFormed) (operation : Operation) :
    (m.perform operation).WellFormed := by
  cases operation with
  | reset program input => exact reset_wellFormed h program input
  | step => exact step_wellFormed h
  | run budget =>
    refine run_keeps (fun m h => step_wellFormed h) ?_ budget h
    intro m breakpoints h
    exact ⟨h.bounded, h.words, h.halted⟩
  | setRegister index value =>
    unfold perform
    dsimp only
    split
    · rename_i n done
      exact setRegister_wellFormed h done
    · exact h
  | writeByte address value => exact h.withState (h.bounded.setMemory _ (by omega))
  | setFlags flags => exact h.withState (h.bounded.control _ _ _)
  | breakpoint operation => exact ⟨h.bounded, h.words, h.halted⟩

theorem after_wellFormed (codec : Codec) (history : List Operation) :
    (after codec history).WellFormed :=
  after_keeps (wellFormed_fresh codec) (fun _ operation h => perform_wellFormed h operation)
    history

/-- What holds of the parts of a machine after any history. -/
theorem after_represented (codec : Codec) (history : List Operation) :
    let m := after codec history
    (m.state.registers.toList.length = 4 ∧ ∀ value ∈ m.state.registers, value < 256) ∧
    m.state.flags.toNat < 16 ∧
    (m.state.memory.toList.length = 256 ∧ ∀ byte ∈ m.state.memory, byte < 256) ∧
    0 ≤ m.state.pc ∧
    m.state.inputPosition ≤ m.state.input.size ∧
    (∀ byte ∈ m.state.output, byte < 256) ∧
    ∀ word ∈ m.words, word.length = 8 ∧ ∀ c ∈ word.toList, c = '0' ∨ c = '1' := by
  intro m
  have h : m.WellFormed := after_wellFormed codec history
  refine ⟨⟨Vector.length_toList, ?_⟩, m.state.flags.toNat_lt, ⟨Vector.length_toList, ?_⟩,
    Nat.zero_le _, h.bounded.position, h.bounded.output, h.words⟩
  · intro value hv
    obtain ⟨r, inside, rfl⟩ := Vector.getElem_of_mem hv
    exact h.bounded.registers ⟨r, inside⟩
  · intro byte hb
    obtain ⟨a, inside, rfl⟩ := Vector.getElem_of_mem hb
    exact h.bounded.memory ⟨a, inside⟩

end Machine

end DeskComputer
