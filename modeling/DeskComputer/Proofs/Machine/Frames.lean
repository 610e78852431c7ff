import DeskComputer.Proofs.Machine.Buffers
import DeskComputer.Proofs.Machine.Calls

/-!
# What a step may touch

An instruction writes one register at most, its `destination?`, and memory, input, output, link
register and flags are each for a few operations only. Nothing sets the overflow flag, so a jump on
it is never taken unless the flag was stored from outside. Main statement: `after_step_touches`.
-/

namespace DeskComputer

/-- The register that an instruction writes. -/
def Instruction.destination? : Instruction (Fin 4) → Option (Fin 4)
  | .unary .inc r | .unary .dec r | .unary .mvlnk r | .unary .input r | .unary .lshft r
  | .unary .rshft r | .unary .set r | .pair _ r _ | .access .ld r _ _ => some r
  | .unary .and r => some (r + 1)
  | _ => none

def Opcode.setsFlags : Opcode → Bool
  | .unary .inc | .unary .dec | .unary .input | .unary .lshft | .unary .rshft | .unary .and
  | .pair .add | .pair .sub | .access .ld => true
  | _ => false

def Opcode.setsCarry : Opcode → Bool
  | .unary .inc | .unary .dec | .pair .add | .pair .sub => true
  | _ => false

namespace State

variable {s t : State} {words : Array String} {inst : Instruction (Fin 4)}

theorem register_setRegister_other {r q : Fin 4} (other : some r ≠ some q) (s : State)
    (value : Nat) : (s.setRegister r value).register q = s.register q := by
  rw [register_setRegister, if_neg fun same => other (congrArg some same)]

theorem execute_register (done : s.execute words inst = .ok t) {q : Fin 4}
    (other : inst.destination? ≠ some q) : t.register q = s.register q := by
  cases inst with
  | nop =>
    cases done
    rfl
  | unary op r =>
    cases op with
    | set =>
      obtain ⟨value, -, done⟩ := bind_ok.mp done
      cases pure_ok.mp done
      exact register_setRegister_other other s value
    | input =>
      cases done
      refine (register_setRegister_other other s.readInput.2 _).trans ?_
      rw [s.readInput_eq]
      rfl
    | j | jlnk | output =>
      cases done
      rfl
    | _ =>
      cases done
      exact register_setRegister_other other s _
  | pair op r₁ r₂ =>
    cases done
    cases op <;> exact register_setRegister_other other s _
  | branch op condition r =>
    cases done
    unfold executeBranch
    by_cases taken : s.flags.test condition = true
    · rw [if_pos taken]
      cases op <;> rfl
    · rw [if_neg taken]
      rfl
  | access op r base offset =>
    cases done
    cases op with
    | ld => exact register_setRegister_other other s _
    | st => rfl

theorem execute_flags (done : s.execute words inst = .ok t) :
    (inst.opcode.setsFlags = false → t.flags = s.flags) ∧
    (inst.opcode.setsCarry = false → t.flags.carry = s.flags.carry) ∧
    t.flags.overflow = s.flags.overflow := by
  cases inst with
  | nop =>
    cases done
    exact ⟨fun _ => rfl, fun _ => rfl, rfl⟩
  | unary op r =>
    cases op with
    | set =>
      obtain ⟨value, -, done⟩ := bind_ok.mp done
      cases pure_ok.mp done
      exact ⟨fun _ => rfl, fun _ => rfl, rfl⟩
    | input =>
      have same : s.readInput.2.flags = s.flags := by rw [s.readInput_eq]
      cases done
      exact ⟨fun none => (nomatch none), fun _ => (congrArg Flags.carry same :),
        (congrArg Flags.overflow same :)⟩
    | inc | dec =>
      cases done
      exact ⟨fun none => (nomatch none), fun none => (nomatch none), rfl⟩
    | lshft | rshft | and =>
      cases done
      exact ⟨fun none => (nomatch none), fun _ => rfl, rfl⟩
    | mvlnk | j | jlnk | output =>
      cases done
      exact ⟨fun _ => rfl, fun _ => rfl, rfl⟩
  | pair op r₁ r₂ =>
    cases done
    cases op with
    | mv => exact ⟨fun _ => rfl, fun _ => rfl, rfl⟩
    | add | sub => exact ⟨fun none => (nomatch none), fun none => (nomatch none), rfl⟩
  | branch op condition r =>
    cases done
    unfold executeBranch
    by_cases taken : s.flags.test condition = true
    · rw [if_pos taken]
      cases op <;> exact ⟨fun _ => rfl, fun _ => rfl, rfl⟩
    · rw [if_neg taken]
      exact ⟨fun _ => rfl, fun _ => rfl, rfl⟩
  | access op r base offset =>
    cases done
    cases op with
    | ld => exact ⟨fun none => (nomatch none), fun _ => rfl, rfl⟩
    | st => exact ⟨fun _ => rfl, fun _ => rfl, rfl⟩

/-- Memory changes in one place, and only by `st`. -/
theorem execute_memory (done : s.execute words inst = .ok t) {a : Fin 256}
    (other : ∀ r base offset, inst = .access .st r base offset → a ≠ s.address base offset) :
    t.memory.get a = s.memory.get a := by
  obtain ⟨pc, link, registers, flags, rfl⟩ := execute_effect done
  cases inst with
  | unary op r =>
    cases op with
    | input => exact congrArg (·.2.memory.get a) s.readInput_eq
    | _ => rfl
  | access op r base offset =>
    cases op with
    | ld => rfl
    | st =>
      have apart : (s.address base offset : Nat) ≠ a :=
        fun same => other r base offset rfl (Fin.ext same.symm)
      exact Vector.getElem_set_ne (s.address base offset).isLt a.isLt apart
  | _ => rfl

/-- What an instruction may touch of a state, and where it goes on. -/
structure Touches (s : State) (words : Array String) (inst : Instruction (Fin 4)) (t : State) :
    Prop where
  register : ∀ r, inst.destination? ≠ some r → t.register r = s.register r
  memory : (∀ r base offset, inst ≠ .access .st r base offset) → t.memory = s.memory
  stored : ∀ r base offset, inst = .access .st r base offset →
    ∀ a ≠ s.address base offset, t.memory.get a = s.memory.get a
  output : (∀ r, inst ≠ .unary .output r) → t.output = s.output
  written : ∀ r, inst = .unary .output r → t.output = s.output.push (s.register r)
  input : t.input = s.input
  position : (∀ r, inst ≠ .unary .input r) → t.inputPosition = s.inputPosition
  advanced : t.inputPosition = s.inputPosition ∨ t.inputPosition = s.inputPosition + 1
  link : s.saves inst = false → t.link = s.link
  flags : inst.opcode.setsFlags = false → t.flags = s.flags
  carry : inst.opcode.setsCarry = false → t.flags.carry = s.flags.carry
  overflow : t.flags.overflow = s.flags.overflow
  pc : t.pc = (s.target? inst).getD (s.following words inst)

theorem execute_touches (done : s.execute words inst = .ok t) : s.Touches words inst t := by
  obtain ⟨input, moved, grown⟩ := execute_buffers done
  obtain ⟨flags, carry, overflow⟩ := execute_flags done
  refine ⟨fun _ => execute_register done, fun other => ?_, fun r base offset same a apart => ?_,
    fun other => ?_, fun r same => ?_, input, fun other => ?_, ?_, fun saves => ?_, flags, carry,
    overflow, execute_pc done⟩
  · refine Vector.ext fun i inside => ?_
    exact execute_memory done (a := ⟨i, inside⟩) fun r base offset same =>
      absurd same (other r base offset)
  · refine execute_memory done fun q base' offset' again => ?_
    rw [same] at again
    cases again
    exact apart
  · rw [Deed.written?_eq_none other] at grown
    exact Array.toList_inj.mp (grown.trans (List.append_nil _))
  · subst same
    exact Array.toList_inj.mp (grown.trans Array.toList_push.symm)
  · rw [moved, if_neg fun reads => Deed.not_reads other reads.1]
  · rw [moved]
    split
    · exact .inr rfl
    · exact .inl rfl
  · rw [execute_link done, saves]
    rfl

end State

namespace Machine

variable {m : Machine}

theorem step_overflow (m : Machine) :
    m.step.2.state.flags.overflow = m.state.flags.overflow := by
  cases done : m.step.1 with
  | error fault => rw [step_failed_state done]
  | ok inst =>
    obtain ⟨word, state, -, executed, left⟩ := step_done done
    rw [left]
    exact (State.execute_flags executed).2.2

/-- Only a direct store sets the overflow flag. -/
theorem perform_overflow (clear : m.state.flags.overflow = false) {operation : Operation}
    (unset : ∀ flags, operation = .setFlags flags → flags.overflow = false) :
    (m.perform operation).state.flags.overflow = false := by
  cases operation with
  | reset program input =>
    show (m.reset program input).2.state.flags.overflow = false
    rcases m.reset_cases program input with ⟨fault, -, left⟩ | ⟨words, flaw, -, -, left⟩ |
      ⟨words, bytes, -, -, left⟩
    · rw [left]
      exact clear
    · rw [left]
      exact clear
    · rw [left]
  | step => exact m.step_overflow.trans clear
  | run budget =>
    exact run_keeps (P := fun m => m.state.flags.overflow = false)
      (fun m clear => m.step_overflow.trans clear) (fun _ _ clear => clear) budget clear
  | setRegister index value =>
    obtain ⟨registers, left⟩ := m.perform_setRegister index value
    rw [left]
    exact clear
  | writeByte address value => exact clear
  | setFlags flags => exact unset flags rfl
  | breakpoint operation => exact clear

theorem after_overflow {codec : Codec} {history : List Operation}
    (unset : ∀ flags, .setFlags flags ∈ history → flags.overflow = false) :
    (after codec history).state.flags.overflow = false := by
  have fresh : ({ codec } : Machine).state.flags.overflow = false := rfl
  refine List.foldlRecOn (motive := fun m : Machine => m.state.flags.overflow = false)
    history perform fresh ?_
  intro m clear operation member
  refine perform_overflow clear ?_
  rintro flags rfl
  exact unset flags member

/-- What a step that succeeds may touch after any history. If no store from outside has set the
overflow flag, it is clear, and a jump on it is not taken. -/
theorem after_step_touches (codec : Codec) (history : List Operation) :
    let m := after codec history
    let n := m.step.2
    (∀ inst, m.step.1 = .ok inst →
      (∃ word, m.words[m.state.pc]? = some word ∧ Word.decode (.text word) = .ok inst) ∧
      n.words = m.words ∧ m.state.Touches m.words inst n.state) ∧
    ((∀ flags, .setFlags flags ∈ history → flags.overflow = false) →
      m.state.flags.overflow = false ∧
      ∀ op r, m.step.1 = .ok (.branch op 0 r) →
        n.state.pc = (m.state.pc + 1) % m.words.size ∧ n.state.link = m.state.link) := by
  intro m n
  have touches : ∀ inst, m.step.1 = .ok inst →
      (∃ word, m.words[m.state.pc]? = some word ∧ Word.decode (.text word) = .ok inst) ∧
      n.words = m.words ∧ m.state.Touches m.words inst n.state := by
    intro inst done
    rcases m.step_outcome with ⟨word, found, state, -, fetched, decoded, executed, stepped⟩ |
      ⟨fault, left, -, stepped⟩
    · rw [stepped] at done
      cases done
      have left : n = _ := congrArg Prod.snd stepped
      rw [left]
      exact ⟨⟨word, fetched, decoded⟩, rfl, State.execute_touches executed⟩
    · rw [stepped] at done
      cases done
  refine ⟨touches, fun unset => ?_⟩
  have clear : m.state.flags.overflow = false := after_overflow unset
  refine ⟨clear, fun op r done => ?_⟩
  obtain ⟨-, -, touched⟩ := touches _ done
  have untaken : m.state.target? (.branch op 0 r) = none := by
    have failed : ¬m.state.flags.test 0 = true := by
      rw [Flags.test, clear]
      decide
    exact if_neg failed
  have unsaved : m.state.saves (.branch op 0 r) = false := by
    cases op with
    | jcnd => rfl
    | jlnkcnd => exact clear
  refine ⟨?_, touched.link unsaved⟩
  rw [touched.pc, untaken]
  rfl

end Machine

end DeskComputer
