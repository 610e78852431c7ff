import DeskComputer.Proofs.Machine.Unrolling
import DeskComputer.Proofs.Program.LabelJump
import DeskComputer.Proofs.Program.Relisting

/-!
# The echo program

Four instructions write each byte of the input to the output, for ever: where the input ends, they
go on with zeros. `Echoed` is the invariant of their loop, counted in rounds of four steps. Main
statement: `run_echo`.
-/

namespace DeskComputer

open Source Text

def echoSource : String := "\n".intercalate ["set r0, 0", "in r1", "out r1", "j r0"]

def echo : List Entry :=
  [.code (.unary .set 0), .data 0, .code (.unary .input 1), .code (.unary .output 1),
    .code (.unary .j 0)]

/-- What is executed of it in a round. -/
def echoRound : List (Instruction (Fin 4)) :=
  [.unary .set 0, .unary .input 1, .unary .output 1, .unary .j 0]

theorem assembleSource_echo (file : String) : assembleSource echoSource file = .ok echo := by
  have set : parseStatement (trim "set r0, 0".toList) = .ok [.code (.unary .set 0), .data 0] := rfl
  have input : parseStatement (trim "in r1".toList) = .ok [.code (.unary .input 1)] := rfl
  have output : parseStatement (trim "out r1".toList) = .ok [.code (.unary .output 1)] := rfl
  have jump : parseStatement (trim "j r0".toList) = .ok [.code (.unary .j 0)] := rfl
  have reads := Reads.cons set (.cons input (.cons output (.cons jump .nil)))
  have unbroken : ∀ line ∈ ["set r0, 0", "in r1", "out r1", "j r0"], ∀ c ∈ line.toList,
      isLineBreak c = false := by
    have plain : (["set r0, 0", "in r1", "out r1", "j r0"].all fun line =>
        line.toList.all fun c => !isLineBreak c) = true := by decide
    simpa only [List.all_eq_true, Bool.not_eq_true'] using plain
  exact reads.assembleSource unbroken rfl file

/-- What a machine has come to that has echoed some bytes for a number of rounds. -/
structure Machine.Echoed (bytes : List Nat) (rounds : Nat) (m : Machine) : Prop where
  holds : m.Holds echo
  running : m.status ≠ .halted
  stepCount : m.stepCount = 4 * rounds
  pc : m.state.pc = 0
  link : m.state.link = 0
  registers : ∀ r, r ≠ 1 → m.state.register r = 0
  memory : ∀ a, m.state.memory.get a = 0
  input : m.state.input = bytes.toArray
  position : m.state.inputPosition = min rounds bytes.length
  consumed : m.consumed = bytes.take rounds
  output : m.state.output.toList = bytes.take rounds ++ List.replicate (rounds - bytes.length) 0

theorem take_padded_succ (bytes : List Nat) (k : Nat) :
    bytes.take (k + 1) ++ List.replicate (k + 1 - bytes.length) 0 =
      bytes.take k ++ List.replicate (k - bytes.length) 0 ++
        [bytes[min k bytes.length]?.getD 0] := by
  by_cases inside : k < bytes.length
  · rw [Nat.min_eq_left (by omega), Nat.sub_eq_zero_of_le (Nat.le_of_lt inside),
      Nat.sub_eq_zero_of_le inside,
      List.take_add_one, List.getElem?_eq_getElem inside]
    simp
  · have past : bytes.length ≤ k := by omega
    rw [Nat.min_eq_right past, List.getElem?_eq_none (Nat.le_refl _), List.take_of_length_le past,
      List.take_of_length_le (by omega), Nat.succ_sub past, List.replicate_succ', List.append_assoc]
    rfl

namespace Machine

variable {m : Machine} {bytes : List Nat} {k : Nat}

/-- The machine in a state to which some more steps have led. -/
def stepped (m : Machine) (s : State) (count : Nat) : Machine :=
  { m with state := s, status := .stepping, stepCount := m.stepCount + count }

theorem executes_echo (held : m.Holds echo) (assembled : Assembled echo)
    (running : m.status ≠ .halted) (start : m.state.pc = 0) :
    let byte := m.state.input[m.state.inputPosition]?.getD 0
    m.Executes echoRound (m.stepped { (m.state.setRegister 0 0).load 1 byte with
      pc := 0
      inputPosition :=
        if m.state.inputPosition < m.state.input.size then m.state.inputPosition + 1
        else m.state.inputPosition
      output := m.state.output.push byte } 4) := by
  intro byte
  let position :=
    if m.state.inputPosition < m.state.input.size then m.state.inputPosition + 1
    else m.state.inputPosition
  -- The states behind the four instructions. Only the second depends on whether input is left.
  let s₁ : State := { m.state.setRegister 0 0 with pc := 2 }
  let s₂ : State := { s₁.load 1 byte with pc := 3, inputPosition := position }
  let s₃ : State := { s₂ with pc := 4, output := m.state.output.push byte }
  let s₄ : State := { s₃ with pc := 0 }
  have first : m.step = (.ok (.unary .set 0), m.stepped s₁ 1) := by
    have here : echo[m.state.pc]? = some (.code (Instruction.unary .set 0).widen) := by
      rw [start]
      rfl
    have operand : echo[m.state.pc + 1]? = some (.data 0) := by
      rw [start]
      rfl
    have done := held.step_set assembled running here operand
    rw [start] at done
    exact done
  have second : (m.stepped s₁ 1).step = (.ok (.unary .input 1), m.stepped s₂ 2) := by
    have executed : s₁.execute m.words (.unary .input 1) = .ok s₂ := by
      have read := s₁.readInput_eq
      show Except.ok (s₁.readInput.2.load 1 s₁.readInput.1).advance = _
      rw [read]
      rfl
    exact Holds.step_execute (m := m.stepped s₁ 1) held assembled Status.noConfusion rfl executed
  have third : (m.stepped s₂ 2).step = (.ok (.unary .output 1), m.stepped s₃ 3) := by
    have value : s₂.register 1 = byte := (s₁.register_setRegister 1 1 byte).trans (if_pos rfl)
    have executed : s₂.execute m.words (.unary .output 1) = .ok s₃ := by
      rw [State.execute, State.executeUnary, value]
      rfl
    exact Holds.step_execute (m := m.stepped s₂ 2) held assembled Status.noConfusion rfl executed
  have fourth : (m.stepped s₃ 3).step = (.ok (.unary .j 0), m.stepped s₄ 4) := by
    have target : s₃.register 0 = 0 := by
      have kept := s₁.register_setRegister 1 0 byte
      rw [if_neg (by decide)] at kept
      exact kept.trans ((m.state.register_setRegister 0 0 0).trans (if_pos rfl))
    have executed : s₃.execute m.words (.unary .j 0) = .ok s₄ := by
      rw [State.execute, State.executeUnary, target]
    exact Holds.step_execute (m := m.stepped s₃ 3) held assembled Status.noConfusion rfl executed
  exact .cons first (.cons second (.cons third (.cons fourth .nil)))

theorem Echoed.round (h : m.Echoed bytes k) (assembled : Assembled echo) :
    ∃ n, m.Executes echoRound n ∧ n.Echoed bytes (k + 1) := by
  refine ⟨_, executes_echo h.holds assembled h.running h.pc, ?_⟩
  have byte : m.state.input[m.state.inputPosition]?.getD 0 =
      bytes[min k bytes.length]?.getD 0 := by
    rw [h.input, h.position, List.getElem?_toArray]
  have position :
      (if m.state.inputPosition < m.state.input.size then m.state.inputPosition + 1
        else m.state.inputPosition) = min (k + 1) bytes.length := by
    rw [h.input, h.position, List.size_toArray]
    split <;> omega
  rw [byte, position]
  refine {
    holds := h.holds
    running := Status.noConfusion
    stepCount := ?_
    pc := rfl
    link := h.link
    registers := ?_
    memory := h.memory
    input := h.input
    position := rfl
    consumed := ?_
    output := ?_ }
  · rw [stepped, h.stepCount]
    rfl
  · intro r other
    have kept :=
      (m.state.setRegister 0 0).register_setRegister 1 r (bytes[min k bytes.length]?.getD 0)
    rw [if_neg other.symm] at kept
    refine kept.trans ((m.state.register_setRegister 0 r 0).trans ?_)
    split
    · rfl
    · exact h.registers r other
  · show m.state.input.toList.take (min (k + 1) bytes.length) = _
    rw [h.input, ← List.take_eq_take_min]
  · show (m.state.output.push _).toList = _
    rw [Array.toList_push, h.output, take_padded_succ]

theorem Echoed.rounds (h : m.Echoed bytes 0) (assembled : Assembled echo) (k : Nat) :
    ∃ n, m.Executes (List.replicate k echoRound).flatten n ∧ n.Echoed bytes k := by
  induction k with
  | zero => exact ⟨m, .nil, h⟩
  | succ k ih =>
    obtain ⟨n, executed, echoed⟩ := ih
    obtain ⟨last, round, next⟩ := echoed.round assembled
    rw [List.replicate_succ', List.flatten_concat]
    exact ⟨last, executed.append round, next⟩

theorem reset_echo {input : List Text.CodePoint} (readable : m.codec.encode input = .ok bytes) :
    (m.reset echo input).1 = .ok () ∧ (m.reset echo input).2.Echoed bytes 0 ∧
      (m.reset echo input).2.breakpoints = { m.breakpoints with lastEvent := none } := by
  obtain ⟨words, encoded⟩ : ∃ words, encodeAll echo = .ok words := ⟨_, rfl⟩
  have loaded := reset_loaded encoded readable
  have held := (reset_holds (congrArg Prod.fst loaded)).1
  rw [loaded] at held ⊢
  refine ⟨rfl, ?_, rfl⟩
  refine {
    holds := held
    running := Status.noConfusion
    stepCount := rfl
    pc := rfl
    link := rfl
    registers := ?_
    memory := ?_
    input := rfl
    position := (Nat.zero_min _).symm
    consumed := rfl
    output := ?_ }
  · intro r _
    simp [State.register]
  · intro a
    exact Vector.getElem_replicate a.isLt
  · simp

/-- The echo program writes the bytes of its input, and zeros behind them. -/
theorem run_echo (file : String) {m : Machine} {input : List Text.CodePoint} {bytes : List Nat}
    (readable : m.codec.encode input = .ok bytes)
    (unpaused : ∀ slot, m.breakpoints.stopsAt slot = false) (k : Nat) :
    ∃ program, assembleSource echoSource file = .ok program ∧
      (m.reset program input).1 = .ok () ∧
      let r := (m.reset program input).2.run (4 * k : Nat)
      r.machine.Echoed bytes k ∧
        r.executed.map Executed.inst = (List.replicate k echoRound).flatten ∧
        r.stop = .ok {
          reason := .maxSteps
          address := some 0
          steps := (4 * k : Nat)
          message := s!"Reached max steps ({((4 * k : Nat) : Int)})" } := by
  have assembles := assembleSource_echo file
  have assembled := assembled_of_assembleSource assembles
  obtain ⟨loaded, start, breakpoints⟩ := reset_echo readable
  refine ⟨echo, assembles, loaded, ?_⟩
  have free : ∀ slot, (m.reset echo input).2.breakpoints.stopsAt slot = false := by
    rw [breakpoints]
    exact unpaused
  obtain ⟨n, executed, echoed⟩ := start.rounds assembled k
  have count : (List.replicate k echoRound).flatten.length = 4 * k := by
    simp [echoRound, Nat.mul_comm]
  obtain ⟨trace, machine, stop⟩ := executed.run start.running free
  rw [count] at trace machine stop
  rw [echoed.pc] at stop
  refine ⟨?_, trace, stop⟩
  rw [machine]
  exact echoed

/-- A character of two bytes, and one round more than these. -/
theorem run_echo_exhausted :
    ({} : Machine).codec.encode (Text.codePoints "é") = .ok [195, 169] ∧
      (∀ slot, ({} : Machine).breakpoints.stopsAt slot = false) ∧
      ∃ program, assembleSource echoSource "echo" = .ok program ∧
        (({} : Machine).reset program (Text.codePoints "é")).1 = .ok () ∧
        let r := (({} : Machine).reset program (Text.codePoints "é")).2.run (4 * 3 : Nat)
        r.machine.Echoed [195, 169] 3 ∧
          r.executed.map Executed.inst = (List.replicate 3 echoRound).flatten ∧
          r.stop = .ok {
            reason := .maxSteps
            address := some 0
            steps := (4 * 3 : Nat)
            message := s!"Reached max steps ({((4 * 3 : Nat) : Int)})" } :=
  ⟨rfl, fun _ => rfl, run_echo "echo" rfl (fun _ => rfl) 3⟩

end Machine

end DeskComputer
