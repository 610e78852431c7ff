import DeskComputer.Proofs.Machine.Calls
import DeskComputer.Proofs.Machine.Unrolling
import DeskComputer.Proofs.Program.Execution
import DeskComputer.Proofs.Program.Relisting

/-!
# The link register

A call leaves the slot behind it in the link register, and nothing else writes there. Slots are
counted around the program and not around a byte: the register holds a byte in programs of up to 256
words, and more than that after a call from slot 255 or later that is not the last of its program.
Main statement: `link_behind_call`.
-/

namespace DeskComputer

open Source Text

namespace Machine

/-- The last call among a number of steps, if there is one, is that after `i` of them. -/
def LastCall (m : Machine) (k i : Nat) : Prop :=
  i < k ∧ (m.steps i).Calls ∧ ∀ j < k, i < j → ¬(m.steps j).Calls

/-- Before the first call the link register is what it was, and then it holds the slot behind the
last one. -/
theorem steps_link (m : Machine) (k : Nat) :
    ((∀ i < k, ¬(m.steps i).Calls) ∧ (m.steps k).state.link = m.state.link) ∨
      ∃ i, m.LastCall k i ∧ (m.steps i).state.pc < m.words.size ∧
        (m.steps k).state.link = (m.steps i).state.nextSlot m.words := by
  induction k with
  | zero => exact .inl ⟨by simp, rfl⟩
  | succ k ih =>
    have words := m.steps_words k
    -- A call is the last one from then on; any other step leaves the last one as it was.
    by_cases calls : (m.steps k).Calls
    · obtain ⟨inside, link⟩ := step_call calls
      rw [words] at inside link
      refine .inr ⟨k, ⟨Nat.lt_succ_self k, calls, ?_⟩, inside, link⟩
      intro j before after
      omega
    · have same := step_uncalled calls
      rcases ih with ⟨none, link⟩ | ⟨i, ⟨before, last, free⟩, inside, link⟩
      · refine .inl ⟨?_, same.trans link⟩
        intro i within
        rcases Nat.lt_succ_iff_lt_or_eq.mp within with earlier | rfl
        · exact none i earlier
        · exact calls
      · refine .inr ⟨i, ⟨by omega, last, ?_⟩, inside, same.trans link⟩
        intro j within after
        rcases Nat.lt_succ_iff_lt_or_eq.mp within with earlier | rfl
        · exact free j earlier after
        · exact calls

end Machine

/-- Behind a slot of a program there is a byte, unless the slot is 255 or later and not the last. -/
theorem State.le_nextSlot_iff {s : State} {words : Array String} (inside : s.pc < words.size) :
    256 ≤ s.nextSlot words ↔ 255 ≤ s.pc ∧ s.pc + 1 < words.size := by
  unfold nextSlot
  by_cases last : s.pc + 1 = words.size
  · rw [last, Nat.mod_self]
    omega
  · rw [Nat.mod_eq_of_lt (by omega)]
    omega

/-- The link register as slots of the program, after steps of a machine that has it cleared. -/
theorem Machine.link_slot {m : Machine} {program : List Entry}
    (size : m.words.size = program.length) (cleared : m.state.link = 0) (k : Nat) :
    ((∀ i < k, ¬(m.steps i).Calls) ∧ (m.steps k).state.link = 0) ∨
      ∃ i q, m.LastCall k i ∧ q = (m.steps i).state.pc ∧ q < program.length ∧
        (m.steps k).state.link = (q + 1) % program.length ∧
        (256 ≤ (m.steps k).state.link ↔ 255 ≤ q ∧ q + 1 < program.length) := by
  rcases m.steps_link k with ⟨none, same⟩ | ⟨i, last, inside, same⟩
  · exact .inl ⟨none, same.trans cleared⟩
  · have beyond := State.le_nextSlot_iff inside
    rw [← same, size] at beyond
    rw [State.nextSlot, size] at same
    exact .inr ⟨i, _, last, rfl, size ▸ inside, same, beyond⟩

theorem Reads.nops {lines : List String} {entries : List Entry} (h : Reads lines entries)
    (n : Nat) :
    Reads (List.replicate n "nop" ++ lines) (List.replicate n (.code .nop) ++ entries) := by
  induction n with
  | zero => exact h
  | succ n ih =>
    have read : parseStatement (trim "nop".toList) = .ok [.code .nop] := rfl
    have longer := Reads.cons read ih
    exact longer

/-- After any steps and runs of an assembled program, whatever its length and its input, the link
register holds the slot behind the last call, as slots are counted around the program, and zero if
there was none. This is a byte in every program of up to 256 words, and `mvlnk` copies it exactly if
it is. -/
theorem Machine.link_behind_call {source file : String} {program : List Entry}
    (assembles : assembleSource source file = .ok program) {start : Machine}
    {input : List Text.CodePoint}
    (loaded : (start.reset program input).1 = .ok ()) {history : List Operation}
    (executing : ∀ o ∈ history, o.executes = true) :
    let first := (start.reset program input).2
    let m := history.foldl perform first
    (∃ k breakpoints, m = { first.steps k with breakpoints } ∧
      ((∀ i < k, ¬(first.steps i).Calls) ∧ m.state.link = 0 ∨
        ∃ i q, first.LastCall k i ∧ q = (first.steps i).state.pc ∧
          m.state.link = (q + 1) % program.length ∧
          (256 ≤ m.state.link ↔ 255 ≤ q ∧ q + 1 < program.length))) ∧
    (program.length ≤ 256 → m.state.link < 256) ∧
    (∀ r, m.step.1 = .ok (.unary .mvlnk r) →
      m.step.2.state.register r = m.state.link % 256 ∧
        (m.step.2.state.register r = m.state.link ↔ m.state.link < 256)) := by
  intro first m
  have assembled := assembled_of_assembleSource assembles
  have held : first.Holds program := (reset_holds loaded).1
  have cleared : first.state.link = 0 := by
    obtain ⟨words, bytes, encoded, readable⟩ := reset_succeeds.mp loaded
    unfold first
    rw [reset_loaded encoded readable]
  have size := held.size assembled
  obtain ⟨k, breakpoints, reached⟩ := unrolled (m := first) executing
  have here : m = { first.steps k with breakpoints } := reached
  have link : m.state.link = (first.steps k).state.link := by rw [here]
  have slots := link_slot size cleared k
  rw [← link] at slots
  refine ⟨⟨k, breakpoints, here, ?_⟩, ?_, ?_⟩
  · rcases slots with ⟨none, zero⟩ | ⟨i, q, last, place, -, behind, beyond⟩
    · exact .inl ⟨none, zero⟩
    · exact .inr ⟨i, q, last, place, behind, beyond⟩
  · intro short
    rcases slots with ⟨-, zero⟩ | ⟨i, q, -, -, inside, -, beyond⟩
    · omega
    · omega
  · intro r copies
    have low := step_mvlnk copies
    refine ⟨low, ?_⟩
    rw [low]
    omega

theorem Machine.link_behind_call_back :
    let program : List Entry :=
      [.code (.unary .mvlnk 1), .code (.unary .jlnk 0), .code .nop]
    let first := (({} : Machine).reset program []).2
    let m := [Operation.run 2].foldl perform first
    assembleSource "mvlnk b\njlnk a\nnop" "back" = .ok program ∧
      (({} : Machine).reset program []).1 = .ok () ∧ (∀ o ∈ [Operation.run 2], o.executes = true) ∧
      m.state.link = 2 ∧ m.step.1 = .ok (.unary .mvlnk 1) ∧
      m.step.2.state.register 1 = m.state.link := by
  intro program first m
  have assembles : assembleSource "mvlnk b\njlnk a\nnop" "back" = .ok program := by rfl
  have loaded : (({} : Machine).reset program []).1 = .ok () := by rfl
  have executing : ∀ o ∈ [Operation.run 2], o.executes = true := by decide
  have copies : m.step.1 = .ok (.unary .mvlnk 1) := ok_of_toOption (by decide)
  obtain ⟨-, bound, copied⟩ := link_behind_call assembles loaded executing
  have small : m.state.link < 256 := bound (by decide)
  exact ⟨assembles, loaded, executing, by decide, copies, (copied 1 copies).2.mpr small⟩

/-- A call from slot 256 leaves 257 in the link register, and `mvlnk` copies 1. -/
theorem Machine.link_beyond_byte :
    let source := "\n".intercalate (["mvlnk d", "set a, 255", "j a"] ++
      (List.replicate 252 "nop" ++ ["jlnk b", "nop"]))
    let program : List Entry :=
      [.code (.unary .mvlnk 3), .code (.unary .set 0), .data 255, .code (.unary .j 0)] ++
        (List.replicate 252 (.code .nop) ++ [.code (.unary .jlnk 1), .code .nop])
    let m := [Operation.run 5].foldl perform (({} : Machine).reset program []).2
    assembleSource source "long" = .ok program ∧ (({} : Machine).reset program []).1 = .ok () ∧
      m.state.link = 257 ∧ m.step.1 = .ok (.unary .mvlnk 3) ∧ m.step.2.state.register 3 = 1 := by
  intro source program m
  -- The text is too long to be read as a whole: each of its lines is, and the rest put together.
  have reads : Reads (["mvlnk d", "set a, 255", "j a"] ++
      (List.replicate 252 "nop" ++ ["jlnk b", "nop"])) program := by
    have mvlnk : parseStatement (trim "mvlnk d".toList) = .ok [.code (.unary .mvlnk 3)] := rfl
    have set : parseStatement (trim "set a, 255".toList) =
      .ok [.code (.unary .set 0), .data 255] := rfl
    have j : parseStatement (trim "j a".toList) = .ok [.code (.unary .j 0)] := rfl
    have jlnk : parseStatement (trim "jlnk b".toList) = .ok [.code (.unary .jlnk 1)] := rfl
    have last : Reads ["jlnk b", "nop"] [.code (.unary .jlnk 1), .code .nop] :=
      .cons jlnk (Reads.nil.nops 1)
    have whole := Reads.cons mvlnk (.cons set (.cons j (last.nops 252)))
    exact whole
  have unbroken : (["mvlnk d", "set a, 255", "j a"] ++ (List.replicate 252 "nop" ++
      ["jlnk b", "nop"])).all fun line => line.toList.all fun c => !isLineBreak c := by
    decide +kernel
  have linked : link program = .ok program := ok_of_toOption (by decide +kernel)
  refine ⟨reads.assembleSource ?_ linked "long", ok_of_toOption (by decide +kernel),
    by decide +kernel, ok_of_toOption (by decide +kernel), by decide +kernel⟩
  intro line member c inside
  have here := List.all_eq_true.mp (List.all_eq_true.mp unbroken line member) c inside
  simpa using here

end DeskComputer
