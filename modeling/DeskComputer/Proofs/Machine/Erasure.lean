import DeskComputer.Proofs.Machine.FailedReset
import DeskComputer.Proofs.Machine.Unrolling

/-!
# What a reset erases

A reset that succeeds leaves nothing of the past but the breakpoints, and with breakpoints an
execution has no more to do than to stop at the enabled ones. So machines with different pasts
answer the same and stay the same after it. Main statement: `reset_erases`.
-/

namespace DeskComputer.Machine

variable {m n : Machine} {b : Breakpoints}

/-! ### Answers -/

inductive Answer where
  | done (outcome : Except Fault Unit)
  | stepped (outcome : Except Fault (Instruction (Fin 4)))
  /-- A run answers each instruction as it is executed, and at the end why it stopped. -/
  | ran (executed : List Executed) (stop : Except Fault Event)
  | checked (event? : Except Fault (Option Event))

def answer (m : Machine) : Operation → Answer
  | .reset program input => .done (m.reset program input).1
  | .step => .stepped m.step.1
  | .run budget => .ran (m.run budget).executed (m.run budget).stop
  | .setRegister index value => .done ((m.setRegister index value).map fun _ => ())
  | .writeByte _ _ | .setFlags _ => .done (.ok ())
  | .breakpoint (.add slot) => .done (m.breakpoints.add slot).1
  | .breakpoint (.check slot) => .checked (m.breakpoints.check slot).1
  | .breakpoint _ => .done (.ok ())

def answers : Machine → List Operation → List Answer
  | _, [] => []
  | m, operation :: future => m.answer operation :: answers (m.perform operation) future

/-! ### Machines but for their breakpoints -/

/-- A machine without its breakpoints, but with their last event. -/
def bare (m : Machine) : Machine :=
  { m with breakpoints := { lastEvent := m.breakpoints.lastEvent } }

/-- Machines that differ in breakpoints only, and not in the slots where a run stops. -/
structure Alike (m n : Machine) : Prop where
  bare : m.bare = n.bare
  stops : ∀ slot, m.breakpoints.stopsAt slot = n.breakpoints.stopsAt slot

theorem bare_eq : m.bare = n.bare ↔
    ∃ b : Breakpoints, n = { m with breakpoints := b } ∧
      b.lastEvent = m.breakpoints.lastEvent := by
  constructor
  · intro same
    exact ⟨n.breakpoints,
      (congrArg (fun m : Machine => { m with breakpoints := n.breakpoints }) same).symm,
      (congrArg (fun m => m.breakpoints.lastEvent) same).symm⟩
  · rintro ⟨b, rfl, last⟩
    simp only [bare, last]

theorem alike_iff : m.Alike n ↔
    ∃ b : Breakpoints, n = { m with breakpoints := b } ∧
      b.lastEvent = m.breakpoints.lastEvent ∧
      ∀ slot, m.breakpoints.stopsAt slot = b.stopsAt slot := by
  constructor
  · rintro ⟨same, stops⟩
    obtain ⟨b, rfl, last⟩ := bare_eq.mp same
    exact ⟨b, rfl, last, stops⟩
  · rintro ⟨b, rfl, last, stops⟩
    exact ⟨bare_eq.mpr ⟨b, rfl, last⟩, stops⟩

/-! ### Operations -/

namespace Alike

theorem step (h : m.Alike n) : m.step.1 = n.step.1 ∧ m.step.2.Alike n.step.2 := by
  obtain ⟨b, rfl, last, stops⟩ := alike_iff.mp h
  obtain ⟨state, status, haltedBy, stepCount, same⟩ := m.step_frame
  rw [step_breakpoints m b, same]
  exact ⟨rfl, alike_iff.mpr ⟨b, rfl, last, stops⟩⟩

/-- Runs take the same turns: whether one pauses is a matter of the enabled breakpoints, and what
else it does is a step. -/
theorem runFrom (h : m.Alike n) (budget : Int) (left steps : Nat) (trace : List Executed) :
    let r := Machine.runFrom budget left steps trace m
    let q := Machine.runFrom budget left steps trace n
    r.executed = q.executed ∧ r.stop = q.stop ∧ r.machine.Alike q.machine := by
  -- What is recorded grows with every turn, so the induction is on what is left of the budget.
  induction left generalizing steps trace m n with
  | zero =>
    obtain ⟨b, rfl, -⟩ := alike_iff.mp h
    exact ⟨rfl, rfl, h⟩
  | succ left ih =>
    have state : m.state = n.state := by
      obtain ⟨b, rfl, -⟩ := alike_iff.mp h
      rfl
    obtain ⟨answered, next⟩ := h.step
    by_cases paused : 0 < steps ∧ m.breakpoints.stopsAt m.state.pc = true
    · have also : n.breakpoints.stopsAt n.state.pc = true := by
        rw [← h.stops, ← state]
        exact paused.2
      rw [runFrom_paused paused.1 paused.2, runFrom_paused paused.1 also, state]
      obtain ⟨b, rfl, -, stops⟩ := alike_iff.mp h
      exact ⟨rfl, rfl, alike_iff.mpr ⟨_, rfl, rfl, stops⟩⟩
    · -- Both do the same step, and whether it fails does not depend on breakpoints either.
      have free : ¬(0 < steps ∧ n.breakpoints.stopsAt n.state.pc = true) := by
        rw [← h.stops, ← state]
        exact paused
      cases stepped : m.step.1 with
      | error fault =>
        rw [runFrom_failed paused stepped, runFrom_failed free (answered ▸ stepped), state]
        exact ⟨rfl, rfl, next⟩
      | ok inst =>
        have after : m.step.2.state = n.step.2.state := by
          obtain ⟨b, same, -⟩ := alike_iff.mp next
          rw [same]
        rw [runFrom_executed paused stepped, runFrom_executed free (answered ▸ stepped), state,
          after]
        exact ih next (steps + 1) _

theorem run (h : m.Alike n) (budget : Int) :
    (m.run budget).executed = (n.run budget).executed ∧
      (m.run budget).stop = (n.run budget).stop ∧
      (m.run budget).machine.Alike (n.run budget).machine := by
  have whole := h.runFrom budget budget.toNat 0 []
  obtain ⟨b, rfl, -⟩ := alike_iff.mp h
  unfold Machine.run
  dsimp only
  split
  · exact ⟨rfl, rfl, h⟩
  · exact whole

theorem reset (h : m.Alike n) (program : List Entry) (input : List Text.CodePoint) :
    (m.reset program input).1 = (n.reset program input).1 ∧
      (m.reset program input).2.Alike (n.reset program input).2 := by
  obtain ⟨b, rfl, last, stops⟩ := alike_iff.mp h
  rcases m.reset_cases program input with ⟨fault, refused, same⟩ |
    ⟨words, flaw, encoded, unreadable, same⟩ | ⟨words, bytes, encoded, readable, same⟩
  · rw [same, reset_unencoded refused]
    exact ⟨rfl, h⟩
  · rw [same, reset_unreadable (m := { m with breakpoints := b }) encoded unreadable]
    exact ⟨rfl, alike_iff.mpr ⟨b, rfl, last, stops⟩⟩
  · rw [same, reset_loaded (m := { m with breakpoints := b }) encoded readable]
    exact ⟨rfl, alike_iff.mpr ⟨_, rfl, rfl, stops⟩⟩

/-- An operation that leaves breakpoints to themselves answers the same and keeps the likeness. -/
theorem perform (h : m.Alike n) {operation : Operation}
    (apart : ∀ o, operation ≠ .breakpoint o) :
    m.answer operation = n.answer operation ∧
      (m.perform operation).Alike (n.perform operation) := by
  cases operation with
  | reset program input =>
    obtain ⟨same, after⟩ := h.reset program input
    exact ⟨congrArg Answer.done same, after⟩
  | step =>
    obtain ⟨same, after⟩ := h.step
    exact ⟨congrArg Answer.stepped same, after⟩
  | run budget =>
    obtain ⟨executed, stop, after⟩ := h.run budget
    exact ⟨congrArg₂ Answer.ran executed stop, after⟩
  | setRegister index value =>
    obtain ⟨b, rfl, last, stops⟩ := alike_iff.mp h
    unfold answer Machine.perform setRegister
    dsimp only
    split
    · exact ⟨rfl, alike_iff.mpr ⟨b, rfl, last, stops⟩⟩
    · split
      · exact ⟨rfl, h⟩
      · exact ⟨rfl, h⟩
  | writeByte address value =>
    obtain ⟨b, rfl, last, stops⟩ := alike_iff.mp h
    exact ⟨rfl, alike_iff.mpr ⟨b, rfl, last, stops⟩⟩
  | setFlags flags =>
    obtain ⟨b, rfl, last, stops⟩ := alike_iff.mp h
    exact ⟨rfl, alike_iff.mpr ⟨b, rfl, last, stops⟩⟩
  | breakpoint o => exact absurd rfl (apart o)

theorem future (h : m.Alike n) {future : List Operation} (apart : ∀ o, .breakpoint o ∉ future) :
    m.answers future = n.answers future ∧
      (future.foldl Machine.perform m).Alike (future.foldl Machine.perform n) := by
  induction future generalizing m n with
  | nil => exact ⟨rfl, h⟩
  | cons operation future ih =>
    obtain ⟨same, next⟩ := h.perform fun o here => apart o (here ▸ List.mem_cons_self)
    obtain ⟨rest, after⟩ := ih next fun o later => apart o (List.mem_cons_of_mem _ later)
    exact ⟨congrArg₂ List.cons same rest, after⟩

end Alike

/-! ### Resets -/

/-- What a reset answers and leaves depends on the codec, the program and the input. -/
theorem reset_bare (same : m.codec = n.codec) (program : List Entry) (input : List Text.CodePoint) :
    (m.reset program input).1 = (n.reset program input).1 ∧
      ((m.reset program input).1 = .ok () →
        (m.reset program input).2.bare = (n.reset program input).2.bare) := by
  rcases m.reset_cases program input with ⟨fault, refused, left⟩ |
    ⟨words, fault, encoded, unreadable, left⟩ | ⟨words, bytes, encoded, readable, left⟩
  · rw [left, reset_unencoded refused]
    refine ⟨rfl, ?_⟩
    intro succeeded
    cases succeeded
  · rw [left, reset_unreadable encoded (same ▸ unreadable)]
    refine ⟨rfl, ?_⟩
    intro succeeded
    cases succeeded
  · rw [left, reset_loaded encoded (same ▸ readable)]
    exact ⟨rfl, fun _ => by simp only [bare, same]⟩

theorem reset_stops (m : Machine) (program : List Entry) (input : List Text.CodePoint)
    (slot : Int) :
    (m.reset program input).2.breakpoints.stopsAt slot = m.breakpoints.stopsAt slot := by
  rcases m.reset_cases program input with ⟨fault, -, left⟩ | ⟨words, fault, -, -, left⟩ |
    ⟨words, bytes, -, -, left⟩
  · rw [left]
  · rw [left]
  · rw [left]
    rfl

/-- A machine that is given its own program again is refused for the input only, and has the same
words. -/
theorem Loaded.reload {codec : Codec} (h : m.Loaded codec) (input : List Text.CodePoint) :
    ((m.reset m.program input).1 = .ok () ↔ ∃ bytes, codec.encode input = .ok bytes) ∧
      (m.reset m.program input).2.words = m.words ∧
      (m.reset m.program input).2.program = m.program := by
  rcases m.reset_cases m.program input with ⟨fault, refused, left⟩ |
    ⟨words, fault, encoded, unreadable, left⟩ | ⟨words, bytes, encoded, readable, left⟩
  · cases refused.symm.trans h.words
  · cases encoded.symm.trans h.words
    rw [h.codec] at unreadable
    simp [left, unreadable]
  · cases encoded.symm.trans h.words
    rw [h.codec] at readable
    simp [left, readable]

/-- After a reset that succeeds a machine shows nothing of its past, whatever that was. Breakpoints
stay, and where the enabled ones are the same, whatever is done next is answered alike and leaves
machines that are the same but for breakpoints. A machine that is given its own program again has
the same words. -/
theorem reset_erases (codec : Codec) (past other : List Operation)
    (program : List Entry) (input : List Text.CodePoint) :
    let m := after codec past
    let n := after codec other
    let m' := (m.reset program input).2
    let n' := (n.reset program input).2
    (m.reset program input).1 = (n.reset program input).1 ∧
    ((m.reset program input).1 = .ok () →
      m'.bare = n'.bare ∧
      ((∀ slot, m.breakpoints.stopsAt slot = n.breakpoints.stopsAt slot) →
        ∀ future, (∀ o, .breakpoint o ∉ future) →
          m'.answers future = n'.answers future ∧
          (future.foldl perform m').bare = (future.foldl perform n').bare)) ∧
    ((m.reset m.program input).1 = .ok () ↔ ∃ bytes, codec.encode input = .ok bytes) ∧
    (m.reset m.program input).2.words = m.words ∧
    (m.reset m.program input).2.program = m.program := by
  intro m n m' n'
  have h : m.Loaded codec := after_loaded codec past
  have h' : n.Loaded codec := after_loaded codec other
  clear_value m n
  obtain ⟨answered, erased⟩ := reset_bare (h.codec.trans h'.codec.symm) program input
  refine ⟨answered, ?_, h.reload input⟩
  intro succeeded
  refine ⟨erased succeeded, ?_⟩
  intro enabled future apart
  have alike : m'.Alike n' := by
    refine ⟨erased succeeded, ?_⟩
    intro slot
    rw [reset_stops, reset_stops, enabled]
  obtain ⟨same, after⟩ := alike.future apart
  exact ⟨same, after.bare⟩

/-- A machine that has halted and one that has stopped at a breakpoint, which has a disabled one
besides. -/
theorem reset_erases_halt :
    let past : List Operation := [.breakpoint (.add 1), .step, .setRegister 2 9]
    let other : List Operation := [.breakpoint (.add 2), .breakpoint (.disable 2),
      .reset [.code .nop, .code .nop] (Text.codePoints "B"), .breakpoint (.add 1), .run 5]
    let program : List Entry := [.code (.unary .input 0), .code (.unary .output 0), .code .nop]
    let future : List Operation := [.run 5, .setRegister (-1) 300, .run 5, .step]
    let input := Text.codePoints "A"
    let m := after .utf8 past
    let n := after .utf8 other
    m.status = .halted ∧ n.breakpoints.hitCount 1 = 1 ∧ m.breakpoints.hitCount 1 = 0 ∧
      (m.reset program input).1 = .ok () ∧
      (∀ slot, m.breakpoints.stopsAt slot = n.breakpoints.stopsAt slot) ∧
      (m.reset program input).2.answers future = (n.reset program input).2.answers future ∧
      (future.foldl perform (m.reset program input).2).bare =
        (future.foldl perform (n.reset program input).2).bare := by
  intro past other program future input m n
  have enabled : ∀ slot, m.breakpoints.stopsAt slot = n.breakpoints.stopsAt slot := by
    intro slot
    have first : m.breakpoints.stopsAt slot = (decide (slot ∈ [1]) && decide (slot ∉ [])) := rfl
    have second :
        n.breakpoints.stopsAt slot = (decide (slot ∈ [1, 2]) && decide (slot ∉ [2])) := rfl
    rw [first, second, Bool.eq_iff_iff]
    simp
    omega
  have apart : ∀ o, .breakpoint o ∉ future := by simp [future]
  obtain ⟨-, erased, -⟩ := reset_erases .utf8 past other program input
  exact ⟨rfl, rfl, rfl, rfl, enabled, (erased rfl).2 enabled future apart⟩

end DeskComputer.Machine
