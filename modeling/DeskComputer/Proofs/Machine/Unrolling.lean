import DeskComputer.Proofs.Machine.IteratedRun

/-!
# Unrolled executions

A run is the steps that it tries, and what steps do has nothing to do with breakpoints. So any list
of steps and runs leaves what some number of steps leave, but for breakpoints. Main statement:
`unrolled`.
-/

namespace DeskComputer

/-- How many steps a run tried: one more than it executed if the last one failed. That an event
cannot be written is no failure of a step. -/
def RunResult.tried (r : RunResult) : Nat :=
  match r.stop with
  | .ok event => if event.reason = .halted then r.executed.length + 1 else r.executed.length
  | .error .unwritable => r.executed.length
  | .error _ => r.executed.length + 1

namespace Machine

variable {m : Machine} {b : Breakpoints}

/-! ### Steps -/

theorem step_breakpoints (m : Machine) (b : Breakpoints) :
    ({ m with breakpoints := b } : Machine).step =
      (m.step.1, { m.step.2 with breakpoints := b }) := by
  unfold step
  dsimp only
  split
  · rfl
  · cases m.words[m.state.pc]? with
    | none => rfl
    | some word =>
      dsimp only
      cases Word.decode (.text word) with
      | error fault => rfl
      | ok inst =>
        dsimp only
        cases m.state.execute m.words inst with
        | error fault => rfl
        | ok state => rfl

theorem steps_withBreakpoints (m : Machine) (b : Breakpoints) (k : Nat) :
    ({ m with breakpoints := b } : Machine).steps k = { m.steps k with breakpoints := b } := by
  induction k with
  | zero => rfl
  | succ k ih => rw [steps, ih, step_breakpoints (m.steps k) b, steps]

theorem steps_add (m : Machine) (j k : Nat) : m.steps (j + k) = (m.steps j).steps k := by
  induction k with
  | zero => rfl
  | succ k ih => rw [← Nat.add_assoc, steps, ih, steps]

theorem steps_succ (m : Machine) (k : Nat) : m.steps (k + 1) = m.step.2.steps k := by
  rw [Nat.add_comm, steps_add]
  rfl

/-- Whether a machine executes instructions one after the other, and what they leave. -/
inductive Executes : Machine → List (Instruction (Fin 4)) → Machine → Prop where
  | nil {m : Machine} : Executes m [] m
  | cons {m next last : Machine} {inst : Instruction (Fin 4)} {insts : List (Instruction (Fin 4))} :
      m.step = (.ok inst, next) → Executes next insts last → Executes m (inst :: insts) last

namespace Executes

variable {n last : Machine} {insts more : List (Instruction (Fin 4))}

theorem append (first : m.Executes insts n) (onward : n.Executes more last) :
    m.Executes (insts ++ more) last := by
  induction first with
  | nil => exact onward
  | cons done _ ih => exact .cons done (ih onward)

theorem steps (h : m.Executes insts n) :
    m.steps insts.length = n ∧
      ∀ i inst, insts[i]? = some inst → (m.steps i).step.1 = .ok inst := by
  induction h with
  | nil => exact ⟨rfl, by simp⟩
  | @cons m next last inst insts done _ ih =>
    have shift : ∀ k, m.steps (k + 1) = next.steps k := fun k =>
      (m.steps_succ k).trans (congrArg (Machine.steps · k) (congrArg Prod.snd done))
    refine ⟨(shift _).trans ih.1, ?_⟩
    intro i found here
    cases i with
    | zero =>
      cases here
      exact congrArg Prod.fst done
    | succ i =>
      rw [shift]
      exact ih.2 i found here

/-- A run whose budget is spent on instructions that can be executed, without breakpoints. -/
theorem run (h : m.Executes insts n) (running : m.status ≠ .halted)
    (unpaused : ∀ slot, m.breakpoints.stopsAt slot = false) :
    let r := m.run insts.length
    r.executed.map Executed.inst = insts ∧ r.machine = n ∧
      r.stop = .ok {
        reason := .maxSteps
        address := some n.state.pc
        steps := insts.length
        message := s!"Reached max steps ({(insts.length : Int)})" } := by
  obtain ⟨reached, each⟩ := h.steps
  have goes : ∀ i < insts.length, ¬m.StopsAt (insts.length : Int) i := fun i within =>
    not_stopsAt unpaused ⟨_, each i _ (List.getElem?_eq_getElem within)⟩ (Int.ofNat_lt.mpr within)
  obtain ⟨left, trace, count, length, records, same⟩ := runFrom_continues goes
  obtain rfl : left = 0 := by omega
  rw [Machine.run, if_neg running, same, reached]
  refine ⟨?_, rfl, rfl⟩
  apply List.ext_getElem
  · rw [List.length_map, runFrom, List.length_reverse, length]
  · intro i inside within
    rw [List.length_map] at inside
    obtain ⟨-, done, -⟩ := records i _ (List.getElem?_eq_getElem inside)
    rw [List.getElem_map]
    exact Except.ok.inj (done.symm.trans (each i _ (List.getElem?_eq_getElem within)))

end Executes

/-! ### Runs -/

/-- A run leaves what the steps that it tried leave, but for breakpoints. -/
theorem run_tried (running : m.status ≠ .halted) (budget : Int) :
    ∃ breakpoints, (m.run budget).machine =
      { m.steps (m.run budget).tried with breakpoints } := by
  have turns : ∀ (left k : Nat) (trace : List Executed), trace.length = k →
      ∃ breakpoints, (runFrom budget left k trace (m.steps k)).machine =
        { m.steps (runFrom budget left k trace (m.steps k)).tried with breakpoints } := by
    -- The trace has one instruction for each step so far, so its length counts them.
    intro left
    induction left with
    | zero =>
      rintro k trace rfl
      have tried : (runFrom budget 0 trace.length trace (m.steps trace.length)).tried =
          trace.length := by
        rw [runFrom, stopSpent]
        split <;> exact List.length_reverse
      rw [tried]
      exact ⟨_, rfl⟩
    | succ left ih =>
      rintro k trace rfl
      by_cases paused : 0 < trace.length ∧
          (m.steps trace.length).breakpoints.stopsAt (m.steps trace.length).state.pc = true
      · rw [runFrom_paused paused.1 paused.2]
        dsimp only [RunResult.tried]
        rw [if_neg (by decide), List.length_reverse]
        exact ⟨_, rfl⟩
      · cases stepped : (m.steps trace.length).step.1 with
        | ok inst =>
          rw [runFrom_executed paused stepped]
          exact ih _ _ rfl
        | error fault =>
          have tried : (runFrom budget (left + 1) trace.length trace
              (m.steps trace.length)).tried = trace.length + 1 := by
            rw [runFrom_failed paused stepped]
            by_cases ends : fault.endsRun = true
            · rw [if_pos ends]
              dsimp only [RunResult.tried]
              rw [if_pos rfl, List.length_reverse]
            · rw [if_neg ends]
              unfold RunResult.tried
              split
              · rename_i answered
                cases answered
              · rename_i unwritable
                obtain rfl := Except.error.inj unwritable
                exact absurd stepped ((m.steps trace.length).step_writable)
              · rw [List.length_reverse]
          rw [tried, runFrom_failed paused stepped]
          exact ⟨(m.steps trace.length).step.2.breakpoints, rfl⟩
  rw [run, if_neg running]
  exact turns budget.toNat 0 [] rfl

/-! ### Lists of steps and runs -/

/-- Whether an operation is a step or a run. -/
def Operation.executes : Operation → Bool
  | .step | .run _ => true
  | _ => false

theorem unrolled {history : List Operation} (executing : ∀ o ∈ history, o.executes = true) :
    ∃ k breakpoints, history.foldl perform m = { m.steps k with breakpoints } := by
  induction history generalizing m with
  | nil => exact ⟨0, m.breakpoints, rfl⟩
  | cons operation history ih =>
    rw [List.forall_mem_cons] at executing
    have first : ∃ j b, m.perform operation = { m.steps j with breakpoints := b } := by
      cases operation with
      | step => exact ⟨1, m.step.2.breakpoints, rfl⟩
      | run budget =>
        by_cases halted : m.status = .halted
        · refine ⟨0, m.breakpoints, ?_⟩
          rw [perform, run, if_pos halted]
          rfl
        · exact ⟨_, run_tried halted budget⟩
      | _ => cases executing.1
    obtain ⟨j, b, left⟩ := first
    obtain ⟨k, breakpoints, rest⟩ := ih (m := m.perform operation) executing.2
    refine ⟨j + k, breakpoints, ?_⟩
    rw [List.foldl_cons, rest, left, steps_withBreakpoints, steps_add]

end Machine

end DeskComputer
