import DeskComputer.Proofs.Machine.Lifecycle
import DeskComputer.Proofs.Text.Decimal
import Mathlib.Data.Nat.Find

/-!
# Runs as iterated steps

`Machine.steps` iterates a step. A run does the steps up to the first after which its budget is
spent, a breakpoint is reached, or the next step fails, and records each. Main statement:
`run_iterates`.
-/

namespace DeskComputer

/-! ### Hit counts -/

namespace Breakpoints

theorem lookup_raiseCount (slot other : Int) (hits : List (Int × Nat)) :
    ((raiseCount slot hits).lookup other).getD 0 =
      (hits.lookup other).getD 0 + if other = slot then 1 else 0 := by
  induction hits with
  | nil =>
    by_cases same : other = slot
    · simp [raiseCount, same]
    · have differs : (other == slot) = false := beq_eq_false_iff_ne.mpr same
      simp [raiseCount, same, differs, List.lookup_cons]
  | cons hit hits ih =>
    obtain ⟨known, n⟩ := hit
    unfold raiseCount
    by_cases here : known = slot
    · subst known
      by_cases same : other = slot
      · simp [same]
      · have differs : (other == slot) = false := beq_eq_false_iff_ne.mpr same
        simp [List.lookup_cons, same, differs]
    · by_cases same : other = known
      · have differs : ¬other = slot := fun clash => here (same.symm.trans clash)
        simp [here, same]
      · have differs : (other == known) = false := beq_eq_false_iff_ne.mpr same
        simp [List.lookup_cons, here, differs, ih]

end Breakpoints

namespace Machine

variable {m : Machine} {budget : Int} {k : Nat}

/-! ### Steps in a row -/

/-- The machine that a number of steps leave. -/
def steps (m : Machine) : Nat → Machine
  | 0 => m
  | k + 1 => (m.steps k).step.2

/-- Whether the machine stands at an enabled breakpoint after a number of steps, at least one. -/
def PausedAt (m : Machine) (k : Nat) : Prop :=
  0 < k ∧ m.breakpoints.stopsAt (m.steps k).state.pc = true

/-- Whether a run stops after a number of steps. -/
def StopsAt (m : Machine) (budget : Int) (k : Nat) : Prop :=
  budget ≤ k ∨ m.PausedAt k ∨ ∃ fault, (m.steps k).step.1 = .error fault

theorem steps_breakpoints (m : Machine) (k : Nat) : (m.steps k).breakpoints = m.breakpoints := by
  induction k with
  | zero => rfl
  | succ k ih =>
    obtain ⟨state, status, haltedBy, stepCount, same⟩ := (m.steps k).step_frame
    rw [steps, same]
    exact ih

theorem steps_words (m : Machine) (k : Nat) : (m.steps k).words = m.words := by
  induction k with
  | zero => rfl
  | succ k ih =>
    obtain ⟨state, status, haltedBy, stepCount, same⟩ := (m.steps k).step_frame
    rw [steps, same]
    exact ih

theorem steps_running (running : m.status ≠ .halted)
    (fine : ∀ i < k, ∃ inst, (m.steps i).step.1 = .ok inst) : (m.steps k).status ≠ .halted := by
  cases k with
  | zero => exact running
  | succ k =>
    obtain ⟨inst, done⟩ := fine k (Nat.lt_succ_self k)
    rw [steps, step_stepping (Prod.ext done rfl)]
    decide

theorem WellFormed.steps (h : m.WellFormed) (k : Nat) : (m.steps k).WellFormed := by
  induction k with
  | zero => exact h
  | succ k ih => exact step_wellFormed ih

/-! ### One turn of a run -/

section Turn

variable {left steps : Nat} {trace : List Executed}

/-- The event of a budget that is spent, which only a budget below zero can do without. -/
theorem stopSpent_ok {event : Event} (h : m.stopSpent budget steps = .ok event) :
    event = { reason := .maxSteps, address := some m.state.pc, steps,
              message := s!"Reached max steps ({budget})" } := by
  rw [stopSpent] at h
  split at h
  · cases h
  · exact (Except.ok.inj h).symm

theorem stopSpent_of_nonneg (m : Machine) (steps : Nat) (known : 0 ≤ budget) :
    ∃ event, m.stopSpent budget steps = .ok event := by
  rw [stopSpent, if_neg (by simp; omega)]
  exact ⟨_, rfl⟩

theorem checkBreakpoint_free (free : ¬(0 < steps ∧ m.breakpoints.stopsAt m.state.pc = true)) :
    m.checkBreakpoint steps = (none, m) := by
  rw [checkBreakpoint, if_neg free]

theorem runFrom_paused (begun : 0 < steps) (stops : m.breakpoints.stopsAt m.state.pc = true) :
    runFrom budget (left + 1) steps trace m =
      let event : Event := { reason := .breakpoint, address := some m.state.pc, steps }
      ⟨trace.reverse, .ok event, { m with
        breakpoints := { m.breakpoints with
          hits := Breakpoints.raiseCount m.state.pc m.breakpoints.hits
          lastEvent := some event } }⟩ := by
  rw [runFrom, checkBreakpoint, if_pos ⟨begun, stops⟩]
  rfl

theorem runFrom_executed (free : ¬(0 < steps ∧ m.breakpoints.stopsAt m.state.pc = true))
    {inst : Instruction (Fin 4)} (done : m.step.1 = .ok inst) :
    runFrom budget (left + 1) steps trace m =
      runFrom budget left (steps + 1)
        (⟨m.state.pc, inst, m.step.2.state.pc, m.step.2.state.registers.toList⟩ :: trace)
        m.step.2 := by
  have stepped : m.step = (.ok inst, m.step.2) := Prod.ext done rfl
  generalize m.step.2 = n at stepped ⊢
  rw [runFrom, checkBreakpoint_free free]
  dsimp only
  rw [stepped]

theorem runFrom_failed (free : ¬(0 < steps ∧ m.breakpoints.stopsAt m.state.pc = true))
    {fault : Fault} (failed : m.step.1 = .error fault) :
    runFrom budget (left + 1) steps trace m =
      ⟨trace.reverse,
        if fault.endsRun then
          .ok { reason := .halted, address := some m.state.pc, steps, message := fault.text }
        else .error fault,
        m.step.2⟩ := by
  have stepped : m.step = (.error fault, m.step.2) := Prod.ext failed rfl
  generalize m.step.2 = n at stepped ⊢
  rw [runFrom, checkBreakpoint_free free]
  dsimp only
  rw [stepped]
  dsimp only
  split <;> rfl

end Turn

/-! ### Whole runs -/

/-- Whether a record is that of the step after `i` steps. -/
def RecordedAt (m : Machine) (i : Nat) (e : Executed) : Prop :=
  e.pc = (m.steps i).state.pc ∧ (m.steps i).step.1 = .ok e.inst ∧
    e.pcAfter = (m.steps (i + 1)).state.pc ∧
    e.registersAfter = (m.steps (i + 1)).state.registers.toList

/-- As long as nothing stops a run, its turns are steps. -/
theorem runFrom_continues (go : ∀ i < k, ¬m.StopsAt budget i) :
    ∃ left trace, left + k = budget.toNat ∧ trace.length = k ∧
      (∀ i e, trace.reverse[i]? = some e → m.RecordedAt i e) ∧
      runFrom budget budget.toNat 0 [] m = runFrom budget left k trace (m.steps k) := by
  induction k with
  | zero => exact ⟨budget.toNat, [], rfl, rfl, by simp, rfl⟩
  | succ k ih =>
    obtain ⟨left, trace, count, length, records, same⟩ := ih fun i hi => go i (by omega)
    obtain ⟨unspent, free, fine⟩ : ¬budget ≤ k ∧ ¬m.PausedAt k ∧
        ¬∃ fault, (m.steps k).step.1 = .error fault := by
      simpa only [StopsAt, not_or] using go k (Nat.lt_succ_self k)
    obtain ⟨left, rfl⟩ : ∃ next, left = next + 1 := ⟨left - 1, by omega⟩
    rw [PausedAt, ← m.steps_breakpoints k] at free
    cases done : (m.steps k).step.1 with
    | error fault => exact absurd ⟨fault, done⟩ fine
    | ok inst =>
      refine ⟨left, _, by omega, ?_, ?_, same.trans (runFrom_executed free done)⟩
      · rw [List.length_cons, length]
      · intro i e found
        rw [List.reverse_cons] at found
        by_cases old : i < k
        · rw [List.getElem?_append_left (by simpa [length] using old)] at found
          exact records i e found
        · obtain ⟨inside, rfl⟩ := List.getElem?_eq_some_iff.mp found
          have last : i = k := by
            simp only [List.length_append, List.length_reverse, List.length_singleton, length]
              at inside
            omega
          subst last
          rw [List.getElem_append_right (by simp [length])]
          simp only [length, List.length_reverse, Nat.sub_self, List.getElem_singleton]
          exact ⟨rfl, done, rfl, rfl⟩

/-- Without breakpoints a run goes on as long as its budget lasts and steps succeed. -/
theorem not_stopsAt (unpaused : ∀ slot, m.breakpoints.stopsAt slot = false)
    (fine : ∃ inst, (m.steps k).step.1 = .ok inst) (unspent : k < budget) :
    ¬m.StopsAt budget k := by
  obtain ⟨inst, done⟩ := fine
  rintro (spent | paused | ⟨fault, failed⟩)
  · omega
  · rw [PausedAt, unpaused] at paused
    exact Bool.false_ne_true paused.2
  · rw [done] at failed
    cases failed

/-- The exits of a run that stops after `k` steps, with what it answers and leaves. The budget
counts first, then a breakpoint, then the step that fails. -/
inductive Exit (m : Machine) (budget : Int) (k : Nat) : Except Fault Event → Machine → Prop where
  | spent : budget ≤ k → 0 ≤ budget ∨ budget.natAbs < 10 ^ Text.decimalLimit →
    Exit m budget k
      (.ok {
        reason := .maxSteps
        address := some (m.steps k).state.pc
        steps := k
        message := s!"Reached max steps ({budget})" })
      (m.steps k)
  /-- The event would show a budget that is too long to be written. -/
  | unwritable : budget < 0 → 10 ^ Text.decimalLimit ≤ budget.natAbs →
    Exit m budget k (.error .unwritable) (m.steps k)
  /-- One more hit is counted for the breakpoint, and nothing else changes with breakpoints. -/
  | paused {event : Event} {hits : List (Int × Nat)} : k < budget → m.PausedAt k →
    event = { reason := .breakpoint, address := some (m.steps k).state.pc, steps := k } →
    (∀ slot, ({ m.breakpoints with hits }).hitCount slot =
      m.breakpoints.hitCount slot + if slot = (m.steps k).state.pc then 1 else 0) →
    Exit m budget k (.ok event)
      { m.steps k with breakpoints := { m.breakpoints with hits, lastEvent := some event } }
  | pastEnd {fault : Fault} : k < budget → ¬m.PausedAt k →
    (m.steps k).words.size ≤ (m.steps k).state.pc →
    fault = .outOfProgram (m.steps k).state.pc (m.steps k).words.size →
    Exit m budget k
      (.ok {
        reason := .halted
        address := some (m.steps k).state.pc
        steps := k
        message := fault.text })
      ((m.steps k).halt fault)
  | refused {word reason : String} : k < budget → ¬m.PausedAt k →
    (m.steps k).words[(m.steps k).state.pc]? = some word → Unused word →
    Exit m budget k (.error (.encoding (.text word) reason))
      ((m.steps k).halt (.encoding (.text word) reason))

theorem exit_spent (spent : budget ≤ k) :
    m.Exit budget k ((m.steps k).stopSpent budget k) (m.steps k) := by
  rw [stopSpent]
  by_cases long : budget < 0 ∧ 10 ^ Text.decimalLimit ≤ budget.natAbs
  · have unwritable : Text.isWritable budget = false := by
      rw [← Bool.not_eq_true, Text.isWritable_iff]
      exact Nat.not_lt.mpr long.2
    rw [unwritable, if_pos (by simpa using long.1)]
    exact .unwritable long.1 long.2
  · have short : 0 ≤ budget ∨ budget.natAbs < 10 ^ Text.decimalLimit := by omega
    rw [if_neg]
    · exact .spent spent short
    · rw [Bool.and_eq_true, decide_eq_true_eq, Bool.not_eq_true', ← Bool.not_eq_true,
        Text.isWritable_iff]
      omega

theorem runFrom_exit (h : m.WellFormed) (running : (m.steps k).status ≠ .halted) {left : Nat}
    (count : left + k = budget.toNat) (stops : m.StopsAt budget k) (trace : List Executed) :
    ∃ stop machine, runFrom budget left k trace (m.steps k) = ⟨trace.reverse, stop, machine⟩ ∧
      m.Exit budget k stop machine := by
  by_cases spent : budget ≤ k
  · obtain rfl : left = 0 := by omega
    exact ⟨_, _, rfl, exit_spent spent⟩
  obtain ⟨left, rfl⟩ : ∃ next, left = next + 1 := ⟨left - 1, by omega⟩
  have within : (k : Int) < budget := by omega
  have same := m.steps_breakpoints k
  by_cases paused : m.PausedAt k
  · have reached := paused
    rw [PausedAt, ← same] at paused
    refine ⟨_, _, runFrom_paused paused.1 paused.2, ?_⟩
    rw [same]
    exact .paused within reached rfl fun slot => Breakpoints.lookup_raiseCount _ slot _
  · have free := paused
    rw [PausedAt, ← same] at free
    obtain ⟨fault, failed⟩ := (stops.resolve_left spent).resolve_left paused
    obtain ⟨halts, ⟨past, rfl⟩ | ⟨word, fetched, unused, rfl⟩⟩ :=
      step_failed (h.steps k) running failed
    · refine ⟨_, _, runFrom_failed free failed, ?_⟩
      rw [halts]
      exact .pastEnd within paused past rfl
    · refine ⟨_, _, runFrom_failed free failed, ?_⟩
      rw [halts]
      exact .refused within paused fetched unused

/-- A run of a machine with a budget does `k` steps, the fewest after which there is a reason to
stop, and records them. -/
structure IteratedRun (m : Machine) (budget : Int) (k : Nat) (r : RunResult) : Prop where
  stops : m.StopsAt budget k
  first : ∀ i < k, ¬m.StopsAt budget i
  length : r.executed.length = k
  executed : ∀ i e, r.executed[i]? = some e → m.RecordedAt i e
  breakpoints : (m.steps k).breakpoints = m.breakpoints
  exit : m.Exit budget k r.stop r.machine
  /-- A run that may do a step does one or halts, at a breakpoint too. -/
  progress : 1 ≤ budget → 0 < k ∨ r.machine.status = .halted

theorem run_of_wellFormed (h : m.WellFormed) (running : m.status ≠ .halted) (budget : Int) :
    ∃ k, m.IteratedRun budget k (m.run budget) := by
  classical
  have some : ∃ k, m.StopsAt budget k := ⟨budget.toNat, .inl (by omega)⟩
  obtain ⟨k, stops, first⟩ : ∃ k, m.StopsAt budget k ∧ ∀ i < k, ¬m.StopsAt budget i :=
    ⟨Nat.find some, Nat.find_spec some, fun i hi => Nat.find_min some hi⟩
  obtain ⟨left, trace, count, length, records, same⟩ := runFrom_continues first
  have fine : ∀ i < k, ∃ inst, (m.steps i).step.1 = .ok inst := by
    intro i hi
    cases done : (m.steps i).step.1 with
    | ok inst => exact ⟨inst, rfl⟩
    | error fault => exact absurd (.inr (.inr ⟨fault, done⟩)) (first i hi)
  obtain ⟨stop, machine, last, exit⟩ :=
    runFrom_exit h (steps_running running fine) count stops trace
  have whole : m.run budget = ⟨trace.reverse, stop, machine⟩ := by
    rw [run, if_neg running, same, last]
  rw [whole]
  refine ⟨k, stops, first, by rw [List.length_reverse, length], records,
    m.steps_breakpoints k, exit, ?_⟩
  intro positive
  by_cases begun : 0 < k
  · exact .inl begun
  · cases exit with
    | spent spent => omega
    | unwritable negative => omega
    | paused _ reached => exact absurd reached.1 begun
    | pastEnd => exact .inr rfl
    | refused => exact .inr rfl

end Machine

end DeskComputer
