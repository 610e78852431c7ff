import DeskComputer.Proofs.Machine.IteratedRun

/-!
# Runs in two parts

A run that has spent its budget can go on in a second run. The two come to what one run with both
budgets comes to, unless the first one ends in front of a breakpoint: the one run stops there, and
the second run passes it, as every run passes the breakpoint at which it starts. Main statement:
`run_in_parts`.
-/

namespace DeskComputer.Machine

variable {m : Machine} {left steps : Nat} {trace : List Executed}

/-- A run executes, answers and leaves what another one does after some steps that were done before.
The messages may differ, and so may the last event that the breakpoints keep, since it tells the
steps. -/
structure Continues (done : Int) (before : List Executed) (rest whole : RunResult) : Prop where
  executed : whole.executed = before ++ rest.executed
  machine : ∃ lastEvent, whole.machine =
    { rest.machine with breakpoints := { rest.machine.breakpoints with lastEvent } }
  fault : ∀ fault, rest.stop = .error fault → whole.stop = .error fault
  event : ∀ event, rest.stop = .ok event →
    ∃ message, whole.stop = .ok { event with steps := done + event.steps, message }

/-- A run that spends its budget gets as far as any run that has a greater one. -/
theorem runFrom_spent {budget : Int} {event : Event} (running : m.status ≠ .halted)
    (done : (runFrom budget left steps trace m).stop = .ok event)
    (spent : event.reason = .maxSteps) :
    event.steps = (steps + left : Nat) ∧
      (runFrom budget left steps trace m).machine.status ≠ .halted ∧
      ∀ (greater : Int) (more : Nat), runFrom greater (left + more) steps trace m =
        runFrom greater more (steps + left) (runFrom budget left steps trace m).executed.reverse
          (runFrom budget left steps trace m).machine := by
  induction left generalizing steps trace m with
  | zero =>
    obtain rfl := stopSpent_ok done
    refine ⟨rfl, running, ?_⟩
    intro greater more
    show runFrom greater (0 + more) steps trace m =
      runFrom greater more steps trace.reverse.reverse m
    rw [Nat.zero_add, List.reverse_reverse]
  | succ left ih =>
    -- A turn that pauses or fails would not end with the budget spent.
    by_cases paused : 0 < steps ∧ m.breakpoints.stopsAt m.state.pc = true
    · rw [runFrom_paused paused.1 paused.2] at done
      cases done
      cases spent
    cases stepped : m.step.1 with
    | error fault =>
      rw [runFrom_failed paused stepped] at done
      dsimp only at done
      split at done
      · cases done
        cases spent
      · cases done
    | ok inst =>
      have next : m.step.2.status ≠ .halted := by
        rw [step_stepping (Prod.ext stepped rfl)]
        decide
      rw [runFrom_executed paused stepped] at done ⊢
      obtain ⟨count, still, goes⟩ := ih next done
      refine ⟨by rw [count]; omega, still, ?_⟩
      intro greater more
      have turn : left + 1 + more = left + more + 1 := by omega
      have later : steps + 1 + left = steps + (left + 1) := by omega
      rw [turn, runFrom_executed paused stepped, goes greater more, later]

/-- Turns do not depend on the steps done before, except that the first one passes a breakpoint. -/
theorem runFrom_continues_after {budget whole : Int} (known : 0 ≤ budget) (all : 0 ≤ whole)
    (done : Nat) (before : List Executed)
    (unpaused : steps = 0 → m.breakpoints.stopsAt m.state.pc = false) :
    Continues done before.reverse (runFrom budget left steps trace m)
      (runFrom whole left (done + steps) (trace ++ before) m) := by
  induction left generalizing steps trace m with
  | zero =>
    obtain ⟨event, stopped⟩ := m.stopSpent_of_nonneg steps known
    obtain ⟨last, halted⟩ := m.stopSpent_of_nonneg (done + steps) all
    refine ⟨List.reverse_append, ⟨m.breakpoints.lastEvent, rfl⟩, ?_, ?_⟩
    · intro fault failed
      cases stopped.symm.trans failed
    · intro event stopped
      obtain rfl := stopSpent_ok stopped
      obtain rfl := stopSpent_ok halted
      exact ⟨_, halted⟩
  | succ left ih =>
    -- Both runs take the same turn: only a breakpoint at the very start could tell them apart.
    by_cases stops : m.breakpoints.stopsAt m.state.pc = true
    · have begun : 0 < steps := by
        apply Nat.pos_of_ne_zero
        intro start
        rw [unpaused start] at stops
        cases stops
      have later : 0 < done + steps := by omega
      rw [runFrom_paused begun stops, runFrom_paused later stops]
      refine ⟨List.reverse_append, ⟨_, rfl⟩, ?_, ?_⟩
      · intro fault failed
        cases failed
      · intro event stopped
        cases stopped
        exact ⟨"", rfl⟩
    · have free : ∀ n, ¬(0 < n ∧ m.breakpoints.stopsAt m.state.pc = true) :=
        fun n paused => stops paused.2
      cases stepped : m.step.1 with
      | error fault =>
        rw [runFrom_failed (free _) stepped, runFrom_failed (free _) stepped]
        refine ⟨List.reverse_append, ⟨m.step.2.breakpoints.lastEvent, rfl⟩, ?_, ?_⟩
        · intro other failed
          dsimp only at failed ⊢
          split at failed
          · cases failed
          · rename_i escapes
            rw [if_neg escapes, ← failed]
        · intro event stopped
          dsimp only at stopped ⊢
          split at stopped
          · rename_i ends
            cases stopped
            rw [if_pos ends]
            exact ⟨fault.text, rfl⟩
          · cases stopped
      | ok inst =>
        rw [runFrom_executed (free _) stepped, runFrom_executed (free _) stepped]
        apply ih
        intro impossible
        cases impossible

theorem run_spent {budget : Int} {event : Event} (stopped : (m.run budget).stop = .ok event)
    (spent : event.reason = .maxSteps) :
    event.steps = budget.toNat ∧ (m.run budget).machine.status ≠ .halted ∧
      ∀ more : Int, 0 ≤ budget → 0 ≤ more →
        m.run (budget + more) = runFrom (budget + more) more.toNat budget.toNat
          (m.run budget).executed.reverse (m.run budget).machine := by
  have running : m.status ≠ .halted := by
    intro halted
    rw [run, if_pos halted] at stopped
    cases stopped
    cases spent
  have started : ∀ budget, m.run budget = runFrom budget budget.toNat 0 [] m :=
    fun budget => if_neg running
  rw [started budget] at stopped ⊢
  obtain ⟨count, still, goes⟩ := runFrom_spent running stopped spent
  rw [Nat.zero_add] at count goes
  refine ⟨count, still, ?_⟩
  intro more known rest
  have both : (budget + more).toNat = budget.toNat + more.toNat := by omega
  rw [started (budget + more), both, goes]

/-- A run that spends its budget, and the run after it, against the one run with both budgets. -/
theorem run_in_parts (codec : Codec) (history : List Operation)
    (breakpoints : Breakpoints) {a b : Int} (positive : 1 ≤ a) (more : 1 ≤ b) {event : Event}
    (stopped : ({ after codec history with breakpoints }.run a).stop = .ok event)
    (spent : event.reason = .maxSteps) :
    let first := { after codec history with breakpoints }.run a
    let second := first.machine.run b
    let whole := { after codec history with breakpoints }.run (a + b)
    let pc := first.machine.state.pc
    (first.machine.breakpoints.stopsAt pc = false →
      Continues event.steps first.executed second whole) ∧
    (first.machine.breakpoints.stopsAt pc = true →
      (0 < second.executed.length ∨ second.machine.status = .halted) ∧
      whole.executed = first.executed ∧
      ∃ last : Event, last = { reason := .breakpoint, address := some pc, steps := event.steps } ∧
        whole.stop = .ok last ∧
        whole.machine = { first.machine with
          breakpoints := { first.machine.breakpoints with
            hits := Breakpoints.raiseCount pc first.machine.breakpoints.hits
            lastEvent := some last } }) := by
  intro first second whole pc
  obtain ⟨count, still, goes⟩ := run_spent stopped spent
  have joined : whole = runFrom (a + b) b.toNat a.toNat first.executed.reverse first.machine :=
    goes b (by omega) (by omega)
  have resumed : second = runFrom b b.toNat 0 [] first.machine := if_neg still
  constructor
  · intro unpaused
    have shifted : Continues a.toNat first.executed.reverse.reverse
        (runFrom b b.toNat 0 [] first.machine)
        (runFrom (a + b) b.toNat (a.toNat + 0) ([] ++ first.executed.reverse) first.machine) :=
      runFrom_continues_after (by omega) (by omega) a.toNat _ fun _ => unpaused
    rw [List.reverse_reverse, List.nil_append, Nat.add_zero, ← resumed, ← joined,
      ← count] at shifted
    exact shifted
  · intro stops
    have h := after_wellFormed codec history
    have reached : { after codec history with breakpoints }.WellFormed :=
      ⟨h.bounded, h.words, h.halted⟩
    have left : first.machine.WellFormed := perform_wellFormed reached (.run a)
    obtain ⟨k, iterated⟩ := run_of_wellFormed left still b
    have turn : b.toNat = b.toNat - 1 + 1 := by omega
    have begun : 0 < a.toNat := by omega
    rw [turn, runFrom_paused begun stops] at joined
    refine ⟨iterated.length ▸ iterated.progress more, ?_, _, rfl, ?_, ?_⟩
    · rw [joined]
      exact List.reverse_reverse _
    · rw [joined, count]
    · rw [joined, count]

/-- The second run goes past a disabled breakpoint and stops at the one behind it. -/
theorem run_in_parts_onward :
    let history : List Operation :=
      [.reset [.code (.unary .inc 0), .code (.unary .inc 1), .code (.unary .inc 2), .code .nop] []]
    let breakpoints : Breakpoints := { slots := [1, 3], disabled := [1], hits := [(3, 4)] }
    let m := { after .utf8 history with breakpoints }
    ((1 : Int) ≤ 1 ∧ (1 : Int) ≤ 9) ∧
      (m.run 1).stop = .ok ⟨.maxSteps, some 1, 1, s!"Reached max steps ({(1 : Int)})"⟩ ∧
      (m.run 1).machine.breakpoints.stopsAt (m.run 1).machine.state.pc = false ∧
      Continues 1 (m.run 1).executed ((m.run 1).machine.run 9) (m.run 10) := by
  refine ⟨⟨?positive, ?more⟩, ?stopped, ?unpaused, And.left (run_in_parts .utf8
    [.reset [.code (.unary .inc 0), .code (.unary .inc 1), .code (.unary .inc 2), .code .nop] []]
    { slots := [1, 3], disabled := [1], hits := [(3, 4)] } ?positive ?more ?stopped rfl) ?unpaused⟩
  case positive => decide
  case more => decide
  case stopped => rfl
  case unpaused => decide

/-- The budget of the first run ends in front of a breakpoint: the second run passes it, and the one
run stops there and counts a hit. -/
theorem run_split_at_breakpoint :
    let m := after .utf8
      [.reset [.code (.unary .inc 0), .code (.unary .inc 0), .code (.unary .inc 0)] [],
        .breakpoint (.add 1)]
    let second := (m.run 1).machine.run 1
    (∃ event, (m.run 1).stop = .ok event ∧ event.reason = .maxSteps) ∧
      (∃ event, second.stop = .ok event ∧ event.reason = .maxSteps ∧ event.address = some 2) ∧
      (∃ event, (m.run 2).stop = .ok event ∧ event.reason = .breakpoint ∧ event.address = some 1) ∧
      second.machine.state.pc = 2 ∧ (m.run 2).machine.state.pc = 1 ∧
      second.machine.stepCount = 2 ∧ (m.run 2).machine.stepCount = 1 ∧
      second.machine.breakpoints.hitCount 1 = 0 ∧ (m.run 2).machine.breakpoints.hitCount 1 = 1 :=
  ⟨⟨_, rfl, rfl⟩, ⟨_, rfl, rfl, rfl⟩, ⟨_, rfl, rfl, rfl⟩, rfl, rfl, rfl, rfl, rfl, rfl⟩

end DeskComputer.Machine
