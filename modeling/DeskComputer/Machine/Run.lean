import DeskComputer.Machine.Basic

/-!
# Runs

`Machine.run` steps until a breakpoint, the end of its budget, or a halt, and records what it
executed. The breakpoint at the slot where it starts is passed, so a run resumes from the one at
which the run before it stopped.
-/

namespace DeskComputer

/-- An instruction that was executed, with the slot it came from and what it left in the program
counter and the registers. -/
structure Executed where
  pc : Nat
  inst : Instruction (Fin 4)
  pcAfter : Nat
  registersAfter : List Nat
  deriving DecidableEq, Repr

/-- The outcome of a run: what was executed, why it stopped, and the machine it leaves. -/
structure RunResult where
  executed : List Executed
  stop : Except Fault Event
  machine : Machine

/-- Whether a fault is one of the machine, which ends a run quietly. -/
def Fault.endsRun : Fault → Bool
  | .machine _ | .outOfProgram _ _ | .halted | .haltedBy _ => true
  | _ => false

namespace Machine

/-- The stop of a run before a slot: none before the first step. The slot is one that the program
counter has come to, so it is short enough to be logged. -/
def checkBreakpoint (m : Machine) (steps : Nat) : Option Event × Machine :=
  if 0 < steps ∧ m.breakpoints.stopsAt m.state.pc = true then
    let (event, breakpoints) := m.breakpoints.hit m.state.pc steps
    (some event, { m with breakpoints })
  else (none, m)

/-- The stop of a run whose budget is spent. A budget that was counted down to nothing is short
enough to be written; one below zero need not be. -/
def stopSpent (m : Machine) (budget : Int) (steps : Nat) : Except Fault Event :=
  if budget < 0 && !Text.isWritable budget then .error .unwritable
  else
    let message := s!"Reached max steps ({budget})"
    .ok { reason := .maxSteps, address := some m.state.pc, steps, message }

/-- A run that has done `steps` steps, recorded in `trace` from the last on, and has `left` steps of
its budget left. -/
def runFrom (budget : Int) : Nat → Nat → List Executed → Machine → RunResult
  | 0, steps, trace, m => ⟨trace.reverse, m.stopSpent budget steps, m⟩
  | left + 1, steps, trace, m =>
    match m.checkBreakpoint steps with
    | (some event, m) => ⟨trace.reverse, .ok event, m⟩
    | (none, m) =>
      let pc := m.state.pc
      match m.step with
      | (.ok inst, m) =>
        let done : Executed :=
          { pc, inst, pcAfter := m.state.pc, registersAfter := m.state.registers.toList }
        runFrom budget left (steps + 1) (done :: trace) m
      | (.error fault, m) =>
        if fault.endsRun then
          let event : Event :=
            { reason := .halted, address := some pc, steps, message := fault.text }
          ⟨trace.reverse, .ok event, m⟩
        else ⟨trace.reverse, .error fault, m⟩

/-- Steps until a breakpoint, the end of the budget, or a halt. -/
def run (m : Machine) (budget : Int) : RunResult :=
  if m.status = .halted then
    let message := (m.haltedBy.map Fault.text).getD "None"
    ⟨[], .ok { reason := .halted, address := some m.state.pc, message }, m⟩
  else runFrom budget budget.toNat 0 [] m

end Machine

end DeskComputer
