import DeskComputer.Proofs.Machine.FailedReset
import DeskComputer.Proofs.Machine.Unrolling

/-!
# Chronicles

What a machine has been through since it was loaded: a `Chronicle` keeps what its steps have
answered, those within runs included. Status, halting fault and step count of a machine are what its
chronicle says, whatever else was done to it. Main statement: `after_chronicle`.
-/

namespace DeskComputer

/-- What the steps of a machine have answered since a reset succeeded, or since the start if none
did. -/
structure Chronicle where
  loaded : Bool := false
  outcomes : List (Except Fault (Instruction (Fin 4))) := []

namespace Chronicle

def executed (c : Chronicle) : List (Instruction (Fin 4)) := c.outcomes.filterMap Except.toOption

def fault? (c : Chronicle) : Option Fault :=
  c.outcomes.findSome? fun
    | .error fault => some fault
    | .ok _ => none

def status (c : Chronicle) : Status :=
  if c.fault?.isSome then .halted
  else if c.outcomes ≠ [] then .stepping
  else if c.loaded then .loaded
  else .unloaded

def append (c : Chronicle) (outcomes : List (Except Fault (Instruction (Fin 4)))) : Chronicle :=
  { c with outcomes := c.outcomes ++ outcomes }

theorem status_eq_halted (c : Chronicle) : c.status = .halted ↔ c.fault?.isSome := by
  unfold status
  split
  · simp [*]
  · split
    · simp [*]
    · split <;> simp [*]

theorem status_eq_loaded (c : Chronicle) :
    c.status = .loaded ↔ c.loaded = true ∧ c.outcomes = [] := by
  by_cases begun : c.outcomes = []
  · have fine : c.fault? = none := by rw [fault?, begun, List.findSome?_nil]
    unfold status
    rw [fine, if_neg (by simp), if_neg (not_not_intro begun)]
    split <;> simp [*]
  · have other : c.status ≠ .loaded := by
      unfold status
      rw [if_pos begun]
      split <;> decide
    simp [other, begun]

theorem status_eq_stepping {c : Chronicle} (fine : c.fault? = none) :
    c.status = .stepping ↔ 0 < c.executed.length := by
  have succeeded := List.findSome?_eq_none_iff.mp fine
  rw [List.length_pos_iff]
  unfold status
  rw [fine, if_neg (by simp)]
  cases listed : c.outcomes with
  | nil =>
    rw [executed, listed, if_neg (by simp)]
    split <;> simp
  | cons outcome rest =>
    cases outcome with
    | error fault => cases succeeded (.error fault) (listed ▸ List.mem_cons_self)
    | ok inst => simp [executed, listed, Except.toOption]

/-! ### One more step -/

section Append

variable {c : Chronicle} {inst : Instruction (Fin 4)} {fault : Fault}

theorem executed_ok : (c.append [.ok inst]).executed = c.executed ++ [inst] :=
  List.filterMap_append

theorem executed_error : (c.append [.error fault]).executed = c.executed :=
  List.filterMap_append.trans (List.append_nil _)

theorem fault?_ok : (c.append [.ok inst]).fault? = c.fault? :=
  List.findSome?_append.trans Option.or_none

/-- A fault counts if there was none before. -/
theorem fault?_error : (c.append [.error fault]).fault? = some (c.fault?.getD fault) :=
  List.findSome?_append.trans Option.or_some

theorem fault?_append (found : c.fault? = some fault)
    (outcomes : List (Except Fault (Instruction (Fin 4)))) :
    (c.append outcomes).fault? = some fault := by
  have split : (c.append outcomes).fault? = c.fault?.or _ := List.findSome?_append
  rw [split, found, Option.some_or]

theorem status_ok (fine : c.fault? = none) : (c.append [.ok inst]).status = .stepping := by
  unfold status
  rw [fault?_ok, fine, if_neg (by simp), if_pos (by simp [append])]

theorem status_error : (c.append [.error fault]).status = .halted := by
  rw [status_eq_halted, fault?_error]
  rfl

end Append

theorem append_append (c : Chronicle) (first second : List (Except Fault (Instruction (Fin 4)))) :
    (c.append first).append second = c.append (first ++ second) := by
  simp only [append, List.append_assoc]

theorem append_nil (c : Chronicle) : c.append [] = c := by
  simp only [append, List.append_nil]

end Chronicle

namespace Machine

/-- What a number of steps answer, one after the other. -/
def outcomes (m : Machine) (k : Nat) : List (Except Fault (Instruction (Fin 4))) :=
  (List.range k).map fun i => (m.steps i).step.1

/-- How many steps an operation tries. A run of a halted machine tries none. -/
def tries (m : Machine) : Operation → Nat
  | .step => 1
  | .run budget => if m.status = .halted then 0 else (m.run budget).tried
  | _ => 0

def loads (m : Machine) : Operation → Bool
  | .reset program input => (m.reset program input).1.isOk
  | _ => false

end Machine

/-- The chronicle after an operation on a machine. -/
def Chronicle.next (c : Chronicle) (m : Machine) (operation : Machine.Operation) : Chronicle :=
  if m.loads operation then { loaded := true } else c.append (m.outcomes (m.tries operation))

def Chronicle.through : Chronicle → Machine → List Machine.Operation → Chronicle
  | c, _, [] => c
  | c, m, operation :: history => (c.next m operation).through (m.perform operation) history

namespace Machine

variable {m : Machine} {c : Chronicle}

def chronicle (codec : Codec) (history : List Operation) : Chronicle :=
  Chronicle.through {} { codec } history

theorem outcomes_succ (m : Machine) (k : Nat) :
    m.outcomes (k + 1) = m.outcomes k ++ [(m.steps k).step.1] := by
  unfold outcomes
  rw [List.range_succ, List.map_append]
  rfl

/-- A run leaves what the steps leave that it tries, but for breakpoints. -/
theorem run_tries (m : Machine) (budget : Int) : ∃ breakpoints,
    (m.run budget).machine = { m.steps (m.tries (.run budget)) with breakpoints } := by
  by_cases halted : m.status = .halted
  · rw [tries, if_pos halted, Machine.run, if_pos halted]
    exact ⟨m.breakpoints, rfl⟩
  · rw [tries, if_neg halted]
    exact run_tried halted budget

/-! ### Machines and their chronicles -/

/-- A machine is as its chronicle says. -/
structure Records (c : Chronicle) (m : Machine) : Prop where
  wellFormed : m.WellFormed
  stepCount : m.stepCount = c.executed.length
  haltedBy : m.haltedBy = c.fault?
  status : m.status = c.status

theorem records_fresh (codec : Codec) : Records {} { codec } :=
  ⟨wellFormed_fresh codec, rfl, rfl, rfl⟩

namespace Records

theorem fine (h : Records c m) (running : m.status ≠ .halted) : c.fault? = none := by
  rw [← h.haltedBy, ← Option.not_isSome_iff_eq_none, ← h.wellFormed.halted]
  exact running

theorem halt (h : Records c m) (running : m.status ≠ .halted) (fault : Fault) :
    Records (c.append [.error fault]) (m.halt fault) := by
  refine ⟨h.wellFormed.halt fault, h.stepCount.trans ?_, ?_, Chronicle.status_error.symm⟩
  · rw [Chronicle.executed_error]
  · rw [Chronicle.fault?_error, h.fine running]
    rfl

theorem step (h : Records c m) : Records (c.append [m.step.1]) m.step.2 := by
  have whole := step_wellFormed h.wellFormed
  rcases m.step_cases h.wellFormed.words with ⟨halted, stepped⟩ | ⟨running, -, stepped⟩ |
    ⟨word, running, -, -, stepped⟩ | ⟨word, inst, state, running, -, -, -, stepped⟩
  · -- The fault that a halted machine answers comes after the one that halted it.
    obtain ⟨cause, found, -⟩ := h.wellFormed.haltedFault halted
    rw [stepped]
    refine ⟨h.wellFormed, h.stepCount.trans ?_, ?_, halted.trans Chronicle.status_error.symm⟩
    · rw [Chronicle.executed_error]
    · rw [Chronicle.fault?_error, ← h.haltedBy, found]
      rfl
  · rw [stepped]
    exact h.halt running _
  · rw [stepped]
    exact h.halt running _
  · rw [stepped] at whole ⊢
    refine ⟨whole, ?_, ?_, (Chronicle.status_ok (h.fine running)).symm⟩
    · rw [Chronicle.executed_ok, List.length_append, ← h.stepCount]
      rfl
    · rw [Chronicle.fault?_ok]
      exact h.haltedBy

theorem steps (h : Records c m) (k : Nat) : Records (c.append (m.outcomes k)) (m.steps k) := by
  induction k with
  | zero =>
    have same : c.append (m.outcomes 0) = c := c.append_nil
    rw [same]
    exact h
  | succ k ih =>
    rw [outcomes_succ, ← Chronicle.append_append]
    exact ih.step

theorem run (h : Records c m) (budget : Int) :
    Records (c.append (m.outcomes (m.tries (.run budget)))) (m.run budget).machine := by
  obtain ⟨breakpoints, left⟩ := m.run_tries budget
  obtain ⟨whole, stepCount, haltedBy, status⟩ := h.steps (m.tries (.run budget))
  rw [left]
  exact ⟨⟨whole.bounded, whole.words, whole.halted⟩, stepCount, haltedBy, status⟩

/-- Operations that try no step and load no program leave the chronicle as it is. -/
theorem edit (h : Records c m) {n : Machine} (wellFormed : n.WellFormed)
    (status : n.status = m.status) (haltedBy : n.haltedBy = m.haltedBy)
    (stepCount : n.stepCount = m.stepCount) : Records (c.append []) n := by
  rw [c.append_nil]
  exact ⟨wellFormed, stepCount.trans h.stepCount, haltedBy.trans h.haltedBy,
    status.trans h.status⟩

theorem perform (h : Records c m) (operation : Operation) :
    Records (c.next m operation) (m.perform operation) := by
  have whole := perform_wellFormed h.wellFormed operation
  cases operation with
  | reset program input =>
    unfold Machine.perform at whole ⊢
    unfold Chronicle.next loads
    rcases m.reset_cases program input with ⟨fault, -, left⟩ | ⟨words, flaw, -, -, left⟩ |
      ⟨words, bytes, -, -, left⟩
    · simp only [left] at whole ⊢
      exact h.edit whole rfl rfl rfl
    · simp only [left] at whole ⊢
      exact h.edit whole rfl rfl rfl
    · simp only [left] at whole ⊢
      exact ⟨whole, rfl, rfl, rfl⟩
  | step => exact h.step
  | run budget => exact h.run budget
  | setRegister index value =>
    obtain ⟨registers, left⟩ := m.perform_setRegister index value
    rw [left] at whole ⊢
    exact h.edit whole rfl rfl rfl
  | writeByte address value => exact h.edit whole rfl rfl rfl
  | setFlags flags => exact h.edit whole rfl rfl rfl
  | breakpoint operation => exact h.edit whole rfl rfl rfl

theorem through (h : Records c m) (history : List Operation) :
    Records (c.through m history) (history.foldl Machine.perform m) := by
  induction history generalizing c m with
  | nil => exact h
  | cons operation history ih => exact ih (h.perform operation)

end Records

/-! ### Halted machines -/

/-- A machine that has halted for a cause answers nothing else, and it stays so until it is
loaded. -/
structure HaltedFor (cause : Fault) (m : Machine) : Prop where
  status : m.status = .halted
  step : m.step = (.error (.haltedBy cause), m)
  run : ∀ budget, m.run budget =
    ⟨[],
      .ok { reason := .halted, address := some m.state.pc, steps := 0, message := cause.text }, m⟩
  stays : ∀ operation, m.loads operation = false →
    (m.perform operation).status = .halted ∧ (m.perform operation).haltedBy = some cause
  leaves : ∀ operation, m.loads operation = true →
    (m.perform operation).status = .loaded ∧ (m.perform operation).haltedBy = none

theorem Records.haltedFor (h : Records c m) {cause : Fault} (found : m.haltedBy = some cause) :
    m.HaltedFor cause := by
  have halted : m.status = .halted := by
    rw [h.wellFormed.halted, found]
    rfl
  refine ⟨halted, ?_, ?_, ?_, ?_⟩
  · rw [step_of_halted halted, haltedFault, found]
  · intro budget
    rw [Machine.run, if_pos halted, found]
    rfl
  · intro operation unloaded
    have next := h.perform operation
    have same : (c.next m operation).fault? = some cause := by
      rw [Chronicle.next, unloaded, if_neg (by decide)]
      exact Chronicle.fault?_append (h.haltedBy ▸ found) _
    rw [next.status, next.haltedBy, same, Chronicle.status_eq_halted, same]
    exact ⟨rfl, rfl⟩
  · intro operation loaded
    have next := h.perform operation
    rw [next.status, next.haltedBy, Chronicle.next, if_pos loaded]
    exact ⟨rfl, rfl⟩

/-- Status, halting fault and step count after any history, by what the steps have answered since a
reset last succeeded: a machine is halted by the first that failed, and it counts those that did
not. Halted it stays until it is loaded, and answers only what halted it. -/
theorem after_chronicle (codec : Codec) (history : List Operation) :
    let m := after codec history
    let c := chronicle codec history
    (m.status = .halted ↔ m.haltedBy.isSome = true) ∧
    m.haltedBy = c.fault? ∧
    m.stepCount = c.executed.length ∧
    (m.status ≠ .halted → (m.status = .stepping ↔ 0 < m.stepCount)) ∧
    (m.status = .loaded ↔ c.loaded = true ∧ c.outcomes = []) ∧
    ∀ cause, m.haltedBy = some cause → m.HaltedFor cause := by
  intro m c
  have h : Records c m := (records_fresh codec).through history
  clear_value m c
  refine ⟨h.wellFormed.halted, h.haltedBy, h.stepCount, ?_, ?_, fun cause => h.haltedFor⟩
  · intro running
    rw [h.status, h.stepCount]
    exact Chronicle.status_eq_stepping (h.fine running)
  · rw [h.status]
    exact c.status_eq_loaded

end Machine

end DeskComputer
