import DeskComputer.Machine.Run

/-!
# Histories

An `Operation` is anything that can be done to a machine from outside, and `Machine.after` is the
machine that a list of them leaves, whether they succeed or fail. What a fresh machine has and every
operation keeps, every machine has.
-/

namespace DeskComputer

/-- What can be done to breakpoints. -/
inductive Breakpoints.Operation where
  | add (slot : Int)
  | remove (slot : Int)
  | enable (slot : Int)
  | disable (slot : Int)
  | clear
  | check (slot : Int)
  deriving DecidableEq, Repr

/-- The breakpoints that an operation leaves. -/
def Breakpoints.perform (b : Breakpoints) : Breakpoints.Operation → Breakpoints
  | .add slot => (b.add slot).2
  | .remove slot => b.remove slot
  | .enable slot => b.enable slot
  | .disable slot => b.disable slot
  | .clear => b.clear
  | .check slot => (b.check slot).2

namespace Machine

/-- What can be done to a machine. -/
inductive Operation where
  | reset (program : List Entry) (input : List Text.CodePoint)
  | step
  | run (budget : Int)
  | setRegister (index value : Int)
  | writeByte (address value : Int)
  | setFlags (flags : Flags)
  | breakpoint (operation : Breakpoints.Operation)

/-- The machine that an operation leaves. -/
def perform (m : Machine) : Operation → Machine
  | .reset program input => (m.reset program input).2
  | .step => m.step.2
  | .run budget => (m.run budget).machine
  | .setRegister index value =>
    match m.setRegister index value with
    | .ok m => m
    | .error _ => m
  | .writeByte address value => m.writeByte address value
  | .setFlags flags => m.setFlags flags
  | .breakpoint operation => { m with breakpoints := m.breakpoints.perform operation }

/-- The machine that a history leaves of a fresh one. -/
def after (codec : Codec) (history : List Operation) : Machine :=
  history.foldl perform { codec }

/-- An edit of registers changes nothing else, and nothing at all if it fails. -/
theorem perform_setRegister (m : Machine) (index value : Int) : ∃ registers,
    m.perform (.setRegister index value) = { m with state := { m.state with registers } } := by
  unfold perform
  dsimp only
  cases done : m.setRegister index value with
  | error fault => exact ⟨m.state.registers, rfl⟩
  | ok n =>
    unfold setRegister at done
    split at done
    · cases done
      exact ⟨_, rfl⟩
    · split at done <;> cases done

theorem after_concat (codec : Codec) (history : List Operation) (operation : Operation) :
    after codec (history ++ [operation]) = (after codec history).perform operation :=
  List.foldl_append

theorem after_keeps {P : Machine → Prop} {codec : Codec} (fresh : P { codec })
    (kept : ∀ m operation, P m → P (m.perform operation)) (history : List Operation) :
    P (after codec history) :=
  List.foldlRecOn (motive := P) history perform fresh fun m h operation _ => kept m operation h

/-! ### Runs -/

theorem checkBreakpoint_machine (m : Machine) (steps : Nat) :
    ∃ breakpoints, (m.checkBreakpoint steps).2 = { m with breakpoints } := by
  unfold checkBreakpoint
  split
  · exact ⟨_, rfl⟩
  · exact ⟨m.breakpoints, rfl⟩

/-- What steps keep, and what breakpoints have no part in, a run keeps. -/
theorem run_keeps {P : Machine → Prop} (stepped : ∀ m, P m → P m.step.2)
    (checked : ∀ m breakpoints, P m → P { m with breakpoints }) (budget : Int) {m : Machine}
    (h : P m) : P (m.run budget).machine := by
  have from_ : ∀ (left steps : Nat) (trace : List Executed) (m : Machine), P m →
      P (runFrom budget left steps trace m).machine := by
    intro left
    induction left with
    | zero => intro steps trace m h; exact h
    | succ left ih =>
      intro steps trace m h
      have stop : P (m.checkBreakpoint steps).2 := by
        obtain ⟨breakpoints, same⟩ := m.checkBreakpoint_machine steps
        rw [same]
        exact checked m breakpoints h
      unfold runFrom
      split
      · rename_i event after same
        rw [same] at stop
        exact stop
      · rename_i after same
        rw [same] at stop
        have next := stepped after stop
        split
        · rename_i inst final same
          rw [same] at next
          exact ih _ _ final next
        · rename_i fault final same
          rw [same] at next
          split
          · exact next
          · exact next
  unfold run
  split
  · exact h
  · exact from_ _ _ _ m h

end Machine

end DeskComputer
