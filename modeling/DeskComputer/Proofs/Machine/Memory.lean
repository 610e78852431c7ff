import DeskComputer.Proofs.Machine.Journal

/-!
# Data memory

Each place of data memory holds what was last written to it, by an executed `st` or from outside,
since a reset last succeeded, and zero if nothing was; and that is what an executed `ld` loads. A
journal tells of all writes: `after_memory`.
-/

namespace DeskComputer

/-- The address and the byte that a deed writes. -/
def Deed.write? : Deed → Option (Int × Nat)
  | .executed s (.access .st r base offset) _ =>
    some (((s.register base : Int) - offset) % 256, s.register r)
  | .executed _ _ _ => none
  | .stored address value => some (address % 256, (value % 256).toNat)

def lastWritten (deeds : List Deed) (address : Int) : Nat :=
  ((deeds.filterMap Deed.write?).reverse.lookup address).getD 0

theorem lastWritten_append (deeds : List Deed) (d : Deed) (address : Int) :
    lastWritten (deeds ++ [d]) address =
      (d.write?.toList.lookup address).getD (lastWritten deeds address) := by
  unfold lastWritten
  have alone : d.write?.toList.reverse = d.write?.toList := by
    cases d.write? <;> rfl
  rw [Deed.filterMap_concat, List.reverse_append, List.lookup_append, Option.getD_or, alone]

theorem State.address_eq (s : State) (base offset : Fin 4) :
    ((s.address base offset : Nat) : Int) = ((s.register base : Int) - offset) % 256 := by
  have small := offset.isLt
  show (((s.register base + 256 - offset) % 256 : Nat) : Int) = _
  omega

theorem get_memory_set {n : Nat} (memory : Vector Nat n) (place a : Fin n) (value : Nat) :
    (memory.set place value place.isLt).get a =
      ([((place : Int), value)].lookup (a : Int)).getD (memory.get a) := by
  show (memory.set place value place.isLt)[a.val] = _
  rw [Vector.getElem_set, List.lookup_cons]
  by_cases here : (place : Nat) = a
  · simp [here]
  · have other : ((a : Int) == (place : Int)) = false := by
      rw [beq_eq_false_iff_ne]
      omega
    rw [if_neg here, other]
    rfl

/-- Executing an instruction writes to memory what the deed is said to write. -/
theorem State.effect_memory (s t : State) (inst : Instruction (Fin 4)) (a : Fin 256) :
    (s.effect inst).memory.get a =
      ((Deed.executed s inst t).write?.toList.lookup (a : Int)).getD (s.memory.get a) := by
  cases inst with
  | unary op r =>
    cases op with
    | input => exact congrArg (·.2.memory.get a) s.readInput_eq
    | _ => rfl
  | access op r base offset =>
    cases op with
    | ld => rfl
    | st =>
      -- The address wraps in the state as it does in the deed, also below zero.
      dsimp only [Deed.write?]
      rw [← s.address_eq]
      exact get_memory_set s.memory (s.address base offset) a _
  | _ => rfl

theorem Machine.writeByte_memory (m : Machine) (address value : Int) (a : Fin 256) :
    (m.writeByte address value).state.memory.get a =
      ((Deed.stored address value).write?.toList.lookup (a : Int)).getD (m.state.memory.get a) := by
  have place : ((Fin.ofNat 256 (address % 256).toNat : Nat) : Int) = address % 256 := by
    show (((address % 256).toNat % 256 : Nat) : Int) = _
    omega
  dsimp only [Deed.write?]
  rw [← place]
  exact get_memory_set m.state.memory _ a _

theorem kept_memory : Kept fun j s => ∀ a : Fin 256, s.memory.get a = lastWritten j.deeds a where
  loaded bytes a := by
    show (Vector.replicate 256 0)[a.val] = 0
    exact Vector.getElem_replicate a.isLt
  executed := by
    intro j s t words inst done holds a
    obtain ⟨pc, link, registers, flags, rfl⟩ := State.execute_effect done
    show (s.effect inst).memory.get a = lastWritten (j.deeds ++ [_]) a
    rw [lastWritten_append, ← holds a]
    exact s.effect_memory _ inst a
  stored := by
    intro j m address value holds a
    show (m.writeByte address value).state.memory.get a = lastWritten (j.deeds ++ [_]) a
    rw [lastWritten_append, ← holds a]
    exact m.writeByte_memory address value a
  edited holds := holds

namespace Machine

/-- After any history each place of memory holds what was last written to it, and each `ld` that was
executed has loaded what had last been written to its place. -/
theorem after_memory (codec : Codec) (history : List Operation) :
    let m := after codec history
    let j := journal codec history
    (∀ a : Fin 256, m.state.memory.get a = lastWritten j.deeds a) ∧
    ∀ past s r base offset t rest,
      j.deeds = past ++ .executed s (.access .ld r base offset) t :: rest →
        t.Shows r (lastWritten past (((s.register base : Int) - offset) % 256)) := by
  obtain ⟨holds, witnessed⟩ := kept_memory.witnessed.after codec history
  refine ⟨holds, ?_⟩
  intro past s r base offset t rest split
  obtain ⟨before, words, done⟩ := witnessed past s _ t rest split
  rw [← s.address_eq, ← before (s.address base offset)]
  exact State.execute_ld done

end Machine

end DeskComputer
