import DeskComputer.Proofs.Machine.Journal

/-!
# Input and output

How far the input has been read and what has been put out, by the instructions that were executed
since a reset last succeeded. Nothing but `in` and `out` touches either. Main statement:
`after_buffers`.
-/

namespace DeskComputer

def Deed.reads : Deed → Bool
  | .executed _ (.unary .input _) _ => true
  | _ => false

/-- The byte that a deed puts out. -/
def Deed.written? : Deed → Option Nat
  | .executed s (.unary .output r) _ => some (s.register r)
  | _ => none

theorem Deed.not_reads {s t : State} {inst : Instruction (Fin 4)}
    (other : ∀ r, inst ≠ .unary .input r) : ¬(Deed.executed s inst t).reads = true := by
  unfold reads
  split
  · rename_i same
    cases same
    exact absurd rfl (other _)
  · exact Bool.false_ne_true

theorem Deed.written?_eq_none {s t : State} {inst : Instruction (Fin 4)}
    (other : ∀ r, inst ≠ .unary .output r) : (Deed.executed s inst t).written? = none := by
  unfold written?
  split
  · rename_i same
    cases same
    exact absurd rfl (other _)
  · rfl

/-- Input and output are as a journal tells. -/
structure Accounts (j : Journal) (s : State) : Prop where
  input : s.input.toList = j.input
  position : s.inputPosition = min (j.deeds.countP Deed.reads) j.input.length
  output : s.output.toList = j.deeds.filterMap Deed.written?

theorem Accounts.consumed {j : Journal} {m : Machine} (h : Accounts j m.state) :
    m.consumed = j.input.take (j.deeds.countP Deed.reads) := by
  unfold Machine.consumed
  rw [h.input, h.position, List.take_eq_take_iff]
  omega

theorem Accounts.remaining {j : Journal} {m : Machine} (h : Accounts j m.state) :
    m.remaining = j.input.drop (j.deeds.countP Deed.reads) := by
  unfold Machine.remaining
  rw [h.input, h.position, List.drop_eq_drop_iff]
  omega

theorem Accounts.next {j : Journal} {s : State} (h : Accounts j s) :
    s.input[s.inputPosition]?.getD 0 = j.input.getD (j.deeds.countP Deed.reads) 0 := by
  rw [← Array.getElem?_toList, h.input, h.position, List.getD_eq_getElem?_getD]
  by_cases more : j.deeds.countP Deed.reads < j.input.length
  · rw [Nat.min_eq_left (Nat.le_of_lt more)]
  · rw [Nat.min_eq_right (Nat.le_of_not_lt more), List.getElem?_eq_none (Nat.le_refl _),
      List.getElem?_eq_none (Nat.le_of_not_lt more)]

namespace State

theorem effect_input (s : State) (inst : Instruction (Fin 4)) :
    (s.effect inst).input = s.input := by
  have read : s.readInput.2.input = s.input := by rw [s.readInput_eq]
  cases inst with
  | unary op r =>
    cases op with
    | input => exact read
    | _ => rfl
  | access op r base offset => cases op <;> rfl
  | _ => rfl

theorem effect_position (s t : State) (inst : Instruction (Fin 4)) :
    (s.effect inst).inputPosition =
      if (Deed.executed s inst t).reads = true ∧ s.inputPosition < s.input.size then
        s.inputPosition + 1 else s.inputPosition := by
  have read : s.readInput.2.inputPosition =
      if s.inputPosition < s.input.size then s.inputPosition + 1 else s.inputPosition := by
    rw [s.readInput_eq]
  cases inst with
  | unary op r =>
    cases op with
    | input =>
      refine read.trans ?_
      simp only [Deed.reads, true_and]
    | _ => rfl
  | access op r base offset => cases op <;> rfl
  | _ => rfl

theorem effect_output (s t : State) (inst : Instruction (Fin 4)) :
    (s.effect inst).output.toList =
      s.output.toList ++ (Deed.executed s inst t).written?.toList := by
  have read : s.readInput.2.output.toList = s.output.toList ++ [] := by
    rw [s.readInput_eq, List.append_nil]
  have quiet : s.output.toList = s.output.toList ++ [] := (List.append_nil _).symm
  cases inst with
  | unary op r =>
    cases op with
    | input => exact read
    | output => exact Array.toList_push
    | _ => exact quiet
  | access op r base offset => cases op <;> exact quiet
  | _ => exact quiet

theorem execute_buffers {s t : State} {words : Array String} {inst : Instruction (Fin 4)}
    (done : s.execute words inst = .ok t) :
    t.input = s.input ∧
    (t.inputPosition =
      if (Deed.executed s inst t).reads = true ∧ s.inputPosition < s.input.size then
        s.inputPosition + 1 else s.inputPosition) ∧
    t.output.toList = s.output.toList ++ (Deed.executed s inst t).written?.toList := by
  obtain ⟨pc, link, registers, flags, rfl⟩ := State.execute_effect done
  exact ⟨s.effect_input inst, s.effect_position _ inst, s.effect_output _ inst⟩

end State

theorem kept_accounts : Kept Accounts where
  loaded bytes := ⟨rfl, (Nat.zero_min _).symm, rfl⟩
  executed := by
    rintro j s t words inst done ⟨input, position, output⟩
    obtain ⟨sameInput, moved, grown⟩ := State.execute_buffers done
    have size : s.input.size = j.input.length := by rw [← input, Array.length_toList]
    refine ⟨?_, ?_, ?_⟩
    · rw [sameInput]
      exact input
    · show t.inputPosition = min ((j.deeds ++ [_]).countP _) j.input.length
      rw [moved, List.countP_append, List.countP_singleton, size, position]
      by_cases read : (Deed.executed s inst t).reads = true
      · rw [if_pos read]
        simp only [read, true_and]
        split <;> omega
      · rw [if_neg read, if_neg fun more => read more.1]
        rfl
    · show t.output.toList = (j.deeds ++ [_]).filterMap _
      rw [grown, Deed.filterMap_concat, output]
  stored := by
    rintro j m address value ⟨input, position, output⟩
    refine ⟨input, ?_, ?_⟩
    · show m.state.inputPosition = min ((j.deeds ++ [_]).countP _) j.input.length
      rw [List.countP_append]
      exact position
    · show m.state.output.toList = (j.deeds ++ [_]).filterMap _
      rw [Deed.filterMap_concat, output]
      exact (List.append_nil _).symm
  edited := fun ⟨input, position, output⟩ => ⟨input, position, output⟩

namespace Machine

/-- Input and output after any history, by the instructions that were executed since a reset last
succeeded and began the journal: how many have read, and which bytes they have put out. Only `in`
and `out` touch either, and each operation adds to them what it executes. -/
theorem after_buffers (codec : Codec) (history : List Operation) :
    let m := after codec history
    let j := journal codec history
    let count := j.deeds.countP Deed.reads
    (∀ program text bytes, m.loads (.reset program text) = true →
      codec.encode text = .ok bytes →
      journal codec (history ++ [.reset program text]) = { input := bytes }) ∧
    m.state.inputPosition = min count j.input.length ∧
    m.consumed = j.input.take count ∧
    m.remaining = j.input.drop count ∧
    m.consumed ++ m.remaining = j.input ∧
    m.state.output.toList = j.deeds.filterMap Deed.written? ∧
    (∀ past s inst t rest, j.deeds = past ++ .executed s inst t :: rest →
      t.input = s.input ∧
      (∀ r, inst = .unary .input r → t.Shows r (j.input.getD (past.countP Deed.reads) 0)) ∧
      ((∀ r, inst ≠ .unary .input r) → t.inputPosition = s.inputPosition) ∧
      ((∀ r, inst ≠ .unary .output r) → t.output = s.output)) ∧
    (∀ fault, m.step.1 = .error fault → m.step.2.state = m.state) ∧
    (∀ operation, m.loads operation = false →
      let n := m.perform operation
      let deeds := m.deeds operation
      n.state.input = m.state.input ∧
      n.state.inputPosition = min (count + deeds.countP Deed.reads) j.input.length ∧
      n.state.output.toList = m.state.output.toList ++ deeds.filterMap Deed.written?) := by
  intro m j count
  obtain ⟨holds, witnessed⟩ := kept_accounts.witnessed.after codec history
  refine ⟨fun _ _ _ => journal_reset, holds.position, holds.consumed, holds.remaining, ?_,
    holds.output, ?_, fun _ => step_failed_state, ?_⟩
  · rw [holds.consumed, holds.remaining]
    exact List.take_append_drop _ _
  · intro past s inst t rest split
    obtain ⟨before, words, done⟩ := witnessed past s inst t rest split
    obtain ⟨sameInput, moved, grown⟩ := State.execute_buffers done
    refine ⟨sameInput, ?_, ?_, ?_⟩
    · rintro r rfl
      have shown := State.execute_input done
      rw [before.next] at shown
      exact shown
    · intro other
      rw [moved, if_neg fun reads => Deed.not_reads other reads.1]
    · intro other
      rw [Deed.written?_eq_none other] at grown
      exact Array.toList_inj.mp (grown.trans (List.append_nil _))
  · intro operation unloaded
    have next := kept_accounts.after codec (history ++ [operation])
    rw [journal_deeds unloaded, after_concat] at next
    refine ⟨Array.toList_inj.mp (next.input.trans holds.input.symm), ?_, ?_⟩
    · rw [next.position, Journal.append, List.countP_append]
    · rw [next.output, holds.output, Journal.append, List.filterMap_append]

end Machine

end DeskComputer
