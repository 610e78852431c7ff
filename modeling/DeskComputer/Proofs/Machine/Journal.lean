import DeskComputer.Proofs.Machine.Chronicle

/-!
# Journals

A `Journal` tells all that bears on the data of a machine since a reset last succeeded: the input
that was loaded, the instructions that were executed, those within runs included, and the bytes that
were stored from outside. A property of journals and states that each of these keeps holds after any
history, and it held before each of the instructions: `Kept.after`, `Kept.witnessed`. These are the
instructions of the chronicle: `journal_executed`.
-/

namespace DeskComputer

inductive Deed where
  | executed (before : State) (inst : Instruction (Fin 4)) (after : State)
  /-- A byte was stored from outside. -/
  | stored (address value : Int)

def Deed.inst? : Deed → Option (Instruction (Fin 4))
  | .executed _ inst _ => some inst
  | .stored _ _ => none

structure Journal where
  input : List Nat := []
  deeds : List Deed := []

def Journal.append (j : Journal) (deeds : List Deed) : Journal :=
  { j with deeds := j.deeds ++ deeds }

@[simp] theorem Journal.append_nil (j : Journal) : j.append [] = j := by
  rw [append, List.append_nil]

theorem Journal.append_append (j : Journal) (first second : List Deed) :
    (j.append first).append second = j.append (first ++ second) := by
  simp only [append, List.append_assoc]

theorem Deed.filterMap_concat {α : Type} (f : Deed → Option α) (deeds : List Deed) (d : Deed) :
    (deeds ++ [d]).filterMap f = deeds.filterMap f ++ (f d).toList := by
  rw [List.filterMap_append, List.filterMap_cons]
  cases f d <;> rfl

namespace Machine

/-- A step that fails does nothing. -/
def stepDeeds (m : Machine) : List Deed :=
  match m.step with
  | (.ok inst, n) => [.executed m.state inst n.state]
  | (.error _, _) => []

def stepsDeeds (m : Machine) (k : Nat) : List Deed :=
  (List.range k).flatMap fun i => (m.steps i).stepDeeds

def deeds (m : Machine) : Operation → List Deed
  | .writeByte address value => [.stored address value]
  | operation => m.stepsDeeds (m.tries operation)

theorem stepsDeeds_succ (m : Machine) (k : Nat) :
    m.stepsDeeds (k + 1) = m.stepsDeeds k ++ (m.steps k).stepDeeds := by
  unfold stepsDeeds
  rw [List.range_succ, List.flatMap_append, List.flatMap_singleton]

/-- The bytes that an operation loads if it succeeds. -/
def loadedBytes (m : Machine) : Operation → List Nat
  | .reset _ input => (m.codec.encode input).toOption.getD []
  | _ => []

end Machine

/-- The journal after an operation on a machine. -/
def Journal.next (j : Journal) (m : Machine) (operation : Machine.Operation) : Journal :=
  if m.loads operation then { input := m.loadedBytes operation } else j.append (m.deeds operation)

def Journal.through : Journal → Machine → List Machine.Operation → Journal
  | j, _, [] => j
  | j, m, operation :: history => (j.next m operation).through (m.perform operation) history

def Machine.journal (codec : Codec) (history : List Operation) : Journal :=
  Journal.through {} { codec } history

theorem Journal.through_concat (j : Journal) (m : Machine) (history : List Machine.Operation)
    (operation : Machine.Operation) :
    j.through m (history ++ [operation]) =
      (j.through m history).next (history.foldl Machine.perform m) operation := by
  induction history generalizing j m with
  | nil => rfl
  | cons first history ih => exact ih (j.next m first) (m.perform first)

/-- A reset that succeeds begins another journal, with the bytes of its input. -/
theorem Machine.journal_reset {codec : Codec} {history : List Operation}
    {program : List Entry} {input : List Text.CodePoint} {bytes : List Nat}
    (loads : (after codec history).loads (.reset program input) = true)
    (readable : codec.encode input = .ok bytes) :
    journal codec (history ++ [.reset program input]) = { input := bytes } := by
  have same : (after codec history).codec = codec := (after_loaded codec history).codec
  refine (Journal.through_concat _ _ _ _).trans ?_
  unfold Journal.next
  refine (if_pos loads).trans ?_
  show ({ input := ((after codec history).codec.encode _).toOption.getD [] } : Journal) = _
  rw [same, readable]
  rfl

/-- Other operations add to the journal. -/
theorem Machine.journal_deeds {codec : Codec} {history : List Operation}
    {operation : Operation} (loads : (after codec history).loads operation = false) :
    journal codec (history ++ [operation]) =
      (journal codec history).append ((after codec history).deeds operation) := by
  refine (Journal.through_concat _ _ _ _).trans ?_
  unfold Journal.next
  exact if_neg (Bool.not_eq_true _ ▸ loads)

/-! ### What deeds keep -/

/-- A property of journals and states that loading brings about, and that whatever is done to a
machine keeps. -/
structure Kept (P : Journal → State → Prop) : Prop where
  loaded : ∀ bytes, P { input := bytes } { input := bytes.toArray }
  executed : ∀ {j s t words inst}, s.execute words inst = .ok t → P j s →
    P (j.append [.executed s inst t]) t
  stored : ∀ {j} {m : Machine} {address value}, P j m.state →
    P (j.append [.stored address value]) (m.writeByte address value).state
  edited : ∀ {j s registers flags}, P j s → P j { s with registers, flags }

namespace Kept

variable {P : Journal → State → Prop} {j : Journal} {m : Machine}

theorem step (h : Kept P) (holds : P j m.state) : P (j.append m.stepDeeds) m.step.2.state := by
  unfold Machine.stepDeeds
  rcases m.step_outcome with ⟨word, inst, state, -, -, -, executed, stepped⟩ |
    ⟨fault, n, same, stepped⟩
  · rw [stepped]
    exact h.executed executed holds
  · rw [stepped]
    dsimp only
    rw [same, j.append_nil]
    exact holds

theorem steps (h : Kept P) (holds : P j m.state) (k : Nat) :
    P (j.append (m.stepsDeeds k)) (m.steps k).state := by
  induction k with
  | zero =>
    have same : j.append (m.stepsDeeds 0) = j := j.append_nil
    rw [same]
    exact holds
  | succ k ih =>
    rw [Machine.stepsDeeds_succ, ← Journal.append_append]
    exact h.step ih

theorem run (h : Kept P) (holds : P j m.state) (budget : Int) :
    P (j.append (m.deeds (.run budget))) (m.run budget).machine.state := by
  obtain ⟨breakpoints, left⟩ := m.run_tries budget
  rw [left]
  exact h.steps holds _

theorem next (h : Kept P) (holds : P j m.state) (operation : Machine.Operation) :
    P (j.next m operation) (m.perform operation).state := by
  have quiet : P (j.append []) m.state := j.append_nil.symm ▸ holds
  cases operation with
  | reset program input =>
    unfold Journal.next Machine.loads Machine.perform Machine.loadedBytes
    rcases m.reset_cases program input with ⟨fault, -, left⟩ | ⟨words, flaw, -, -, left⟩ |
      ⟨words, bytes, -, readable, left⟩
    · simp only [left]
      exact quiet
    · simp only [left]
      exact quiet
    · simp only [left, readable]
      exact h.loaded bytes
  | step => exact h.steps holds 1
  | run budget => exact h.run holds budget
  | setRegister index value =>
    obtain ⟨registers, left⟩ := m.perform_setRegister index value
    rw [left]
    exact h.edited quiet
  | writeByte address value => exact h.stored holds
  | setFlags flags => exact h.edited quiet
  | breakpoint operation => exact quiet

theorem through (h : Kept P) (holds : P j m.state) (history : List Machine.Operation) :
    P (j.through m history) (history.foldl Machine.perform m).state := by
  induction history generalizing j m with
  | nil => exact holds
  | cons operation history ih => exact ih (h.next holds operation)

theorem after (h : Kept P) (codec : Codec) (history : List Machine.Operation) :
    P (Machine.journal codec history) (Machine.after codec history).state :=
  h.through (h.loaded []) history

end Kept

/-- Each instruction that a journal tells of was executed in a state of which a property held, of
the journal up to there. -/
def Journal.Witnessed (P : Journal → State → Prop) (j : Journal) : Prop :=
  ∀ past s inst t rest, j.deeds = past ++ .executed s inst t :: rest →
    P { j with deeds := past } s ∧ ∃ words, s.execute words inst = .ok t

namespace Journal.Witnessed

variable {P : Journal → State → Prop} {j : Journal}

theorem append (h : j.Witnessed P) {d : Deed}
    (last : ∀ s inst t, d = .executed s inst t → P j s ∧ ∃ words, s.execute words inst = .ok t) :
    (j.append [d]).Witnessed P := by
  intro past s inst t rest split
  unfold Journal.append at split
  rcases List.eq_nil_or_concat rest with rfl | ⟨rest, other, rfl⟩
  · obtain ⟨rfl, same⟩ := List.append_inj' split rfl
    exact last s inst t (List.cons.inj same).1
  · rw [List.concat_eq_append, ← List.cons_append, ← List.append_assoc] at split
    exact h past s inst t rest (List.append_inj' split rfl).1

end Journal.Witnessed

theorem Kept.witnessed {P : Journal → State → Prop} (h : Kept P) :
    Kept fun j s => P j s ∧ j.Witnessed P where
  loaded bytes := by
    refine ⟨h.loaded bytes, ?_⟩
    intro past s inst t rest split
    simp at split
  executed := by
    rintro j s t words inst done ⟨holds, seen⟩
    refine ⟨h.executed done holds, seen.append ?_⟩
    rintro _ _ _ ⟨⟩
    exact ⟨holds, words, done⟩
  stored := by
    rintro j m address value ⟨holds, seen⟩
    exact ⟨h.stored holds, seen.append fun _ _ _ same => nomatch same⟩
  edited := fun ⟨holds, seen⟩ => ⟨h.edited holds, seen⟩

/-! ### Journals and chronicles -/

namespace Machine

variable {m : Machine}

theorem stepDeeds_inst (m : Machine) :
    m.stepDeeds.filterMap Deed.inst? = m.step.1.toOption.toList := by
  unfold stepDeeds
  split
  · rename_i inst n stepped
    rw [stepped]
    rfl
  · rename_i fault n stepped
    rw [stepped]
    rfl

theorem deeds_inst (m : Machine) (operation : Operation) :
    (m.deeds operation).filterMap Deed.inst? =
      (m.outcomes (m.tries operation)).filterMap Except.toOption := by
  have steps : ∀ k, (m.stepsDeeds k).filterMap Deed.inst? =
      (m.outcomes k).filterMap Except.toOption := by
    intro k
    induction k with
    | zero => rfl
    | succ k ih =>
      rw [stepsDeeds_succ, outcomes_succ, List.filterMap_append, List.filterMap_append, ih,
        stepDeeds_inst]
      cases (m.steps k).step.1 <;> rfl
  cases operation with
  | writeByte address value => rfl
  | _ => exact steps _

/-- A journal tells of the instructions that steps have answered, and of no others. -/
theorem journal_executed (codec : Codec) (history : List Operation) :
    (journal codec history).deeds.filterMap Deed.inst? = (chronicle codec history).executed := by
  have onward : ∀ (j : Journal) (c : Chronicle) (m : Machine),
      j.deeds.filterMap Deed.inst? = c.executed →
      (j.through m history).deeds.filterMap Deed.inst? = (c.through m history).executed := by
    induction history with
    | nil => intro j c m same; exact same
    | cons operation history ih =>
      intro j c m same
      refine ih _ _ _ ?_
      unfold Journal.next Chronicle.next
      split
      · rfl
      · simp only [Journal.append, Chronicle.append, Chronicle.executed, List.filterMap_append,
          deeds_inst] at same ⊢
        rw [same]
  exact onward {} {} { codec } rfl

end Machine

end DeskComputer
