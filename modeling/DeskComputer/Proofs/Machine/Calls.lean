import DeskComputer.Proofs.Machine.IteratedRun

/-!
# Calls

A call leaves the slot behind it in the link register, and nothing else writes there. So whatever a
subroutine does, as long as it makes no call of its own, it comes back behind the call through the
link register, if the program is small enough for its slots to be bytes. Main statement:
`call_returns`.
-/

namespace DeskComputer

def State.saves (s : State) : Instruction (Fin 4) → Bool
  | .unary .jlnk _ => true
  | .branch .jlnkcnd condition _ => s.flags.test condition
  | _ => false

theorem State.execute_link {s t : State} {words : Array String} {inst : Instruction (Fin 4)}
    (done : s.execute words inst = .ok t) :
    t.link = if s.saves inst then s.nextSlot words else s.link := by
  cases inst with
  | nop =>
    cases done
    rfl
  | unary op r =>
    cases op with
    | set =>
      obtain ⟨value, -, done⟩ := bind_ok.mp done
      cases pure_ok.mp done
      rfl
    | input =>
      cases done
      exact congrArg (·.2.link) s.readInput_eq
    | _ =>
      cases done
      rfl
  | pair op r₁ r₂ =>
    cases done
    cases op <;> rfl
  | branch op condition r =>
    cases done
    unfold executeBranch saves
    by_cases taken : s.flags.test condition = true
    · cases op <;> simp [taken]
    · cases op <;> simp [taken]
  | access op r base offset =>
    cases done
    cases op <;> rfl

namespace Machine

variable {m : Machine} {k : Nat} {r : Fin 4}

/-! ### Steps -/

def Calls (m : Machine) : Prop := ∃ inst, m.step.1 = .ok inst ∧ m.state.saves inst = true

theorem step_call (calls : m.Calls) :
    m.state.pc < m.words.size ∧ m.step.2.state.link = m.state.nextSlot m.words := by
  obtain ⟨inst, done, saves⟩ := calls
  obtain ⟨word, state, fetched, executed, left⟩ := step_done done
  refine ⟨(Array.getElem?_eq_some_iff.mp fetched).1, ?_⟩
  rw [left]
  exact (State.execute_link executed).trans (if_pos saves)

theorem step_uncalled (free : ¬m.Calls) : m.step.2.state.link = m.state.link := by
  cases done : m.step.1 with
  | error fault => rw [step_failed_state done]
  | ok inst =>
    obtain ⟨word, state, -, executed, left⟩ := step_done done
    have passes : ¬m.state.saves inst = true := fun saves => free ⟨inst, done, saves⟩
    rw [left]
    exact (State.execute_link executed).trans (if_neg passes)

/-- What is copied from the link register is its low byte. -/
theorem step_mvlnk (copies : m.step.1 = .ok (.unary .mvlnk r)) :
    m.step.2.state.register r = m.state.link % 256 := by
  obtain ⟨word, state, -, executed, left⟩ := step_done copies
  rw [left]
  cases executed
  exact (State.register_setRegister ..).trans (if_pos rfl)

theorem step_j (jumps : m.step.1 = .ok (.unary .j r)) :
    m.step.2.state.pc = m.state.register r := by
  obtain ⟨word, state, -, executed, left⟩ := step_done jumps
  rw [left]
  cases executed
  rfl

theorem steps_uncalled (free : ∀ i < k, ¬(m.steps i).Calls) :
    (m.steps k).state.link = m.state.link := by
  induction k with
  | zero => rfl
  | succ k ih =>
    have passed := step_uncalled (free k (Nat.lt_succ_self k))
    exact passed.trans (ih fun i within => free i (Nat.lt_succ_of_lt within))

/-! ### Returns -/

/-- The slot behind a call stays in the link register until the next call. -/
theorem steps_behind_call (calls : m.Calls) (free : ∀ i < k, ¬(m.step.2.steps i).Calls) :
    (m.step.2.steps k).state.link = m.state.nextSlot m.words :=
  (steps_uncalled free).trans (step_call calls).2

/-- A jump through a copy of the link register leads where the link register says, if that is a
byte. -/
theorem steps_mvlnk_j (small : m.state.link < 256) (copies : m.step.1 = .ok (.unary .mvlnk r))
    (jumps : m.step.2.step.1 = .ok (.unary .j r)) : m.step.2.step.2.state.pc = m.state.link := by
  rw [step_j jumps, step_mvlnk copies, Nat.mod_eq_of_lt small]

theorem WellFormed.step_fetched (h : m.WellFormed) (running : m.status ≠ .halted) {word : String}
    (fetched : m.words[m.state.pc]? = some word) {inst : Instruction (Fin 4)}
    (decoded : Word.decode (.text word) = .ok inst) : m.step.1 = .ok inst := by
  have inside := (Array.getElem?_eq_some_iff.mp fetched).1
  have binary := h.words _ (Array.mem_of_getElem? fetched)
  obtain ⟨state, executed⟩ := State.execute_ok inside h.words inst
  rw [step_executed running fetched binary ((Word.decode_ok binary).mp decoded) executed]

/-- A call in a program of up to 256 words, after any history, leaves the slot behind it in the link
register until the next call, and a jump through a copy of the link register leads there. -/
theorem call_returns {codec : Codec} {history : List Operation}
    (reached : after codec history = m) (running : m.status ≠ .halted)
    (small : m.words.size ≤ 256) {word : String} (fetched : m.words[m.state.pc]? = some word)
    {inst : Instruction (Fin 4)} (decoded : Word.decode (.text word) = .ok inst)
    (saves : m.state.saves inst = true) :
    let back := (m.state.pc + 1) % m.words.size
    m.step.1 = .ok inst ∧ back < m.words.size ∧
    ∀ k n, m.step.2.steps k = n → (∀ i < k, ¬(m.step.2.steps i).Calls) →
      n.state.link = back ∧
      ∀ r, n.step.1 = .ok (.unary .mvlnk r) → n.step.2.step.1 = .ok (.unary .j r) →
        n.step.2.step.2.state.pc = back := by
  intro back
  have h : m.WellFormed := reached ▸ after_wellFormed codec history
  have done := h.step_fetched running fetched decoded
  have calls : m.Calls := ⟨inst, done, saves⟩
  have valid : back < m.words.size := State.nextSlot_lt (step_call calls).1
  refine ⟨done, valid, ?_⟩
  rintro k n rfl free
  have link : (m.step.2.steps k).state.link = back := steps_behind_call calls free
  have byte : (m.step.2.steps k).state.link < 256 := by omega
  exact ⟨link, fun r copies jumps => (steps_mvlnk_j byte copies jumps).trans link⟩

/-- The call is taken in the last slot, and one that is not taken stands before the return. -/
theorem call_returns_around :
    let history : List Operation :=
      [.reset [.code (.unary .j 3), .code (.branch .jlnkcnd 1 0), .code (.unary .mvlnk 2),
        .code (.unary .j 2), .code (.branch .jlnkcnd 2 1)] [],
        .setRegister 1 1, .setRegister 3 4, .setFlags { zero := true }, .step]
    let m := after .utf8 history
    let n := m.step.2.steps 1
    m.status ≠ .halted ∧ m.words.size = 5 ∧ m.state.pc = 4 ∧
      m.step.1 = .ok (.branch .jlnkcnd 2 1) ∧ ¬m.step.2.Calls ∧
      n.step.1 = .ok (.unary .mvlnk 2) ∧ n.step.2.step.1 = .ok (.unary .j 2) ∧
      n.state.link = 0 ∧ n.step.2.step.2.state.pc = 0 := by
  intro history m n
  have around : (m.state.pc + 1) % m.words.size = 0 := by decide
  have passes : ¬m.step.2.Calls := by
    rintro ⟨inst, done, saves⟩
    have found : m.step.2.step.1 = .ok (.branch .jlnkcnd 1 0) := ok_of_toOption (by decide)
    rw [found] at done
    cases done
    exact absurd saves (by decide)
  have free : ∀ i < 1, ¬(m.step.2.steps i).Calls := by
    intro i within
    obtain rfl := Nat.lt_one_iff.mp within
    exact passes
  have copies : n.step.1 = .ok (.unary .mvlnk 2) := ok_of_toOption (by decide)
  have jumps : n.step.2.step.1 = .ok (.unary .j 2) := ok_of_toOption (by decide)
  have fetched : m.words[m.state.pc]? = some "01111001" := by decide
  have decoded : Word.decode (.text "01111001") = .ok (.branch .jlnkcnd 2 1) :=
    ok_of_toOption (by decide)
  obtain ⟨called, -, returns⟩ :=
    call_returns (m := m) rfl (by decide) (by decide) fetched decoded (by decide)
  obtain ⟨link, back⟩ := returns 1 n rfl free
  exact ⟨by decide, by decide, by decide, called, passes, copies, jumps, link.trans around,
    (back 2 copies jumps).trans around⟩

end Machine

end DeskComputer
