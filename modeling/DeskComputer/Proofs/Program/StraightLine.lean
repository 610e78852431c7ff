import DeskComputer.Proofs.Machine.Calls
import DeskComputer.Proofs.Machine.Unrolling
import DeskComputer.Proofs.Program.Relisting
import Mathlib.Data.List.Forall2

/-!
# Straight-line programs

A disassembly sweeps over the words of a program: it takes one word for an instruction, and two for
a `set`. Without jumps the machine goes the same way, executes what the disassembly lists, and halts
where it ends, or where it meets a word that stands for no instruction. Main statement:
`run_straight_line`.
-/

namespace DeskComputer

/-- How many words an instruction takes. -/
def Instruction.width (inst : Instruction (Fin 4)) : Nat :=
  if inst.opcode = .unary .set then 2 else 1

def Opcode.jumps : Opcode → Bool
  | .unary .j | .unary .jlnk | .branch _ => true
  | _ => false

/-- Instructions with their slots, one behind the other, from a slot of a program to another. -/
inductive Sweep (words : Array String) : Nat → List (Nat × Instruction (Fin 4)) → Nat → Prop where
  | nil {slot : Nat} : Sweep words slot [] slot
  | cons {slot stop : Nat} {word : String} {inst : Instruction (Fin 4)}
      {met : List (Nat × Instruction (Fin 4))} :
      words[slot]? = some word → Word.decode (.text word) = .ok inst →
      Sweep words (slot + inst.width) met stop → Sweep words slot ((slot, inst) :: met) stop

theorem Sweep.mono {words more : Array String}
    (kept : ∀ (i : Nat) word, words[i]? = some word → more[i]? = some word) {slot stop : Nat}
    {met : List (Nat × Instruction (Fin 4))} (swept : Sweep words slot met stop) :
    Sweep more slot met stop := by
  induction swept with
  | nil => exact .nil
  | cons fetched decoded _ ih => exact .cons (kept _ _ fetched) decoded ih

/-! ### Execution -/

theorem State.following_width {s : State} {words : Array String} {inst : Instruction (Fin 4)}
    (straight : inst.opcode.jumps = false) :
    (s.target? inst).getD (s.following words inst) = s.pc + inst.width := by
  cases inst with
  | unary op r =>
    cases op with
    | j | jlnk => cases straight
    | _ => rfl
  | branch op condition r => cases straight
  | _ => rfl

namespace Machine

variable {m : Machine} {met : List (Nat × Instruction (Fin 4))} {stop : Nat}

theorem steps_sweep (h : m.WellFormed) (running : m.status ≠ .halted)
    (swept : Sweep m.words m.state.pc met stop) (straight : ∀ p ∈ met, p.2.opcode.jumps = false) :
    (m.steps met.length).state.pc = stop ∧
      ∀ i p, met[i]? = some p →
        (m.steps i).state.pc = p.1 ∧ (m.steps i).step.1 = .ok p.2 := by
  generalize start : m.state.pc = slot at swept
  generalize same : m.words = words at swept
  induction swept generalizing m with
  | nil => exact ⟨start, by simp⟩
  | @cons slot stop word inst met fetched decoded _ ih =>
    subst start same
    rw [List.forall_mem_cons] at straight
    have done := h.step_fetched running fetched decoded
    obtain ⟨_, state, -, executed, left⟩ := step_done done
    have next : m.step.2.state.pc = m.state.pc + inst.width := by
      rw [left]
      exact (State.execute_pc executed).trans (State.following_width straight.1)
    have words : m.step.2.words = m.words := by rw [left]
    have onward : m.step.2.status ≠ .halted := by
      rw [left]
      exact Status.noConfusion
    obtain ⟨last, each⟩ := ih (step_wellFormed h) onward straight.2 next words
    refine ⟨by rw [List.length_cons, steps_succ, last], ?_⟩
    intro i p here
    cases i with
    | zero =>
      cases here
      exact ⟨rfl, done⟩
    | succ i =>
      rw [steps_succ]
      exact each i p here

/-- Where the step behind a sweep without jumps fails, a run executes what is swept and stops. -/
theorem run_sweep (h : m.WellFormed) (running : m.status ≠ .halted)
    (unpaused : ∀ slot, m.breakpoints.stopsAt slot = false)
    (swept : Sweep m.words m.state.pc met stop) (straight : ∀ p ∈ met, p.2.opcode.jumps = false)
    {fault : Fault}
    (fails : ∀ n : Machine, n.status ≠ .halted → n.words = m.words → n.state.pc = stop →
      n.step = (.error fault, n.halt fault))
    {budget : Int} (enough : met.length < budget) :
    let r := m.run budget
    r.executed.map (fun e => (e.pc, e.inst)) = met ∧
      r.stop =
        (if fault.endsRun then
          .ok
            { reason := .halted, address := some stop, steps := met.length, message := fault.text }
        else .error fault) ∧
      r.machine.status = .halted ∧ r.machine.haltedBy = some fault ∧ r.machine.state.pc = stop := by
  obtain ⟨last, each⟩ := steps_sweep h running swept straight
  have fine : ∀ i < met.length, ∃ inst, (m.steps i).step.1 = .ok inst := fun i within =>
    ⟨_, (each i _ (List.getElem?_eq_getElem within)).2⟩
  have failed := fails _ (steps_running running fine) (m.steps_words met.length) last
  have goes : ∀ i < met.length, ¬m.StopsAt budget i := fun i within =>
    not_stopsAt unpaused (fine i within) (by omega)
  obtain ⟨left, trace, count, length, records, same⟩ := runFrom_continues goes
  obtain ⟨left, rfl⟩ : ∃ next, left = next + 1 := ⟨left - 1, by omega⟩
  have here : ¬(0 < met.length ∧ (m.steps met.length).breakpoints.stopsAt
      (m.steps met.length).state.pc = true) := by
    rw [m.steps_breakpoints, unpaused]
    exact fun paused => Bool.false_ne_true paused.2
  rw [run, if_neg running, same, runFrom_failed here (congrArg Prod.fst failed), failed, last]
  refine ⟨?_, rfl, rfl, rfl, last⟩
  apply List.ext_getElem
  · rw [List.length_map, List.length_reverse, length]
  · intro i inside within
    rw [List.length_map] at inside
    obtain ⟨pc, inst, -, -⟩ := records i _ (List.getElem?_eq_getElem inside)
    obtain ⟨here, done⟩ := each i _ (List.getElem?_eq_getElem within)
    rw [List.getElem_map]
    exact Prod.ext (pc.trans here) (Except.ok.inj (inst.symm.trans done))

end Machine

/-! ### Disassembly -/

/-- The words of a listing that are not data. -/
def codeWords (listed : List ListedWord) : List ListedWord := listed.filter fun w => !w.isData

/-- Whether the last word of a listing is a `set` whose data word is missing. -/
def Truncated (listed : List ListedWord) : Prop := ∃ last ∈ listed.getLast?, last.AwaitsData

/-- Whether an instruction, with its slot, is what a word is listed as. -/
def ListedAs (p : Nat × Instruction (Fin 4)) (w : ListedWord) : Prop :=
  w.slot = p.1 ∧ Word.decode (.text w.word) = .ok p.2

/-- Whether no instruction of a listing jumps. -/
def Straight (listed : List ListedWord) : Prop :=
  ∀ w ∈ codeWords listed, ∀ inst, Word.decode (.text w.word) = .ok inst →
    inst.opcode.jumps = false

instance (listed : List ListedWord) : Decidable (Straight listed) :=
  decidable_of_iff
    (∀ w ∈ codeWords listed, ∀ inst ∈ (Word.decode (.text w.word)).toOption,
      inst.opcode.jumps = false)
    (by simp only [Straight, Option.mem_def, toOption_eq_some])

/-- Whether what was executed is what is listed, in order and each once. -/
def Follows (executed : List Executed) (listed : List ListedWord) : Prop :=
  List.Forall₂ (fun e w => ListedAs (e.pc, e.inst) w) executed (codeWords listed)

section Listing

variable {words : List String} {listed : List ListedWord} {w d : String}
  {inst : Instruction (Fin 4)}

theorem Straight.of_listedAs (straight : Straight listed)
    {met : List (Nat × Instruction (Fin 4))} (same : List.Forall₂ ListedAs met (codeWords listed)) :
    ∀ p ∈ met, p.2.opcode.jumps = false := by
  unfold Straight at straight
  generalize codeWords listed = code at same straight
  induction same with
  | nil => simp
  | cons first _ ih =>
    rw [List.forall_mem_cons] at straight ⊢
    exact ⟨straight.1 _ first.2, ih straight.2⟩

theorem codeWords_cons_code {slot : Int} {text : String} :
    codeWords (⟨slot, w, text, false⟩ :: listed) = ⟨slot, w, text, false⟩ :: codeWords listed :=
  rfl

theorem codeWords_cons_data {slot : Int} {text : String} :
    codeWords (⟨slot, w, text, true⟩ :: listed) = codeWords listed :=
  rfl

theorem truncated_cons {first : ListedWord} (whole : ¬first.AwaitsData) :
    Truncated (first :: listed) ↔ Truncated listed := by
  unfold Truncated
  cases listed with
  | nil => simp [whole]
  | cons second rest => rw [List.getLast?_cons_cons]

theorem truncated_cons_cons {first second : ListedWord} :
    Truncated (first :: second :: listed) ↔ Truncated (second :: listed) := by
  unfold Truncated
  rw [List.getLast?_cons_cons]

theorem not_awaitsData {item : ListedWord} (decoded : Word.decode (.text item.word) = .ok inst)
    (other : inst.opcode ≠ .unary .set) : ¬item.AwaitsData := by
  rintro ⟨-, r, set⟩
  rw [decoded] at set
  cases set
  exact other rfl

theorem of_drop_eq_cons {α : Type} {all rest : List α} {a : α} {n : Nat}
    (here : all.drop n = a :: rest) : all[n]? = some a ∧ all.drop (n + 1) = rest := by
  constructor
  · have first := congrArg (·[0]?) here
    rwa [List.getElem?_drop, List.getElem?_cons_zero, Nat.add_zero] at first
  · rw [← List.drop_drop, here]
    rfl

/-- A listing that succeeds is a sweep over the words, to their end or, if the data word of the last
`set` is missing, one further. -/
theorem sweep_of_listed {program : Array String} {slot : Nat}
    (here : program.toList.drop slot = words) (inside : slot ≤ program.size)
    (read : listWordsFrom slot false words = .ok listed) :
    ∃ met stop, Sweep program slot met stop ∧ List.Forall₂ ListedAs met (codeWords listed) ∧
      (¬Truncated listed ∧ stop = program.size ∨ Truncated listed ∧ stop = program.size + 1) := by
  -- A `set` takes two words, so the induction is on the number of words that are left.
  induction size : words.length using Nat.strongRecOn generalizing words slot listed with
  | ind n ih =>
    have left : words.length = program.size - slot := by
      rw [← here, List.length_drop, Array.length_toList]
    cases words with
    | nil =>
      cases read
      refine ⟨[], slot, .nil, .nil, .inl ⟨by simp [Truncated], ?_⟩⟩
      rw [List.length_nil] at left
      omega
    | cons w words =>
      obtain ⟨inst, rest, decoded, remaining, rfl⟩ := listWordsFrom_cons read
      generalize inst.widen.listed _ = text at read ⊢
      obtain ⟨stored, behind⟩ := of_drop_eq_cons here
      rw [List.length_cons] at left size
      have fetched : program[slot]? = some w := by rwa [← Array.getElem?_toList]
      have same : ListedAs (slot, inst) ⟨slot, w, text, false⟩ := ⟨rfl, decoded⟩
      rw [codeWords_cons_code]
      by_cases set : inst.opcode = .unary .set
      · have two : slot + inst.width = slot + 2 := by rw [Instruction.width, if_pos set]
        rw [decide_eq_true set] at remaining
        cases words with
        | nil =>
          cases remaining
          obtain ⟨r, rfl⟩ := inst.eq_set set
          have truncated : Truncated [⟨slot, w, text, false⟩] := ⟨_, rfl, rfl, r, decoded⟩
          refine ⟨_, slot + 2, .cons fetched decoded (two ▸ .nil), .cons same .nil,
            .inr ⟨truncated, ?_⟩⟩
          rw [List.length_nil] at left
          omega
        | cons d words =>
          obtain ⟨later, rest, rfl⟩ := listWordsFrom_data remaining
          obtain ⟨-, behind⟩ := of_drop_eq_cons behind
          rw [List.length_cons] at left size
          obtain ⟨met, stop, swept, listed, ends⟩ := ih words.length (by omega) behind (by omega)
            (by exact_mod_cast rest) rfl
          have data : ¬ListedWord.AwaitsData ⟨slot + 1, d, "", true⟩ :=
            fun awaits => nomatch awaits.1
          rw [codeWords_cons_data, truncated_cons_cons, truncated_cons data]
          exact ⟨_, stop, .cons fetched decoded (two ▸ swept), .cons same listed, ends⟩
      · have one : slot + inst.width = slot + 1 := by rw [Instruction.width, if_neg set]
        rw [decide_eq_false set] at remaining
        obtain ⟨met, stop, swept, listed, ends⟩ := ih words.length (by omega) behind (by omega)
          (by exact_mod_cast remaining) rfl
        have whole : ¬ListedWord.AwaitsData ⟨slot, w, text, false⟩ := not_awaitsData decoded set
        rw [truncated_cons whole]
        exact ⟨_, stop, .cons fetched decoded (one ▸ swept), .cons same listed, ends⟩

theorem listWordsFrom_decoded (slot : Int) (words : List String)
    (decoded : Word.decode (.text w) = .ok inst) :
    ∃ text, listWordsFrom slot false (w :: words) =
      (listWordsFrom (slot + 1) (inst.opcode = .unary .set) words).map
        (⟨slot, w, text, false⟩ :: ·) := by
  rw [listWordsFrom, if_neg (by decide), decoded, ← inst.opcode_widen]
  exact ⟨_, rfl⟩

theorem listWordsFrom_behind_set {slot : Int} :
    listWordsFrom slot true (d :: words) =
      (listWordsFrom (slot + 1) false words).map (⟨slot, d, "", true⟩ :: ·) :=
  rfl

/-- Whether words are listed up to one that is refused, which is in the place of an instruction. -/
structure RefusedAt (slot : Int) (words : List String) (fault : Fault) (k : Nat)
    (listed : List ListedWord) : Prop where
  word : ∃ word, words[k]? = some word ∧ Word.decode (.text word) = .error fault
  before : listWordsFrom slot false (words.take k) = .ok listed
  complete : ¬Truncated listed
  fails : listWordsFrom slot false (words.take (k + 1)) = .error fault

namespace RefusedAt

variable {slot : Int} {fault : Fault} {k : Nat}

theorem first (refused : Word.decode (.text w) = .error fault) :
    RefusedAt slot (w :: words) fault 0 [] where
  word := ⟨w, rfl, refused⟩
  before := rfl
  complete := by simp [Truncated]
  fails := by
    rw [List.take_succ_cons, listWordsFrom, if_neg (by decide), refused]
    rfl

theorem cons (h : RefusedAt (slot + 1) words fault k listed)
    (decoded : Word.decode (.text w) = .ok inst) (other : inst.opcode ≠ .unary .set) :
    ∃ text, RefusedAt slot (w :: words) fault (k + 1) (⟨slot, w, text, false⟩ :: listed) := by
  obtain ⟨text, before⟩ := listWordsFrom_decoded slot (words.take k) decoded
  obtain ⟨text', fails⟩ := listWordsFrom_decoded slot (words.take (k + 1)) decoded
  rw [decide_eq_false other] at before fails
  refine ⟨text, h.word, ?_, ?_, ?_⟩
  · rw [List.take_succ_cons, before, h.before]
    rfl
  · have whole : ¬ListedWord.AwaitsData ⟨slot, w, text, false⟩ := not_awaitsData decoded other
    rw [truncated_cons whole]
    exact h.complete
  · rw [List.take_succ_cons, fails, h.fails]
    rfl

theorem cons_set (h : RefusedAt (slot + 1 + 1) words fault k listed)
    (decoded : Word.decode (.text w) = .ok inst) (set : inst.opcode = .unary .set) :
    ∃ text, RefusedAt slot (w :: d :: words) fault (k + 2)
      (⟨slot, w, text, false⟩ :: ⟨slot + 1, d, "", true⟩ :: listed) := by
  obtain ⟨text, before⟩ := listWordsFrom_decoded slot (d :: words.take k) decoded
  obtain ⟨text', fails⟩ := listWordsFrom_decoded slot (d :: words.take (k + 1)) decoded
  rw [decide_eq_true set, listWordsFrom_behind_set] at before fails
  refine ⟨text, h.word, ?_, ?_, ?_⟩
  · rw [List.take_succ_cons, List.take_succ_cons, before, h.before]
    rfl
  · have data : ¬ListedWord.AwaitsData ⟨slot + 1, d, "", true⟩ := fun awaits => nomatch awaits.1
    rw [truncated_cons_cons, truncated_cons data]
    exact h.complete
  · rw [List.take_succ_cons, List.take_succ_cons, fails, h.fails]
    rfl

end RefusedAt

/-- A listing that fails is refused at some word. -/
theorem exists_refusedAt {slot : Int} {fault : Fault}
    (failed : listWordsFrom slot false words = .error fault) :
    ∃ k listed, RefusedAt slot words fault k listed := by
  -- The same induction as for a listing that succeeds.
  induction size : words.length using Nat.strongRecOn generalizing words slot with
  | ind n ih =>
    cases words with
    | nil => cases failed
    | cons w words =>
      rw [List.length_cons] at size
      cases decoded : Word.decode (.text w) with
      | error other =>
        have first : RefusedAt slot (w :: words) other 0 [] := .first decoded
        rw [listWordsFrom, if_neg (by decide), decoded] at failed
        cases failed
        exact ⟨0, [], first⟩
      | ok inst =>
        obtain ⟨text, whole⟩ := listWordsFrom_decoded slot words decoded
        rw [whole, map_error] at failed
        by_cases set : inst.opcode = .unary .set
        · rw [decide_eq_true set] at failed
          cases words with
          | nil => cases failed
          | cons d words =>
            rw [List.length_cons] at size
            rw [listWordsFrom_behind_set, map_error] at failed
            obtain ⟨k, listed, refused⟩ := ih words.length (by omega) failed rfl
            obtain ⟨text, refused⟩ := refused.cons_set decoded set
            exact ⟨_, _, refused⟩
        · rw [decide_eq_false set] at failed
          obtain ⟨k, listed, refused⟩ := ih words.length (by omega) failed rfl
          obtain ⟨text, refused⟩ := refused.cons decoded set
          exact ⟨_, _, refused⟩

end Listing

/-! ### Programs -/

namespace Machine

section Runs

variable {m : Machine} (h : m.WellFormed) (running : m.status ≠ .halted)
  (unpaused : ∀ slot, m.breakpoints.stopsAt slot = false) (start : m.state.pc = 0)
  {listed : List ListedWord} (straight : Straight listed) {budget : Int}
  (enough : (codeWords listed).length < budget)
include h running unpaused start straight enough

/-- What a listing shows is executed, and the machine halts where the listing ends. -/
theorem run_listed (read : listWordsFrom 0 false m.words.toList = .ok listed) :
    let r := m.run budget
    Follows r.executed listed ∧ r.machine.status = .halted ∧
      ∃ stop : Nat,
        (¬Truncated listed ∧ stop = m.words.size ∨ Truncated listed ∧ stop = m.words.size + 1) ∧
        r.stop = .ok {
          reason := .halted
          address := some stop
          steps := (codeWords listed).length
          message := (Fault.outOfProgram stop m.words.size).text } := by
  obtain ⟨met, stop, swept, same, ends⟩ :=
    @sweep_of_listed _ listed m.words 0 List.drop_zero (Nat.zero_le _) read
  have beyond : m.words.size ≤ stop := by omega
  rw [← start] at swept
  rw [← same.length_eq] at enough ⊢
  have fails : ∀ n : Machine, n.status ≠ .halted → n.words = m.words → n.state.pc = stop →
      n.step = (.error (.outOfProgram stop m.words.size),
        n.halt (.outOfProgram stop m.words.size)) := by
    intro n unhalted words here
    have past : n.words.size ≤ n.state.pc := by rw [words, here]; exact beyond
    rw [step_past_end unhalted past, words, here]
  obtain ⟨executed, answer, halted, -, -⟩ :=
    run_sweep h running unpaused swept (straight.of_listedAs same) fails enough
  refine ⟨?_, halted, stop, ends, answer⟩
  rw [← executed] at same
  exact List.forall₂_map_left_iff.mp same

/-- Where words are refused, what is listed before is executed, and the machine halts there. -/
theorem run_refused {fault : Fault} {k : Nat}
    (refused : RefusedAt 0 m.words.toList fault k listed) :
    let r := m.run budget
    Follows r.executed listed ∧ r.stop = .error fault ∧ r.machine.status = .halted ∧
      r.machine.haltedBy = some fault ∧ r.machine.state.pc = k := by
  obtain ⟨⟨word, stored, unread⟩, before, complete, -⟩ := refused
  rw [Array.getElem?_toList] at stored
  have inside := (Array.getElem?_eq_some_iff.mp stored).1
  have binary := h.words _ (Array.mem_of_getElem? stored)
  obtain ⟨unused, rfl⟩ := (Word.decode_error binary).mp unread
  -- Up to the word that is refused, the machine runs as if the program ended there.
  obtain ⟨met, stop, swept, same, ends⟩ :=
    @sweep_of_listed _ listed (m.words.toList.take k).toArray 0 List.drop_zero (Nat.zero_le _)
      before
  obtain rfl : stop = k := by
    rw [List.size_toArray, List.length_take, Array.length_toList] at ends
    have whole := ends.resolve_right fun broken => complete broken.1
    omega
  have kept : ∀ (i : Nat) word, (m.words.toList.take stop).toArray[i]? = some word →
      m.words[i]? = some word := by
    intro i word here
    rw [List.getElem?_toArray, List.getElem?_take] at here
    rw [← Array.getElem?_toList]
    by_cases within : i < stop
    · rwa [if_pos within] at here
    · rw [if_neg within] at here
      cases here
  have swept := swept.mono kept
  rw [← start] at swept
  rw [← same.length_eq] at enough
  have fails : ∀ n : Machine, n.status ≠ .halted → n.words = m.words → n.state.pc = stop →
      n.step = (.error (Word.refused word), n.halt (Word.refused word)) := by
    intro n unhalted words here
    exact step_refused unhalted (by rw [words, here, stored]) binary unused
  obtain ⟨executed, answer, halted, cause, last⟩ :=
    run_sweep h running unpaused swept (straight.of_listedAs same) fails enough
  refine ⟨?_, answer, halted, cause, last⟩
  rw [← executed] at same
  exact List.forall₂_map_left_iff.mp same

end Runs

end Machine

def byteWords (bytes : List Int) : List String :=
  bytes.map fun byte => Word.ofByte (byte % 256).toNat

theorem encodeAll_data (bytes : List Int) :
    encodeAll (bytes.map .data) = .ok (byteWords bytes) := by
  induction bytes with
  | nil => rfl
  | cons byte bytes ih => exact encodeAll_cons (Entry.encode_data byte) ih

theorem disassemble_numbers {bytes : List Int} (small : ∀ byte ∈ bytes, 0 ≤ byte ∧ byte ≤ 255)
    (start : Int) :
    disassemble (bytes.map .number) start = listWordsFrom start false (byteWords bytes) := by
  have written : (bytes.map Datum.number).mapM Word.bits = .ok (byteWords bytes) := by
    induction bytes with
    | nil => rfl
    | cons byte bytes ih =>
      rw [List.forall_mem_cons] at small
      have first : Word.bits (.number byte) = .ok (Word.ofByte (byte % 256).toNat) := by
        rw [Word.bits, if_pos small.1, Int.emod_eq_of_lt (by omega) (by omega)]
      rw [List.map_cons, List.mapM_cons, first, ih small.2]
      rfl
  rw [disassemble, written]
  rfl

namespace Machine

/-- A program of bytes without jumps, in any machine without enabled breakpoints and with any input,
is executed as it is disassembled: each instruction once and in order, to the end of the program or
one behind it where the data word of the last `set` is missing. If a byte cannot be disassembled,
what is listed before it is executed, and then the machine halts there with the same fault. -/
theorem run_straight_line {bytes : List Int} (small : ∀ byte ∈ bytes, 0 ≤ byte ∧ byte ≤ 255)
    {start : Machine} (unpaused : ∀ slot, start.breakpoints.stopsAt slot = false)
    (input : List Text.CodePoint) :
    let loaded := (start.reset (bytes.map .data) input).1
    let m := (start.reset (bytes.map .data) input).2
    (loaded = .ok () ↔ ∃ encoded, start.codec.encode input = .ok encoded) ∧
    (start.codec = .utf8 → ∀ text, input = Text.codePoints text → loaded = .ok ()) ∧
    (loaded = .ok () →
      (∀ listed, disassemble (bytes.map .number) 0 = .ok listed → Straight listed →
        ∀ budget : Int, (codeWords listed).length < budget →
          let r := m.run budget
          Follows r.executed listed ∧ r.machine.status = .halted ∧
            ∃ stop : Nat,
              (¬Truncated listed ∧ stop = bytes.length ∨
                Truncated listed ∧ stop = bytes.length + 1) ∧
              r.stop = .ok {
                reason := .halted
                address := some stop
                steps := (codeWords listed).length
                message := (Fault.outOfProgram stop bytes.length).text }) ∧
      (∀ fault, disassemble (bytes.map .number) 0 = .error fault →
        ∃ k listed, k < bytes.length ∧
          disassemble ((bytes.take k).map .number) 0 = .ok listed ∧
          disassemble ((bytes.take (k + 1)).map .number) 0 = .error fault ∧
          (∃ word, m.words[k]? = some word ∧ fault = Word.refused word) ∧
          (Straight listed → ∀ budget : Int, (codeWords listed).length < budget →
            let r := m.run budget
            Follows r.executed listed ∧ r.stop = .error fault ∧ r.machine.status = .halted ∧
              r.machine.haltedBy = some fault ∧ r.machine.state.pc = k))) := by
  intro loaded m
  have encoded := encodeAll_data bytes
  refine ⟨?_, ?_, ?_⟩
  · refine reset_succeeds.trans ⟨?_, fun ⟨_, readable⟩ => ⟨_, _, encoded, readable⟩⟩
    rintro ⟨_, _, _, readable⟩
    exact ⟨_, readable⟩
  · rintro usual text rfl
    exact reset_succeeds.mpr ⟨_, _, encoded, usual ▸ Text.encode_codePoints text⟩
  intro fine
  obtain ⟨words, read, encoded', readable⟩ := reset_succeeds.mp fine
  cases encoded.symm.trans encoded'
  have left : m = _ := congrArg Prod.snd (reset_loaded encoded readable)
  have h : m.WellFormed := left ▸ wellFormed_loaded encoded readable
  have running : m.status ≠ .halted := by
    rw [left]
    exact Status.noConfusion
  have first : m.state.pc = 0 := by rw [left]
  have free : ∀ slot, m.breakpoints.stopsAt slot = false := by
    rw [left]
    exact unpaused
  have stored : m.words.toList = byteWords bytes := by rw [left]
  have size : m.words.size = bytes.length := by
    rw [← Array.length_toList, stored, byteWords, List.length_map]
  rw [disassemble_numbers small, ← stored]
  constructor
  · intro listed shown straight budget enough
    have result := run_listed h running free first straight enough shown
    rwa [size] at result
  · intro fault failed
    obtain ⟨k, listed, refused⟩ := exists_refusedAt failed
    obtain ⟨word, here, unread⟩ := refused.word
    have inside := (List.getElem?_eq_some_iff.mp here).1
    have part : ∀ n, disassemble ((bytes.take n).map .number) 0 =
        listWordsFrom 0 false (m.words.toList.take n) := by
      intro n
      rw [disassemble_numbers fun byte member => small byte (List.mem_of_mem_take member), stored,
        byteWords, byteWords, List.map_take]
    rw [Array.length_toList, size] at inside
    rw [Array.getElem?_toList] at here
    have binary := h.words _ (Array.mem_of_getElem? here)
    refine ⟨k, listed, inside, (part k).trans refused.before, (part (k + 1)).trans refused.fails,
      ⟨word, here, ((Word.decode_error binary).mp unread).2⟩, ?_⟩
    intro straight budget enough
    exact run_refused h running free first straight enough refused

/-- In the first program a data word that is no instruction is skipped, and the last `set` has none.
The second one starts alike and halts at a word that is no instruction, in front of a jump. -/
theorem run_straight_line_set :
    let front : List ListedWord :=
      [⟨0, "00000100", (Instruction.unary .inc 0).listed none, false⟩,
        ⟨1, "00101101", (Instruction.unary .set 1).listed (some "1"), false⟩,
        ⟨2, "00000001", "", true⟩]
    let whole := front ++ [⟨3, "00101100", (Instruction.unary .set 0).listed none, false⟩]
    (disassemble ([4, 45, 1, 44].map .number) 0 = .ok whole ∧ Straight whole ∧
      let r := (({} : Machine).reset ([4, 45, 1, 44].map .data) (Text.codePoints "A")).2.run 4
      Follows r.executed whole ∧
        r.stop = .ok {
          reason := .halted
          address := some 5
          steps := 3
          message := (Fault.outOfProgram 5 4).text }) ∧
    (disassemble ([4, 45, 1, 2, 16].map .number) 0 = .error (Word.refused "00000010") ∧
      disassemble ([4, 45, 1].map .number) 0 = .ok front ∧ Straight front ∧
      let r := (({} : Machine).reset ([4, 45, 1, 2, 16].map .data) (Text.codePoints "A")).2.run 3
      Follows r.executed front ∧ r.stop = .error (Word.refused "00000010") ∧
        r.machine.status = .halted ∧ r.machine.haltedBy = some (Word.refused "00000010") ∧
        r.machine.state.pc = 3) := by
  intro front whole
  have unpaused : ∀ slot, ({} : Machine).breakpoints.stopsAt slot = false := fun slot => rfl
  constructor
  · obtain ⟨-, fine, runs⟩ :=
      @run_straight_line [4, 45, 1, 44] (by decide) {} unpaused (Text.codePoints "A")
    obtain ⟨goes, -⟩ := runs (fine rfl "A" rfl)
    have shown : disassemble ([4, 45, 1, 44].map .number) 0 = .ok whole := by rfl
    have straight : Straight whole := by decide
    obtain ⟨executed, -, stop, ends, answer⟩ := goes _ shown straight 4 (by decide)
    have last : Word.decode (.text "00101100") = .ok (.unary .set 0) := by rfl
    have truncated : Truncated whole := ⟨_, rfl, rfl, 0, last⟩
    obtain rfl : stop = 5 := (ends.resolve_left fun complete => complete.1 truncated).2
    exact ⟨shown, straight, executed, answer⟩
  · obtain ⟨-, fine, runs⟩ :=
      @run_straight_line [4, 45, 1, 2, 16] (by decide) {} unpaused (Text.codePoints "A")
    obtain ⟨-, broken⟩ := runs (fine rfl "A" rfl)
    have failed : disassemble ([4, 45, 1, 2, 16].map .number) 0 =
      .error (Word.refused "00000010") := by rfl
    obtain ⟨k, listed, inside, shown, -, ⟨word, stored, same⟩, goes⟩ := broken _ failed
    cases same
    have place : ∀ k < 5, (({} : Machine).reset ([4, 45, 1, 2, 16].map .data)
        (Text.codePoints "A")).2.words[k]? = some "00000010" → k = 3 := by decide
    obtain rfl := place k inside stored
    have front_shown : disassemble ([4, 45, 1].map .number) 0 = .ok front := by rfl
    cases front_shown.symm.trans shown
    have straight : Straight front := by decide
    exact ⟨failed, front_shown, straight, goes straight 3 (by decide)⟩

end Machine

end DeskComputer
