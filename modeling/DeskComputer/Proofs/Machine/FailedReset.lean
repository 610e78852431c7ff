import DeskComputer.Proofs.Machine.History
import DeskComputer.Proofs.Machine.Reset
import DeskComputer.Proofs.Machine.Step
import DeskComputer.Proofs.Word.Bijection

/-!
# Resets that fail

A reset that is refused for the program leaves the machine as it was. One that is refused for the
input has by then replaced the program, under a state that is still the old one. Main statement:
`after_reset_refused`.
-/

namespace DeskComputer.Machine

variable {codec : Codec} {m : Machine}

/-! ### The loaded program -/

/-- The machine has a codec, and its words are those of its program. -/
structure Loaded (codec : Codec) (m : Machine) : Prop where
  codec : m.codec = codec
  words : encodeAll m.program = .ok m.words.toList

theorem reset_loads (h : m.Loaded codec) (program : List Entry) (input : List Text.CodePoint) :
    (m.reset program input).2.Loaded codec := by
  rcases m.reset_cases program input with ⟨fault, -, same⟩ | ⟨words, fault, encoded, -, same⟩ |
    ⟨words, bytes, encoded, -, same⟩
  · rw [same]
    exact h
  · rw [same]
    exact ⟨h.codec, encoded⟩
  · rw [same]
    exact ⟨h.codec, encoded⟩

theorem step_loads (h : m.Loaded codec) : m.step.2.Loaded codec := by
  obtain ⟨state, status, haltedBy, stepCount, same⟩ := m.step_frame
  rw [same]
  exact ⟨h.codec, h.words⟩

/-- Only a reset touches the program, and it encodes what it loads. -/
theorem perform_loads (h : m.Loaded codec) (operation : Operation) :
    (m.perform operation).Loaded codec := by
  cases operation with
  | reset program input => exact reset_loads h program input
  | step => exact step_loads h
  | run budget =>
    exact run_keeps (fun m h => step_loads h) (fun m _ h => ⟨h.codec, h.words⟩) budget h
  | setRegister index value =>
    obtain ⟨registers, left⟩ := m.perform_setRegister index value
    rw [left]
    exact ⟨h.codec, h.words⟩
  | writeByte address value => exact ⟨h.codec, h.words⟩
  | setFlags flags => exact ⟨h.codec, h.words⟩
  | breakpoint operation => exact ⟨h.codec, h.words⟩

theorem after_loaded (codec : Codec) (history : List Operation) :
    (after codec history).Loaded codec :=
  after_keeps (P := Loaded codec) ⟨rfl, rfl⟩ (fun _ operation h => perform_loads h operation)
    history

/-! ### Refusals -/

/-- A reset that fails after any history changes nothing but the program and its words, and these
only if the program was fine and not the one in place: then the input was refused too late. -/
theorem after_reset_refused (codec : Codec) (history : List Operation)
    (program : List Entry) (input : List Text.CodePoint) :
    let m := after codec history
    let outcome := (m.reset program input).1
    let left := (m.reset program input).2
    (outcome ≠ .ok () ↔
      (¬∀ e ∈ program, e.Encodable) ∨ ∃ fault, codec.encode input = .error fault) ∧
    (∀ fault, outcome = .error fault →
      (∃ e ∈ program, ¬e.Encodable ∧
        ((Datum.entry e).Short → ∃ reason, fault = .encoding (.entry e) reason) ∧
        (¬(Datum.entry e).Short → fault = .unwritable)) ∨
      (∀ e ∈ program, e.Encodable) ∧ codec.encode input = .error fault) ∧
    (outcome ≠ .ok () →
      { left with program := m.program, words := m.words } = m ∧
      (left = m ↔ (¬∀ e ∈ program, e.Encodable) ∨ program = m.program)) := by
  intro m
  have h : m.Loaded codec := after_loaded codec history
  clear_value m
  dsimp only
  rcases m.reset_cases program input with ⟨fault, refused, same⟩ |
    ⟨words, fault, encoded, unreadable, same⟩ | ⟨words, bytes, encoded, readable, same⟩
  · obtain ⟨e, member, reason, bad, rfl⟩ := encodeAll_error refused
    have unfit : ¬∀ e ∈ program, e.Encodable := fun all => bad (all e member)
    rw [same]
    refine ⟨by simp [unfit], ?_, by simp [unfit]⟩
    intro fault failed
    obtain rfl := Except.error.inj failed
    exact .inl ⟨e, member, bad, fun short => ⟨reason, Fault.ofDatum_short short⟩,
      fun long => Fault.ofDatum_long long⟩
  · rw [h.codec] at unreadable
    have fine : ∀ e ∈ program, e.Encodable := encodeAll_ok.mp ⟨words, encoded⟩
    rw [same]
    refine ⟨by simp [unreadable], ?_, ?_⟩
    · intro fault failed
      obtain rfl := Except.error.inj failed
      exact .inr ⟨fine, unreadable⟩
    · intro _
      refine ⟨rfl, ?_⟩
      constructor
      · intro unchanged
        exact .inr (congrArg Machine.program unchanged)
      · rintro (unfit | rfl)
        · exact absurd fine unfit
        · cases encoded.symm.trans h.words
          rfl
  · rw [h.codec] at readable
    have fine : ∀ e ∈ program, e.Encodable := encodeAll_ok.mp ⟨words, encoded⟩
    rw [same]
    simpa [readable] using fine

/-- The input of a second reset cannot be encoded: the machine keeps the state that it reached in
the first program and is left in front of another one. -/
theorem reset_unreadable_midway :
    let m := after .ascii [.reset [.code (.unary .inc 0), .code (.unary .inc 0)] [], .step]
    let outcome := m.reset [.code (.unary .dec 1)] (Text.codePoints "é")
    let left := outcome.2
    outcome.1 = .error (.unencodable
        { codec := "ascii", first := .ofChar 'é', start := 0, length := 1,
          why := "ordinal not in range(128)" }) ∧
      left.state = m.state ∧ left.status = .stepping ∧ left.stepCount = 1 ∧
      m.program = [.code (.unary .inc 0), .code (.unary .inc 0)] ∧
      left.program = [.code (.unary .dec 1)] ∧
      m.words = #["00000100", "00000100"] ∧ left.words = #["00001001"] :=
  ⟨rfl, rfl, rfl, rfl, rfl, rfl, rfl, rfl⟩

end DeskComputer.Machine
