import DeskComputer.Machine.Basic
import DeskComputer.Proofs.Word.Codec

/-!
# Resets

A reset succeeds if the program and the input can be encoded, and then it leaves nothing of the
machine but its codec and its breakpoints. `reset_cases` is everything that a reset can do.
-/

namespace DeskComputer.Machine

variable {m : Machine} {program : List Entry} {input : List Text.CodePoint}

theorem reset_loaded {words : List String} {bytes : List Nat}
    (encoded : encodeAll program = .ok words) (readable : m.codec.encode input = .ok bytes) :
    m.reset program input =
      (.ok (), {
        codec := m.codec
        state := { input := bytes.toArray }
        breakpoints := { m.breakpoints with lastEvent := none }
        program
        words := words.toArray
        status := .loaded }) := by
  unfold reset
  rw [encoded]
  dsimp only
  rw [readable]

theorem reset_unencoded {fault : Fault} (refused : encodeAll program = .error fault) :
    m.reset program input = (.error fault, m) := by
  unfold reset
  rw [refused]

/-- A reset that is refused for its input has replaced the program. -/
theorem reset_unreadable {words : List String} {fault : Fault}
    (encoded : encodeAll program = .ok words) (unreadable : m.codec.encode input = .error fault) :
    m.reset program input = (.error fault, { m with program, words := words.toArray }) := by
  unfold reset
  rw [encoded]
  dsimp only
  rw [unreadable]

/-- Everything that a reset can do. -/
theorem reset_cases (m : Machine) (program : List Entry) (input : List Text.CodePoint) :
    (∃ fault, encodeAll program = .error fault ∧ m.reset program input = (.error fault, m)) ∨
    (∃ words fault, encodeAll program = .ok words ∧ m.codec.encode input = .error fault ∧
      m.reset program input = (.error fault, { m with program, words := words.toArray })) ∨
    (∃ words bytes, encodeAll program = .ok words ∧ m.codec.encode input = .ok bytes ∧
      m.reset program input =
        (.ok (), {
          codec := m.codec
          state := { input := bytes.toArray }
          breakpoints := { m.breakpoints with lastEvent := none }
          program
          words := words.toArray
          status := .loaded })) := by
  cases encoded : encodeAll program with
  | error fault => exact .inl ⟨fault, rfl, reset_unencoded encoded⟩
  | ok words =>
    cases readable : m.codec.encode input with
    | error fault => exact .inr (.inl ⟨words, fault, rfl, rfl, reset_unreadable encoded readable⟩)
    | ok bytes => exact .inr (.inr ⟨words, bytes, rfl, rfl, reset_loaded encoded readable⟩)

theorem reset_succeeds :
    (m.reset program input).1 = .ok () ↔
      ∃ words bytes, encodeAll program = .ok words ∧ m.codec.encode input = .ok bytes := by
  rcases m.reset_cases program input with ⟨fault, refused, same⟩ |
    ⟨words, fault, encoded, unreadable, same⟩ | ⟨words, bytes, encoded, readable, same⟩
  · simp [same, refused]
  · simp [same, encoded, unreadable]
  · simp [same, encoded, readable]

end DeskComputer.Machine
