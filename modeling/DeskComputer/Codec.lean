import DeskComputer.Fault

/-!
# Codecs

How text becomes bytes, and bytes text. A codec may refuse a text, for code points that it lacks or
for reasons of its own, but the bytes that it makes are bytes. Which codecs there are is not
settled here: a machine works with any, and `Codecs` is what is known by a name.
-/

namespace DeskComputer

open Text (CodePoint Encoding)

structure Codec where
  encode : List CodePoint → Except Fault (List Nat)
  /-- The text of bytes, with a replacement for what stands for none. -/
  decode : List Nat → Except Fault String
  encode_lt : ∀ {text bytes}, encode text = .ok bytes → ∀ b ∈ bytes, b < 256

/-- The codecs by their names. -/
abbrev Codecs := String → Except Fault Codec

namespace Text

theorem utf8Bytes_lt {n : Nat} (valid : n < 0x110000) : ∀ b ∈ utf8Bytes n, b < 256 := by
  intro b hb
  unfold utf8Bytes at hb
  split at hb
  · simp only [List.mem_singleton] at hb
    omega
  split at hb
  · simp only [List.mem_cons, List.not_mem_nil, or_false] at hb
    omega
  split at hb
  · simp only [List.mem_cons, List.not_mem_nil, or_false] at hb
    omega
  · simp only [List.mem_cons, List.not_mem_nil, or_false] at hb
    omega

namespace Encoding

theorem bytesOf_lt {e : Encoding} {p : CodePoint} (known : e.has p = true) :
    ∀ b ∈ e.bytesOf p, b < 256 := by
  cases e with
  | utf8 => exact utf8Bytes_lt p.valid
  | latin1 | ascii =>
    intro b hb
    have small := of_decide_eq_true known
    have same := List.mem_singleton.mp hb
    omega

/-- A text is refused unless the encoding has all of it. -/
theorem encode?_ok {e : Encoding} {text : List CodePoint} {bytes : List Nat}
    (h : e.encode? text = .ok bytes) :
    bytes = text.flatMap e.bytesOf ∧ ∀ p ∈ text, e.has p = true := by
  unfold encode? at h
  split at h
  · rename_i whole
    refine ⟨(Except.ok.inj h).symm, fun p hp => ?_⟩
    have known : (text.takeWhile e.has).all e.has = true := List.all_takeWhile
    rw [← List.takeWhile_append_dropWhile (p := e.has) (l := text), whole, List.append_nil] at hp
    exact List.all_eq_true.mp known p hp
  · cases h

theorem encode?_lt {e : Encoding} {text : List CodePoint} {bytes : List Nat}
    (h : e.encode? text = .ok bytes) : ∀ b ∈ bytes, b < 256 := by
  obtain ⟨rfl, known⟩ := encode?_ok h
  intro b hb
  obtain ⟨p, hp, inside⟩ := List.mem_flatMap.mp hb
  exact bytesOf_lt (known p hp) b inside

end Encoding

end Text

namespace Codec

variable {e : Encoding}

theorem ofEncoding_lt {text : List CodePoint} {bytes : List Nat}
    (h : (e.encode? text).mapError Fault.unencodable = .ok bytes) : ∀ b ∈ bytes, b < 256 := by
  cases encoded : e.encode? text with
  | error u =>
    rw [encoded] at h
    cases h
  | ok found =>
    rw [encoded] at h
    cases h
    exact Text.Encoding.encode?_lt encoded

def ofEncoding (e : Encoding) : Codec where
  encode text := (e.encode? text).mapError .unencodable
  decode bytes := .ok (String.ofList (e.decodeLossy bytes))
  encode_lt := ofEncoding_lt

def utf8 : Codec := ofEncoding .utf8

def latin1 : Codec := ofEncoding .latin1

def ascii : Codec := ofEncoding .ascii

end Codec

end DeskComputer
