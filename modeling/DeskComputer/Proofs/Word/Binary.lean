import DeskComputer.Proofs.Outcome
import DeskComputer.Proofs.Text.Positional
import DeskComputer.Word

/-!
# Binary words

A word that names a byte has eight binary digits. `Word.ofByte` writes such words, `Word.toByte`
reads them, and each undoes the other. `Word.bits` accepts no other text.
-/

namespace DeskComputer

namespace Word

/-- Eight binary digits. -/
def Binary (word : String) : Prop :=
  word.length = 8 ∧ ∀ c ∈ word.toList, c = '0' ∨ c = '1'

theorem bits_text_ok {s t : String} : bits (.text s) = .ok t ↔ s = t ∧ Binary s := by
  have digits : (s.toList.all fun c => c = '0' || c = '1') = true ↔
      ∀ c ∈ s.toList, c = '0' ∨ c = '1' := by
    simp
  unfold bits Binary
  dsimp only
  by_cases size : s.length = 8
  · rw [if_neg (by simpa using size)]
    by_cases binary : (s.toList.all fun c => c = '0' || c = '1') = true
    · rw [if_pos binary]
      simp only [Except.ok.injEq, iff_self_and]
      exact fun _ => ⟨size, digits.mp binary⟩
    · rw [if_neg binary]
      simp [size, ← digits, binary]
  · rw [if_pos size]
    simp [size]

theorem value_text_of_binary {s : String} (h : Binary s) : value (.text s) = .ok (toByte s) := by
  unfold value
  rw [bits_text_ok.mpr ⟨rfl, h⟩]
  rfl

theorem digitAt_eq (n place : Nat) : digitAt n place = '0' ∨ digitAt n place = '1' := by
  unfold digitAt
  split
  · exact .inr rfl
  · exact .inl rfl

theorem binary_ofByte (n : Nat) : Binary (ofByte n) := by
  refine ⟨by simp [ofByte], ?_⟩
  intro c hc
  rw [ofByte, String.toList_ofList, List.mem_map] at hc
  obtain ⟨place, -, rfl⟩ := hc
  exact digitAt_eq n place

theorem digitAt_value (n place : Nat) :
    (if digitAt n place = '1' then 1 else 0) = n / 2 ^ place % 2 := by
  unfold digitAt
  rw [Nat.testBit_eq_decide_div_mod_eq]
  have bit := Nat.mod_two_eq_zero_or_one (n / 2 ^ place)
  by_cases set : n / 2 ^ place % 2 = 1
  · simp [set]
  · have clear : n / 2 ^ place % 2 = 0 := by omega
    simp [clear]

theorem toByte_ofByte {n : Nat} (h : n < 256) : toByte (ofByte n) = n := by
  unfold toByte ofByte
  rw [String.toList_ofList]
  simp only [List.map_cons, List.map_nil, digitAt_value, Text.ofDigits, List.foldl_cons,
    List.foldl_nil]
  -- Each digit halves what is still to be read.
  have halve : ∀ place, n / 2 ^ (place + 1) * 2 + n / 2 ^ place % 2 = n / 2 ^ place := by
    intro place
    rw [Nat.pow_succ, ← Nat.div_div_eq_div_mul, Nat.mul_comm]
    exact Nat.div_add_mod _ 2
  have top : 0 * 2 + n / 2 ^ 7 % 2 = n / 2 ^ 7 := by omega
  rw [top, halve 6, halve 5, halve 4, halve 3, halve 2, halve 1, halve 0]
  exact Nat.div_one n

theorem bits_lt (digits : List Char) :
    ∀ d ∈ digits.map (fun c => if c = '1' then 1 else 0), d < 2 := by
  intro d hd
  obtain ⟨c, -, rfl⟩ := List.mem_map.mp hd
  split <;> omega

theorem toByte_lt {w : String} (h : Binary w) : toByte w < 256 := by
  unfold toByte
  have bound := Text.ofDigits_lt (bits_lt w.toList)
  have size : w.toList.length = 8 := h.1
  rw [List.length_map, size] at bound
  exact bound

/-- A binary word is the only one of its value. -/
theorem ofByte_toByte {w : String} (h : Binary w) : ofByte (toByte w) = w := by
  have same := toByte_ofByte (toByte_lt h)
  have written := binary_ofByte (toByte w)
  generalize ofByte (toByte w) = v at same written
  have digits := Text.ofDigits_injective
    (by rw [List.length_map, List.length_map]; exact written.1.trans h.1.symm)
    (bits_lt v.toList) (bits_lt w.toList) same
  -- The characters of a binary word are determined by its digits.
  have recovered : ∀ {u : String}, Binary u →
      (u.toList.map fun c => if c = '1' then 1 else 0).map (fun d => if d = 1 then '1' else '0') =
        u.toList := by
    intro u hu
    rw [List.map_map]
    refine (List.map_congr_left fun c hc => ?_).trans (List.map_id _)
    rcases hu.2 c hc with rfl | rfl <;> rfl
  apply String.toList_inj.mp
  rw [← recovered written, digits, recovered h]

theorem value_text_lt {s : String} {n : Nat} (h : value (.text s) = .ok n) : n < 256 := by
  obtain ⟨word, read, h⟩ := bind_ok.mp h
  obtain ⟨rfl, binary⟩ := bits_text_ok.mp read
  obtain rfl := pure_ok.mp h
  exact toByte_lt binary

/-! ### Words of bytes -/

/-- A datum is a word of a byte: its eight binary digits, or the byte as a number. -/
inductive Spells : Datum → Nat → Prop where
  | digits {s : String} : Binary s → Spells (.text s) (toByte s)
  | byte {n : Nat} : n ≤ 255 → Spells (.number n) n

theorem Spells.lt {d : Datum} {n : Nat} (h : Spells d n) : n < 256 := by
  cases h with
  | digits binary => exact toByte_lt binary
  | byte small => omega

theorem Spells.bits {d : Datum} {n : Nat} (h : Spells d n) : bits d = .ok (ofByte n) := by
  cases h with
  | digits binary => exact bits_text_ok.mpr ⟨(ofByte_toByte binary).symm, binary⟩
  | byte small => exact if_pos (by omega)

theorem Spells.value {d : Datum} {n : Nat} (h : Spells d n) : value d = .ok n := by
  unfold Word.value
  rw [h.bits]
  exact congrArg Except.ok (toByte_ofByte h.lt)

/-- Whatever is no word of a byte is refused. -/
theorem bits_cases (d : Datum) :
    (∃ n, Spells d n) ∨ ∃ reason, bits d = .error (.ofDatum d reason) := by
  cases d with
  | text s =>
    by_cases binary : Binary s
    · exact .inl ⟨_, .digits binary⟩
    · cases checked : bits (.text s) with
      | ok t => exact absurd (bits_text_ok.mp checked).2 binary
      | error fault =>
        unfold bits at checked
        dsimp only at checked
        split at checked
        · cases checked
          exact .inr ⟨_, rfl⟩
        · split at checked
          · cases checked
          · cases checked
            exact .inr ⟨_, rfl⟩
  | number n =>
    by_cases byte : 0 ≤ n ∧ n ≤ 255
    · have same : ((n.toNat : Nat) : Int) = n := Int.toNat_of_nonneg byte.1
      exact .inl ⟨n.toNat, same ▸ .byte (by omega)⟩
    · exact .inr ⟨_, if_neg byte⟩
  | null | truth _ | entry _ | list _ | record _ => exact .inr ⟨_, rfl⟩

theorem binary_bits {d : Datum} {w : String} (h : Word.bits d = .ok w) : Binary w := by
  rcases bits_cases d with ⟨n, spells⟩ | ⟨reason, refused⟩
  · rw [spells.bits] at h
    cases h
    exact binary_ofByte n
  · rw [refused] at h
    cases h

theorem binary_mapM_bits {data : List Datum} {words : List String}
    (h : data.mapM Word.bits = .ok words) : ∀ w ∈ words, Binary w := by
  induction data generalizing words with
  | nil =>
    cases h
    simp
  | cons d data ih =>
    rw [List.mapM_cons] at h
    obtain ⟨w, first, h⟩ := bind_ok.mp h
    obtain ⟨rest, remaining, h⟩ := bind_ok.mp h
    obtain rfl := pure_ok.mp h
    rw [List.forall_mem_cons]
    exact ⟨binary_bits first, ih remaining⟩

end Word

end DeskComputer
