import DeskComputer.Proofs.Source.Numerals
import DeskComputer.Proofs.Text.LetterCase

/-!
# Numbers in source text

A token is a number if it is a quoted character or, in lower case, a numeral with or without a sign.
`readNumber_numeral` says what becomes of each numeral, `readNumber_sound` what a token must look
like for each answer of the reader.
-/

namespace DeskComputer.Source

open Text

/-! ### Tokens -/

/-- A numeral with its sign, if it has one. -/
def signed (negative : Bool) (numeral : List Char) : List Char :=
  if negative then '-' :: numeral else numeral

def signedValue (negative : Bool) (n : Nat) : Int := if negative then -n else n

section Tokens

variable {numeral text before after : List Char} {n : Nat} {negative : Bool}

theorem readNumber_eq {token : List Char} (trimmed : trim token = text)
    (unquoted : readQuoted? text = none) (lowered : lower text = signed negative numeral)
    (unsigned : negative = false → numeral.head? ≠ some '-') :
    readNumber token =
      ((readUnsigned numeral).mapError Refusal.oversized >>= fun number? => number?.elim
        (if negative || numeral.head?.any isDigit then
          .error (.problem (.immediate (String.ofList text)))
        else .ok none)
        (fun n => .ok (some (signedValue negative n)))) := by
  have sign : (signed negative numeral).head? = some '-' ↔ negative = true := by
    cases negative
    · simpa [signed] using unsigned rfl
    · simp [signed]
  have body : (if negative = true then (signed negative numeral).tail
      else signed negative numeral) = numeral := by
    cases negative <;> rfl
  unfold readNumber
  rw [trimmed]
  dsimp only
  rw [unquoted, lowered]
  simp only [sign, body, Bool.decide_eq_true]
  cases readUnsigned numeral with
  | error numeral => rfl
  | ok number? => cases number? <;> rfl

theorem Numeral.forall_mem_signed {P : Char → Prop} (minus : P '-')
    (digits : ∀ d < 16, P d.digitChar) (letters : P 'x' ∧ P 'o' ∧ P 'h')
    (written : Numeral numeral n) : ∀ c ∈ signed negative numeral, P c := by
  have plain := written.forall_mem digits letters
  cases negative with
  | false => exact plain
  | true => exact List.forall_mem_cons.mpr ⟨minus, plain⟩

theorem readQuoted?_unquoted (unquoted : '\'' ∉ text) : readQuoted? text = none := by
  unfold readQuoted?
  split
  · exact absurd List.mem_cons_self unquoted
  · rfl

/-- What a token with blanks around it is if it spells a signed numeral in any letter case. -/
theorem trim_signed (written : Numeral numeral n)
    (cased : text.map Char.toLower = signed negative numeral)
    (blank : ∀ c ∈ before, isBlank c = true) (blank' : ∀ c ∈ after, isBlank c = true) :
    trim (before ++ (text ++ after)) = text ∧ readQuoted? text = none ∧ text ≠ [] ∧
      lower text = signed negative numeral ∧ (negative = false → numeral.head? ≠ some '-') := by
  have plain : ∀ c ∈ text, isBlank c = false ∧ c ≠ '\'' := by
    intro c member
    have each : ∀ c ∈ signed negative numeral, isBlank c = false ∧ c ≠ '\'' :=
      written.forall_mem_signed (by decide) (by decide) (by decide)
    obtain ⟨unblank, unquoted⟩ := each c.toLower (cased ▸ List.mem_map_of_mem member)
    exact ⟨(congrFun isBlank_toLower c).symm.trans unblank,
      mt (toLower_eq_iff (by decide) c).mpr unquoted⟩
  have filled : text ≠ [] := by
    rintro rfl
    cases negative
    · exact written.ne_nil cased.symm
    · cases cased
  refine ⟨?_, ?_, filled, ?_, ?_⟩
  · rw [trim_padded blank blank', trim_of_plain fun c member => (plain c member).1]
  · exact readQuoted?_unquoted fun member => (plain '\'' member).2 rfl
  · have kept : ∀ c ∈ signed negative numeral, c.toNat < 0x80 ∧ lowerChar c = c :=
      written.forall_mem_signed (by decide) (by decide) (by decide)
    rw [← lower_toLower, cased, lower_of_ascii fun c member => (kept c member).1]
    exact (List.map_congr_left fun c member => (kept c member).2).trans (List.map_id _)
  · rintro - first
    have digits : ∀ c ∈ numeral, c ≠ '-' := written.forall_mem (by decide) (by decide)
    exact digits '-' (List.mem_of_head? first) rfl

theorem readNumber_trim (token : List Char) : readNumber (trim token) = readNumber token := by
  unfold readNumber
  rw [trim_trim]

theorem readImmediate_eq {token : List Char} (filled : trim token ≠ []) :
    readImmediate token = (readNumber token >>= fun number? => .ok <|
      number?.elim (.ref (String.ofList (lower (trim token)))) fun v => .data (v % 256)) := by
  have some : ¬(trim token).isEmpty = true := by rwa [List.isEmpty_iff]
  unfold readImmediate
  dsimp only
  rw [if_neg some, readNumber_trim]
  cases readNumber token with
  | error e => rfl
  | ok number? => cases number? <;> rfl

/-- Every numeral is read as its number, with or without a sign, in any letter case and with any
blanks around it, but for two kinds that are refused: decimal ones with too many digits, and those
with `h` at their end that start with `0b`. -/
theorem readNumber_numeral (written : Numeral numeral n)
    (cased : text.map Char.toLower = signed negative numeral)
    (blank : ∀ c ∈ before, isBlank c = true) (blank' : ∀ c ∈ after, isBlank c = true) :
    let token := before ++ (text ++ after)
    (¬Shadowed numeral → ¬TooLong numeral →
      readNumber token = .ok (some (signedValue negative n)) ∧
        readImmediate token = .ok (.data (signedValue negative n % 256))) ∧
    (Shadowed numeral →
      readNumber token = .error (.problem (.immediate (String.ofList text))) ∧
        readImmediate token = .error (.problem (.immediate (String.ofList text)))) ∧
    (TooLong numeral →
      readNumber token = .error (.oversized ⟨numeral.length⟩) ∧
        readImmediate token = .error (.oversized ⟨numeral.length⟩)) := by
  intro token
  obtain ⟨trimmed, unquoted, filled, lowered, unsigned⟩ := trim_signed written cased blank blank'
  have number := readNumber_eq trimmed unquoted lowered unsigned
  have immediate := readImmediate_eq (trimmed.symm ▸ filled : trim token ≠ [])
  refine ⟨fun plain short => ?_, fun shadowed => ?_, fun long => ?_⟩
  · rw [readUnsigned_numeral written plain short] at number
    rw [number] at immediate
    exact ⟨number, immediate⟩
  · have digit : numeral.head?.any isDigit = true := by
      obtain ⟨⟨rest, rfl⟩, -⟩ := shadowed
      show isDigit '0' = true
      decide
    rw [readUnsigned_shadowed shadowed, digit, Bool.or_true] at number
    rw [number] at immediate
    exact ⟨number, immediate⟩
  · rw [readUnsigned_tooLong written long] at number
    rw [number] at immediate
    exact ⟨number, immediate⟩

/-- A hexadecimal number with blanks, leading zeros, a sign and letters of both cases. -/
theorem readNumber_numeral_cased :
    Numeral ['0', '0', 'f', 'f', 'h'] 255 ∧
    readNumber "\t-00FfH ".toList = .ok (some (-255)) ∧
    readImmediate "\t-00FfH ".toList = .ok (.data 1) := by
  have digits : Digits 16 ['0', '0', 'f', 'f'] 255 :=
    digits_of_readNumeral? (by simp) (by rfl)
  have written : Numeral ['0', '0', 'f', 'f', 'h'] 255 := .trailing (by decide) digits
  have blank : ∀ c ∈ ['\t'], isBlank c = true := List.forall_mem_singleton.mpr (by decide)
  have blank' : ∀ c ∈ [' '], isBlank c = true := List.forall_mem_singleton.mpr (by decide)
  have plain : ¬Shadowed ['0', '0', 'f', 'f', 'h'] := by
    rintro ⟨⟨rest, same⟩, -⟩
    cases same
  have short : ¬TooLong ['0', '0', 'f', 'f', 'h'] := fun long => long.2.1 rfl
  have cased : ['-', '0', '0', 'F', 'f', 'H'].map Char.toLower =
      signed true ['0', '0', 'f', 'f', 'h'] := by decide
  exact ⟨written, (readNumber_numeral written cased blank blank').1 plain short⟩

/-- The numeral of 177 is refused, since it starts like a binary one. -/
theorem readNumber_numeral_shadowed :
    Numeral ['0', 'b', '1', 'h'] 177 ∧
    readNumber ['0', 'b', '1', 'h'] = .error (.problem (.immediate "0b1h")) ∧
    readImmediate ['0', 'b', '1', 'h'] = .error (.problem (.immediate "0b1h")) := by
  have digits : Digits 16 ['0', 'b', '1'] 177 := digits_of_readNumeral? (by simp) (by rfl)
  exact ⟨.trailing (by decide) digits, by rfl, by rfl⟩

end Tokens

/-! ### Tokens that are numbers -/

/-- Whether a token starts like a number: with a minus sign, or a digit of any script. -/
def LooksNumeric (token : List Char) : Prop :=
  token.head? = some '-' ∨ token.head?.any isDigit = true

theorem looksNumeric_iff {s body : List Char} {negative : Bool}
    (lowered : lower s = signed negative body)
    (unsigned : negative = false → body.head? ≠ some '-') :
    LooksNumeric s ↔ (negative || body.head?.any isDigit) = true := by
  have minus := head?_lower_minus s
  have digit := head?_lower_isDigit s
  rw [lowered] at minus digit
  unfold LooksNumeric
  cases negative with
  | false =>
    have plain : s.head? ≠ some '-' := fun first => unsigned rfl (minus.mpr first)
    rw [Bool.false_or, ← digit]
    exact or_iff_right plain
  | true => exact iff_of_true (.inl (minus.mp rfl)) rfl

/-- What a trimmed token can be read as. -/
inductive Reading (s : List Char) : Except Refusal (Option Int) → Prop where
  | quoted {c : Char} : s = ['\'', c, '\''] → Reading s (.ok (some c.toNat))
  | number {negative : Bool} {numeral : List Char} {n : Nat} :
      Numeral numeral n → lower s = signed negative numeral →
      Reading s (.ok (some (signedValue negative n)))
  | name : (∀ c, s ≠ ['\'', c, '\'']) → ¬LooksNumeric s → (∀ n, ¬Numeral (lower s) n) →
      Reading s (.ok none)
  | malformed : LooksNumeric s → Reading s (.error (.problem (.immediate (String.ofList s))))
  | tooLong {negative : Bool} {numeral : List Char} :
      (∃ n, Numeral numeral n) → TooLong numeral → lower s = signed negative numeral →
      Reading s (.error (.oversized ⟨numeral.length⟩))

theorem readNumber_reading (token : List Char) : Reading (trim token) (readNumber token) := by
  cases quoted : readQuoted? (trim token) with
  | some c =>
    have same : trim token = ['\'', c, '\''] := by
      unfold readQuoted? at quoted
      split at quoted
      · cases quoted
        assumption
      · cases quoted
    have number : readNumber token = .ok (some c.toNat) := by
      unfold readNumber
      dsimp only
      rw [quoted]
    exact number ▸ .quoted same
  | none =>
    obtain ⟨negative, body, lowered, unsigned⟩ : ∃ negative body,
        lower (trim token) = signed negative body ∧
          (negative = false → body.head? ≠ some '-') := by
      by_cases minus : (lower (trim token)).head? = some '-'
      · obtain ⟨body, same⟩ := List.head?_eq_some_iff.mp minus
        exact ⟨true, body, same, fun none => nomatch none⟩
      · exact ⟨false, _, rfl, fun _ => minus⟩
    have low : ∀ c ∈ body, c.toLower = c := by
      intro c member
      have within : c ∈ signed negative body := by
        cases negative
        · exact member
        · exact List.mem_cons_of_mem _ member
      exact toLower_of_mem_lower (lowered ▸ within)
    rw [readNumber_eq rfl quoted lowered unsigned]
    cases read : readUnsigned body with
    | error o =>
      obtain ⟨written, long, rfl⟩ := tooLong_of_readUnsigned low read
      exact .tooLong written long lowered
    | ok number? =>
      cases number? with
      | some n => exact .number (numeral_of_readUnsigned low read) lowered
      | none =>
        have looks := looksNumeric_iff lowered unsigned
        show Reading _ (if (negative || body.head?.any isDigit) = true then _ else _)
        split
        · rename_i numeric
          exact .malformed (looks.mpr numeric)
        · rename_i named
          refine .name ?_ (mt looks.mp named) ?_
          · intro c same
            rw [same] at quoted
            cases quoted
          · intro n written
            obtain rfl : negative = false := by
              cases negative
              · rfl
              · exact absurd rfl named
            rw [lowered] at written
            obtain ⟨⟨rest, rfl⟩, -⟩ := shadowed_of_readUnsigned written read
            exact named (show isDigit '0' = true by decide)

/-- A token is never misread. What comes to a number is a quoted character, or its lower case is a
numeral of that value with or without a sign; what is refused starts like a number, or is a numeral
that is too long to convert; and what is left as a name, for a label, is none of these. -/
theorem readNumber_sound (token : List Char) :
    (∀ v, readNumber token = .ok (some v) →
      (∃ c : Char, trim token = ['\'', c, '\''] ∧ v = c.toNat) ∨
      ∃ negative numeral n, Numeral numeral n ∧
        lower (trim token) = signed negative numeral ∧ v = signedValue negative n) ∧
    (∀ p, readNumber token = .error (.problem p) →
      p = .immediate (String.ofList (trim token)) ∧ LooksNumeric (trim token)) ∧
    (∀ o, readNumber token = .error (.oversized o) →
      ∃ negative numeral, (∃ n, Numeral numeral n) ∧ TooLong numeral ∧
        lower (trim token) = signed negative numeral ∧ o = ⟨numeral.length⟩) ∧
    (readNumber token = .ok none → ¬LooksNumeric (trim token)) ∧
    (∀ v, readNumber token = .ok (some v) → readImmediate token = .ok (.data (v % 256))) ∧
    ∀ e, readImmediate token = .ok e →
      (∃ v, readNumber token = .ok (some v) ∧ e = .data (v % 256)) ∨
      e = .ref (String.ofList (lower (trim token))) ∧ trim token ≠ [] ∧
        ¬LooksNumeric (trim token) ∧ (∀ c, trim token ≠ ['\'', c, '\'']) ∧
        ∀ n, ¬Numeral (lower (trim token)) n := by
  have reading := readNumber_reading token
  refine ⟨?_, ?_, ?_, ?_, ?_, ?_⟩
  · intro v read
    rw [read] at reading
    cases reading with
    | quoted same => exact .inl ⟨_, same, rfl⟩
    | number written lowered => exact .inr ⟨_, _, _, written, lowered, rfl⟩
  · intro p read
    rw [read] at reading
    cases reading with
    | malformed numeric => exact ⟨rfl, numeric⟩
  · intro o read
    rw [read] at reading
    cases reading with
    | tooLong written long lowered => exact ⟨_, _, written, long, lowered, rfl⟩
  · intro read
    rw [read] at reading
    cases reading with
    | name _ plain _ => exact plain
  · intro v read
    have filled : trim token ≠ [] := by
      intro none
      rw [read, none] at reading
      cases reading with
      | quoted same => cases same
      | @number negative numeral n written lowered =>
        cases negative
        · exact written.ne_nil lowered.symm
        · cases lowered
    rw [readImmediate_eq filled, read]
    rfl
  · intro e read
    have filled : trim token ≠ [] := by
      intro none
      unfold readImmediate at read
      rw [none] at read
      cases read
    rw [readImmediate_eq filled, bind_ok] at read
    obtain ⟨number?, number, same⟩ := read
    rw [number] at reading
    cases number? with
    | some v => exact .inl ⟨v, number, (Except.ok.inj same).symm⟩
    | none =>
      cases reading with
      | name unquoted plain free =>
        exact .inr ⟨(Except.ok.inj same).symm, filled, plain, unquoted, free⟩

end DeskComputer.Source
