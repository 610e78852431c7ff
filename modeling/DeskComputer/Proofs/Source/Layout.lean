import DeskComputer.Proofs.Source.Splitting
import DeskComputer.Source.Statement

/-!
# Layout of statements

Blanks may stand at both ends of a line, behind the mnemonic and around each operand, and commas may
stand between no operands at all. `parseStatement_laidOut`: a line with a mnemonic and tokens is
read as that operation applied to those tokens, however it is laid out.
-/

namespace DeskComputer.Source

open Text

/-! ### Plain tokens -/

/-- Whether a character cuts nothing: it is no blank, comma or quote, and none of the characters
that make a line a comment or a label. -/
def isPlain (c : Char) : Bool := !(isBlank c || [',', '\'', ':', ';'].contains c)

/-- Tokens that are read whole wherever they stand. -/
def Plain (token : List Char) : Prop := (!token.isEmpty && token.all isPlain) = true

instance (token : List Char) : Decidable (Plain token) := inferInstanceAs (Decidable (_ = true))

theorem plain_iff {token : List Char} :
    Plain token ↔ token ≠ [] ∧ ∀ c ∈ token, isPlain c = true := by
  simp [Plain]

theorem isPlain_iff {c : Char} :
    isPlain c = true ↔ isBlank c = false ∧ c ≠ ',' ∧ c ≠ '\'' ∧ c ≠ ':' ∧ c ≠ ';' := by
  simp [isPlain]

namespace Plain

variable {token : List Char}

theorem ne_nil (h : Plain token) : token ≠ [] := (plain_iff.mp h).1

theorem forall_mem (h : Plain token) : ∀ c ∈ token, isPlain c = true := (plain_iff.mp h).2

theorem unblank (h : Plain token) : ∀ c ∈ token, isBlank c = false :=
  fun c hc => (isPlain_iff.mp (h.forall_mem c hc)).1

theorem uncut (h : Plain token) : Uncut token := by
  refine .of_forall fun c hc => ?_
  obtain ⟨-, comma, quote, -⟩ := isPlain_iff.mp (h.forall_mem c hc)
  exact ⟨comma, quote⟩

theorem trim (h : Plain token) : trim token = token := trim_of_plain h.unblank

theorem getLast? (h : Plain token) : ∃ c, token.getLast? = some c ∧ isPlain c = true :=
  ⟨_, List.getLast?_eq_some_getLast h.ne_nil, h.forall_mem _ (List.getLast_mem h.ne_nil)⟩

theorem whole (h : Plain token) : Whole token := ⟨h.ne_nil, h.trim, h.uncut⟩

theorem unlabelled (h : Plain token) : token.getLast? ≠ some ':' := by
  intro last
  exact (isPlain_iff.mp (h.forall_mem ':' (List.mem_of_getLast? last))).2.2.2.1 rfl

end Plain

/-! ### Laid out lines -/

/-- Lines with a word and, behind blanks, fields that hold tokens. -/
inductive LaidOut (word : List Char) (tokens : List (List Char)) : List Char → Prop where
  | line {before gap after : List Char} {fields : List (List Char)} :
      (∀ c ∈ before, isBlank c = true) → (∀ c ∈ gap, isBlank c = true) →
      (∀ c ∈ after, isBlank c = true) → (gap = [] → fields = []) → Fields fields tokens →
      LaidOut word tokens (before ++ (word ++ (gap ++ ([','].intercalate fields ++ after))))

section LaidOut

variable {word : List Char} {tokens fields : List (List Char)}

/-- Joined fields end in a comma or like one of their tokens. -/
theorem Fields.getLast?_trimEnd {P : Char → Prop} (comma : P ',')
    (written : Fields fields tokens) (ends : ∀ t ∈ tokens, ∀ c ∈ (trimEnd t).getLast?, P c) :
    ∀ c ∈ (trimEnd ([','].intercalate fields)).getLast?, P c := by
  apply getLast?_trimEnd_intercalate comma
  induction written with
  | nil =>
    intro f none
    cases none
  | blank blank _ ih =>
    rw [List.forall_mem_cons]
    exact ⟨getLast?_trimEnd_blank blank, ih ends⟩
  | @token before token after fields tokens blank blank' _ ih =>
    rw [List.forall_mem_cons] at ends ⊢
    have padded := getLast?_trimEnd_append ends.1 (getLast?_trimEnd_blank blank')
    exact ⟨getLast?_trimEnd_append (getLast?_trimEnd_blank blank) padded, ih ends.2⟩

theorem parseStatement_word {op : Opcode} {rest : List Char} (named : Plain word)
    (known : Opcode.ofMnemonic? (String.ofList (lower word)) = some op)
    (starts : ∀ c ∈ rest.head?, isBlank c = true)
    (unlabelled : (word ++ rest).getLast? ≠ some ':') :
    parseStatement (word ++ rest) = readStatement op (splitOperands (trimStart rest)) := by
  have filled : (word ++ rest).isEmpty = false := by simp [named.ne_nil]
  have code : (word ++ rest).head? ≠ some ';' := by
    rw [List.head?_append, List.head?_eq_some_head named.ne_nil, Option.some_or]
    intro comment
    have first := named.forall_mem _ (List.head_mem named.ne_nil)
    exact (isPlain_iff.mp first).2.2.2.2 (Option.some.inj comment)
  have statement : ¬((false || decide ((word ++ rest).head? = some ';')) = true) := by
    simpa using code
  rw [parseStatement, filled, if_neg statement, if_neg unlabelled]
  dsimp only
  rw [firstWord_append named.unblank starts, afterWord_append named.unblank starts, known]

/-- A laid out line is read as the operation that its word names, applied to its tokens. -/
theorem parseStatement_laidOut {op : Opcode} {line : List Char} (named : Plain word)
    (known : Opcode.ofMnemonic? (String.ofList (lower word)) = some op)
    (laid : LaidOut word tokens line) (whole : ∀ t ∈ tokens, Whole t)
    (unlabelled : ∀ t ∈ tokens, t.getLast? ≠ some ':') :
    parseStatement (trim line) = readStatement op tokens := by
  obtain @⟨before, gap, after, fields, blank, blankGap, blankAfter, separated, written⟩ := laid
  let rest := gap ++ ([','].intercalate fields ++ after)
  have starts : ∀ c ∈ (trimEnd rest).head?, isBlank c = true := by
    intro c first
    have front := (List.singleton_prefix_iff_head?_eq_some.mpr first).trans (trimEnd_initial _)
    have here := List.singleton_prefix_iff_head?_eq_some.mp front
    cases gap with
    | nil =>
      have same : rest = after := by
        show [','].intercalate fields ++ after = after
        rw [separated rfl]
        rfl
      rw [same] at here
      exact blankAfter c (List.mem_of_head? here)
    | cons d gap =>
      cases here
      exact blankGap _ List.mem_cons_self
  have ends : ∀ c ∈ (trimEnd (word ++ rest)).getLast?, c ≠ ':' := by
    have own : ∀ c ∈ (trimEnd word).getLast?, c ≠ ':' := by
      rintro c last rfl
      rw [trimEnd_of_trim named.trim] at last
      exact named.unlabelled last
    have joined := written.getLast?_trimEnd (P := (· ≠ ':')) (by decide) (by
      rintro t member c last rfl
      rw [trimEnd_of_trim (whole t member).trimmed] at last
      exact unlabelled t member last)
    have padded := getLast?_trimEnd_append joined (getLast?_trimEnd_blank blankAfter)
    exact getLast?_trimEnd_append own
      (getLast?_trimEnd_append (getLast?_trimEnd_blank blankGap) padded)
  have trimmed : trim (before ++ (word ++ rest)) = word ++ trimEnd rest :=
    trim_append blank named.ne_nil named.unblank rest
  rw [trimEnd_append_of_trimmed (trimEnd_of_trim named.trim)] at ends
  rw [trimmed, parseStatement_word named known starts fun last => ends _ last rfl,
    splitOperands_trimStart, splitOperands_trimEnd, splitOperands_padded blankGap blankAfter,
    splitOperands_fields written whole]

end LaidOut

end DeskComputer.Source
