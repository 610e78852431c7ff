import DeskComputer.Proofs.Source.Addresses
import DeskComputer.Proofs.Source.Lines
import DeskComputer.Proofs.Source.Numbers
import Mathlib.Data.List.Basic

/-!
# Letter case in source text

Source text without quotes is read alike in any letter case. Each reader is compared on a text and
on its lower-case form: what they come to agrees, that is, it is the same or they are refused for
problems of one kind. A quoted character is the one thing that letter case matters to.
-/

namespace DeskComputer

/-- Whether two problems are of one kind, whatever texts they are about. -/
def Problem.SameKind (p q : Problem) : Prop := p.ctorIdx = q.ctorIdx

/-- Whether two diagnostics are of one kind and stand at one place. -/
def Diagnostic.Alike (d e : Diagnostic) : Prop :=
  d.problem.SameKind e.problem ∧ d.location? = e.location?

namespace Source

open Text

/-! ### Agreement -/

/-- Two results of reading that are the same, or problems of one kind. -/
inductive Agree {α : Type} : Except Refusal α → Except Refusal α → Prop where
  | same (result : Except Refusal α) : Agree result result
  | problems {p q : Problem} :
      p.SameKind q → Agree (.error (.problem p)) (.error (.problem q))

namespace Agree

variable {α β : Type} {first second third : Except Refusal α}

theorem symm (h : Agree first second) : Agree second first := by
  cases h with
  | same => exact .same _
  | problems kind => exact .problems kind.symm

theorem trans (h : Agree first second) (h' : Agree second third) : Agree first third := by
  cases h with
  | same => exact h'
  | problems kind =>
    cases h' with
    | same => exact .problems kind
    | problems kind' => exact .problems (kind.trans kind')

/-- What goes on alike from results that agree comes to results that agree. -/
theorem bind {next next' : α → Except Refusal β} (h : Agree first second)
    (onward : ∀ a, Agree (next a) (next' a)) : Agree (first >>= next) (second >>= next') := by
  cases h with
  | same =>
    cases first with
    | error e => exact .same _
    | ok a => exact onward a
  | problems kind => exact .problems kind

end Agree

/-! ### Tokens -/

section Tokens

variable {token text : List Char}

theorem unquoted_toLower : '\'' ∉ text.map Char.toLower ↔ '\'' ∉ text := by
  rw [List.mem_map]
  refine not_congr ⟨?_, fun member => ⟨_, member, rfl⟩⟩
  rintro ⟨c, member, same⟩
  rwa [(toLower_eq_iff (by decide) c).mp same] at member

theorem nameKey_toLower (token : List Char) : nameKey (token.map Char.toLower) = nameKey token := by
  rw [nameKey, trim_toLower, lower_toLower, nameKey]

theorem readRegister_toLower (token : List Char) :
    Agree (liftM (readRegister (token.map Char.toLower))) (liftM (readRegister token)) := by
  unfold readRegister
  rw [nameKey_toLower]
  cases registerNames.lookup (nameKey token) with
  | none => exact .problems rfl
  | some r => exact .same _

theorem readCondition_toLower (token : List Char) :
    Agree (liftM (readCondition (token.map Char.toLower))) (liftM (readCondition token)) := by
  unfold readCondition
  rw [nameKey_toLower]
  cases conditionNames.lookup (nameKey token) with
  | none => exact .problems rfl
  | some c => exact .same _

theorem readNumber_toLower (unquoted : '\'' ∉ token) :
    Agree (readNumber (token.map Char.toLower)) (readNumber token) := by
  have inside : '\'' ∉ trim token := fun member => unquoted (mem_of_mem_trim member)
  unfold readNumber
  rw [trim_toLower]
  dsimp only
  rw [readQuoted?_unquoted inside, readQuoted?_unquoted (unquoted_toLower.mpr inside),
    lower_toLower]
  dsimp only
  generalize (if (lower (trim token)).head? = some '-' then _ else _) = body
  cases readUnsigned body with
  | error numeral => exact .same _
  | ok number? =>
    cases number? with
    | some n => exact .same _
    | none =>
      dsimp only
      split
      · exact .problems rfl
      · exact .same _

theorem readImmediate_toLower (unquoted : '\'' ∉ token) :
    Agree (readImmediate (token.map Char.toLower)) (readImmediate token) := by
  by_cases filled : trim token = []
  · unfold readImmediate
    rw [trim_toLower, filled]
    exact .same _
  · have filled' : trim (token.map Char.toLower) ≠ [] := by
      rw [trim_toLower]
      exact fun none => filled (List.map_eq_nil_iff.mp none)
    rw [readImmediate_eq filled, readImmediate_eq filled', trim_toLower, lower_toLower]
    exact (readNumber_toLower unquoted).bind fun number? => .same _

theorem decimalValue?_toLower : decimalValue? ∘ Char.toLower = decimalValue? :=
  funext (toLower_kept (by decide +kernel))

theorem unsigned_toLower (text : List Char) :
    unsigned (text.map Char.toLower) = (unsigned text).map Char.toLower := by
  rw [unsigned, unsigned, apply_ite (List.map Char.toLower), List.map_tail]
  exact if_congr (head?_toLower (by decide)) rfl rfl

theorem addressParts?_toLower (token : List Char) :
    addressParts? (token.map Char.toLower) = (addressParts? token).map fun (digits, name) =>
      (digits.map Char.toLower, name.map Char.toLower) := by
  have text : unsigned (trim (token.map Char.toLower)) =
      (unsigned (trim token)).map Char.toLower := by
    rw [trim_toLower, unsigned_toLower]
  have offset : (unsigned (trim (token.map Char.toLower))).takeWhile isDecimal =
      ((unsigned (trim token)).takeWhile isDecimal).map Char.toLower := by
    rw [text, List.takeWhile_map, isDecimal_toLower]
  have behind : (unsigned (trim (token.map Char.toLower))).dropWhile isDecimal =
      ((unsigned (trim token)).dropWhile isDecimal).map Char.toLower := by
    rw [text, List.dropWhile_map, isDecimal_toLower]
  by_cases bracket : ((unsigned (trim token)).dropWhile isDecimal).head? = some '['
  · obtain ⟨inner, same⟩ := List.head?_eq_some_iff.mp bracket
    rw [same] at behind
    have closed : (trimStart ((trimStart inner).dropWhile isWordChar)).map Char.toLower = [']'] ↔
        trimStart ((trimStart inner).dropWhile isWordChar) = [']'] := by
      rw [List.map_eq_singleton_iff]
      constructor
      · rintro ⟨c, whole, lowered⟩
        rw [whole, (toLower_eq_iff (by decide) c).mp lowered]
      · exact fun whole => ⟨']', whole, by decide⟩
    rw [addressParts?_eq rfl same, addressParts?_eq offset behind]
    simp only [trimStart_toLower, List.takeWhile_map, List.dropWhile_map, isWordChar_toLower,
      List.isEmpty_map, closed]
    split
    · rfl
    · rfl
  · rw [addressParts?_eq_none, addressParts?_eq_none, Option.map_none]
    · intro inner same
      exact bracket (List.head?_eq_some_iff.mpr ⟨inner, same⟩)
    · intro inner same
      rw [behind] at same
      exact bracket ((head?_toLower (by decide)).mp (List.head?_eq_some_iff.mpr ⟨inner, same⟩))

theorem readAddress_toLower (token : List Char) :
    Agree (readAddress (token.map Char.toLower)) (readAddress token) := by
  unfold readAddress
  rw [addressParts?_toLower]
  cases addressParts? token with
  | none => exact .problems rfl
  | some parts =>
    obtain ⟨digits, name⟩ := parts
    dsimp only [Option.map_some]
    rw [List.filterMap_map, decimalValue?_toLower]
    cases ofDecimal (digits.filterMap decimalValue?) with
    | error numeral => exact .same _
    | ok offset =>
      dsimp only
      split
      · exact (readRegister_toLower name).bind fun base => .same _
      · exact .problems rfl

end Tokens

/-! ### Statements -/

section Statements

variable {text : List Char}

theorem cutAtCommas_toLower (unquoted : '\'' ∉ text) (field : List Char) :
    cutAtCommas (field.map Char.toLower) (text.map Char.toLower) =
      (cutAtCommas field text).map (List.map Char.toLower) := by
  induction text generalizing field with
  | nil => rw [List.map_nil, cutAtCommas, cutAtCommas, List.map_singleton, List.map_reverse]
  | cons c text ih =>
    rw [List.mem_cons, not_or] at unquoted
    have plain : c ≠ '\'' := Ne.symm unquoted.1
    have plain' : c.toLower ≠ '\'' := mt (toLower_eq_iff (by decide) c).mp plain
    rw [List.map_cons, cutAtCommas_unquoted plain, cutAtCommas_unquoted plain']
    by_cases comma : c = ','
    · subst c
      rw [if_pos (by decide), if_pos rfl, List.map_cons, List.map_reverse]
      exact congrArg _ (ih unquoted.2 [])
    · have other : c.toLower ≠ ',' := mt (toLower_eq_iff (by decide) c).mp comma
      rw [if_neg comma, if_neg other]
      exact ih unquoted.2 (c :: field)

theorem splitOperands_toLower (unquoted : '\'' ∉ text) :
    splitOperands (text.map Char.toLower) = (splitOperands text).map (List.map Char.toLower) := by
  have trimmed : trim ∘ List.map Char.toLower = List.map Char.toLower ∘ trim :=
    funext trim_toLower
  have filled : (fun t : List Char => !t.isEmpty) ∘ List.map Char.toLower =
      fun t : List Char => !t.isEmpty := by
    funext t
    exact congrArg (!·) List.isEmpty_map
  have cut := cutAtCommas_toLower unquoted []
  rw [List.map_nil] at cut
  rw [splitOperands, cut, List.map_map, trimmed, ← List.map_map, List.filter_map, filled,
    splitOperands]

theorem readStatement_arity {op : Opcode} {operands : List (List Char)}
    (other : operands.length ≠ op.arity) :
    readStatement op operands = .error (.problem (arityProblem op operands)) := by
  unfold readStatement
  split
  · exact absurd rfl other
  · exact absurd rfl other
  · rfl
  · rename_i op r unset
    have one : (Opcode.unary op).arity = 1 := by
      rw [Opcode.arity]
      exact unset
    exact absurd one.symm other
  · exact absurd rfl other
  · exact absurd rfl other
  · exact absurd rfl other
  · rfl

theorem readStatement_toLower (op : Opcode) {operands : List (List Char)}
    (unquoted : ∀ t ∈ operands, '\'' ∉ t) :
    Agree (readStatement op (operands.map (List.map Char.toLower)))
      (readStatement op operands) := by
  by_cases count : operands.length = op.arity
  · cases op with
    | nop =>
      obtain rfl := List.length_eq_zero_iff.mp count
      exact .same _
    | unary op =>
      by_cases data : op = .set
      · subst op
        obtain ⟨r, value, rfl⟩ := List.length_eq_two.mp count
        have plain : '\'' ∉ value := unquoted value (by simp)
        exact (readRegister_toLower r).bind fun r =>
          (readImmediate_toLower plain).bind fun operand => .same _
      · rw [Opcode.arity] at count
        · obtain ⟨r, rfl⟩ := List.length_eq_one_iff.mp count
          rw [List.map_singleton, readStatement, readStatement]
          · exact (readRegister_toLower r).bind fun r => .same _
          · exact data
          · exact data
        · exact data
    | pair op =>
      obtain ⟨r, s, rfl⟩ := List.length_eq_two.mp count
      exact (readRegister_toLower r).bind fun r => (readRegister_toLower s).bind fun s => .same _
    | branch op =>
      obtain ⟨c, r, rfl⟩ := List.length_eq_two.mp count
      exact (readCondition_toLower c).bind fun c => (readRegister_toLower r).bind fun r => .same _
    | access op =>
      obtain ⟨r, address, rfl⟩ := List.length_eq_two.mp count
      refine (readAddress_toLower address).bind fun parts => ?_
      obtain ⟨offset, base⟩ := parts
      exact (readRegister_toLower r).bind fun r => .same _
  · rw [readStatement_arity count, readStatement_arity (by rwa [List.length_map])]
    exact .problems rfl

/-- A line without quotes is read alike in any letter case. -/
theorem parseStatement_toLower (unquoted : '\'' ∉ text) :
    Agree (parseStatement (text.map Char.toLower)) (parseStatement text) := by
  have nothing : ((text.map Char.toLower).isEmpty ||
      decide ((text.map Char.toLower).head? = some ';')) =
      (text.isEmpty || decide (text.head? = some ';')) := by
    rw [List.isEmpty_map, decide_eq_decide.mpr (head?_toLower (by decide))]
  unfold parseStatement
  rw [nothing]
  split
  · exact .same _
  by_cases label : text.getLast? = some ':'
  · rw [if_pos label, if_pos ((getLast?_toLower (by decide)).mpr label), ← List.map_dropLast,
      trim_toLower]
    dsimp only
    rw [lower_toLower, List.isEmpty_map]
    exact .same _
  · rw [if_neg label, if_neg (mt (getLast?_toLower (by decide)).mp label), firstWord_toLower]
    dsimp only
    rw [lower_toLower]
    cases Opcode.ofMnemonic? (String.ofList (lower (firstWord text))) with
    | none => exact .problems rfl
    | some op =>
      have behind : '\'' ∉ afterWord text := fun member => unquoted
        ((List.dropWhile_suffix _).mem ((List.dropWhile_suffix _).mem member))
      dsimp only
      rw [afterWord_toLower, splitOperands_toLower behind]
      exact readStatement_toLower op fun t member here =>
        behind (mem_of_mem_splitOperands member here)

theorem parseStatement_cased {other : List Char}
    (same : text.map Char.toLower = other.map Char.toLower) (unquoted : '\'' ∉ text) :
    Agree (parseStatement text) (parseStatement other) := by
  have unquoted' : '\'' ∉ other := by rwa [← unquoted_toLower, ← same, unquoted_toLower]
  exact (parseStatement_toLower unquoted).symm.trans (same ▸ parseStatement_toLower unquoted')

end Statements

/-! ### Lines -/

/-- Two results of lines with the same entries, or with diagnostics that are alike. -/
inductive SameResult : LineResult → LineResult → Prop where
  | entries (entries : List Entry) : SameResult (.ok entries) (.ok entries)
  | problems {d e : Diagnostic} : d.Alike e → SameResult (.error d) (.error e)

/-- Two outcomes that are related, unless a numeral is too long: then it is so for both. -/
inductive Both {α β : Type} (R : α → β → Prop) :
    Except Oversized α → Except Oversized β → Prop where
  | ok {a : α} {b : β} : R a b → Both R (.ok a) (.ok b)
  | oversized (numeral : Oversized) : Both R (.error numeral) (.error numeral)

namespace Both

variable {α β : Type} {R : α → β → Prop} {outcome : Except Oversized β}

theorem of_error {numeral : Oversized} (h : Both R (.error numeral) outcome) :
    outcome = .error numeral := by
  cases h
  rfl

theorem of_ok {a : α} (h : Both R (.ok a) outcome) : ∃ b, outcome = .ok b ∧ R a b := by
  cases h with
  | ok related => exact ⟨_, rfl, related⟩

end Both

/-- Lines with one number and results that are the same. -/
structure SameLine (line other : ParsedLine) : Prop where
  number : line.number = other.number
  result : SameResult line.result other.result

section Lines

variable {text other : List Char} {texts others : List (List Char)}

theorem parseLine_cased (same : text.map Char.toLower = other.map Char.toLower)
    (unquoted : '\'' ∉ text) (number : Int) (file : String) :
    Both SameResult (parseLine (String.ofList text) number file)
      (parseLine (String.ofList other) number file) := by
  have trimmed : (trim text).map Char.toLower = (trim other).map Char.toLower := by
    rw [← trim_toLower, same, trim_toLower]
  have agree := parseStatement_cased trimmed fun member => unquoted (mem_of_mem_trim member)
  unfold parseLine
  rw [String.toList_ofList, String.toList_ofList]
  generalize parseStatement (trim text) = result at agree ⊢
  generalize parseStatement (trim other) = result' at agree ⊢
  cases agree with
  | same =>
    match result with
    | .ok entries => exact .ok (.entries entries)
    | .error (.problem p) => exact .ok (.problems ⟨rfl, rfl⟩)
    | .error (.oversized numeral) => exact .oversized numeral
  | problems kind => exact .ok (.problems ⟨kind, rfl⟩)

theorem resultsFrom_cased
    (same : texts.map (List.map Char.toLower) = others.map (List.map Char.toLower))
    (unquoted : ∀ text ∈ texts, '\'' ∉ text) (number : Nat) (file : String) :
    List.Forall₂ (Both SameResult) (resultsFrom number file texts)
      (resultsFrom number file others) := by
  induction texts generalizing number others with
  | nil =>
    obtain rfl := List.map_eq_nil_iff.mp same.symm
    exact .nil
  | cons text texts ih =>
    obtain ⟨other, others, rfl, first, rest⟩ := List.map_eq_cons_iff.mp same.symm
    rw [List.forall_mem_cons] at unquoted
    exact .cons (parseLine_cased first.symm unquoted.1 number file)
      (ih rest.symm unquoted.2 (number + 1))

theorem parseLinesFrom_cased
    (same : texts.map (List.map Char.toLower) = others.map (List.map Char.toLower))
    (unquoted : ∀ text ∈ texts, '\'' ∉ text) (number : Nat) (file : String) :
    Both (List.Forall₂ SameLine) (parseLinesFrom number file texts)
      (parseLinesFrom number file others) := by
  induction texts generalizing number others with
  | nil =>
    obtain rfl := List.map_eq_nil_iff.mp same.symm
    exact .ok .nil
  | cons text texts ih =>
    obtain ⟨other, others, rfl, first, rest⟩ := List.map_eq_cons_iff.mp same.symm
    rw [List.forall_mem_cons] at unquoted
    have here := parseLine_cased first.symm unquoted.1 number file
    have later := ih rest.symm unquoted.2 (number + 1)
    rw [parseLinesFrom, parseLinesFrom]
    generalize parseLine (String.ofList text) number file = result at here ⊢
    generalize parseLine (String.ofList other) number file = result' at here ⊢
    generalize parseLinesFrom (number + 1) file texts = lines at later ⊢
    generalize parseLinesFrom (number + 1) file others = lines' at later ⊢
    cases here with
    | oversized numeral => exact .oversized numeral
    | ok results =>
      cases later with
      | oversized numeral => exact .oversized numeral
      | ok both => exact .ok (.cons ⟨rfl, results⟩ both)

variable {lines lines' : List ParsedLine}

theorem SameLine.entries {line other : ParsedLine} (same : SameLine line other) :
    line.entries = other.entries := by
  obtain ⟨-, result⟩ := same
  unfold ParsedLine.entries
  generalize line.result = r at result ⊢
  generalize other.result = r' at result ⊢
  cases result with
  | entries => rfl
  | problems => rfl

theorem entries_cased (same : List.Forall₂ SameLine lines lines') :
    lines.flatMap ParsedLine.entries = lines'.flatMap ParsedLine.entries := by
  induction same with
  | nil => rfl
  | cons first _ ih => rw [List.flatMap_cons, List.flatMap_cons, first.entries, ih]

theorem errors_cased (same : List.Forall₂ SameLine lines lines') :
    List.Forall₂ Diagnostic.Alike (lines.filterMap ParsedLine.error?)
      (lines'.filterMap ParsedLine.error?) := by
  induction same with
  | nil => exact .nil
  | @cons line other lines lines' first _ ih =>
    obtain ⟨-, result⟩ := first
    have both : (line.error? = none ∧ other.error? = none) ∨
        ∃ d e, line.error? = some d ∧ other.error? = some e ∧ d.Alike e := by
      unfold ParsedLine.error?
      generalize line.result = r at result ⊢
      generalize other.result = r' at result ⊢
      cases result with
      | entries => exact .inl ⟨rfl, rfl⟩
      | problems alike => exact .inr ⟨_, _, rfl, rfl, alike⟩
    obtain ⟨fine, fine'⟩ | ⟨d, e, failed, failed', alike⟩ := both
    · rw [List.filterMap_cons_none fine, List.filterMap_cons_none fine']
      exact ih
    · rw [List.filterMap_cons_some failed, List.filterMap_cons_some failed']
      exact .cons alike ih

end Lines

end Source

end DeskComputer
