import DeskComputer.Proofs.Outcome
import DeskComputer.Proofs.Source.Spelling

/-!
# Lines by themselves

A source text is read line by line: `lineResults` is what each line comes to. All lines are kept,
with their numbers and texts, unless a numeral that is too long to convert stops the reading.
-/

namespace DeskComputer.Source

open Text

/-- What lines that are numbered from some number on come to, each by itself. -/
def resultsFrom (number : Nat) (file : String) (texts : List (List Char)) :
    List (Except Oversized LineResult) :=
  (texts.zipIdx number).map fun (text, number) => parseLine (String.ofList text) number file

/-- What the lines of a source text come to, each by itself. -/
def lineResults (source file : String) : List (Except Oversized LineResult) :=
  resultsFrom 1 file (splitLines source.toList)

section Lines

variable {number : Nat} {file : String} {texts : List (List Char)} {text : List Char}

theorem resultsFrom_cons :
    resultsFrom number file (text :: texts) =
      parseLine (String.ofList text) number file :: resultsFrom (number + 1) file texts := rfl

theorem resultsFrom_getElem? (i : Nat) :
    (resultsFrom number file texts)[i]? =
      texts[i]?.map fun text => parseLine (String.ofList text) (number + i : Nat) file := by
  rw [resultsFrom, List.getElem?_map, List.getElem?_zipIdx, Option.map_map]
  rfl

/-- A line that is read without a problem comes to the same at any place of any file. -/
theorem parseLine_ok {text file : String} {number : Int} {entries : List Entry} :
    parseLine text number file = .ok (.ok entries) ↔
      parseStatement (trim text.toList) = .ok entries := by
  unfold parseLine
  split
  · rename_i same
    simp [same]
  · rename_i same
    simp [same]
  · rename_i same
    simp [same]

theorem resultsFrom_ok {contributions : List (List Entry)} :
    resultsFrom number file texts = contributions.map (fun entries => .ok (.ok entries)) ↔
      texts.map (fun text => parseStatement (trim text)) = contributions.map .ok := by
  induction texts generalizing number contributions with
  | nil => cases contributions <;> simp [resultsFrom]
  | cons text texts ih =>
    cases contributions with
    | nil => simp [resultsFrom]
    | cons entries contributions =>
      rw [resultsFrom_cons, List.map_cons, List.map_cons, List.map_cons, List.cons.injEq,
        List.cons.injEq, ih, parseLine_ok, String.toList_ofList]

/-- The first numeral that is too long to convert stops the reading. -/
theorem parseLinesFrom_error {numeral : Oversized} :
    parseLinesFrom number file texts = .error numeral ↔
      ∃ before after, resultsFrom number file texts = before ++ .error numeral :: after ∧
        ∀ result ∈ before, ∃ parsed, result = .ok parsed := by
  induction texts generalizing number with
  | nil => simp [parseLinesFrom, resultsFrom]
  | cons text texts ih =>
    rw [parseLinesFrom, resultsFrom_cons]
    cases first : parseLine (String.ofList text) number file with
    | error other =>
      constructor
      · intro stopped
        cases stopped
        exact ⟨[], _, rfl, by simp⟩
      · rintro ⟨before, after, split, fine⟩
        cases before with
        | nil =>
          rw [List.nil_append, List.cons.injEq] at split
          cases split.1
          rfl
        | cons result before =>
          obtain ⟨parsed, same⟩ := fine _ List.mem_cons_self
          rw [List.cons_append, List.cons.injEq, same] at split
          cases split.1
    | ok result =>
      constructor
      · intro stopped
        rcases bind_error.mp stopped with none | ⟨_, -, stopped⟩
        · cases none
        rcases bind_error.mp stopped with later | ⟨_, -, none⟩
        · obtain ⟨before, after, split, fine⟩ := ih.mp later
          refine ⟨.ok result :: before, after, congrArg (.ok result :: ·) split, ?_⟩
          rw [List.forall_mem_cons]
          exact ⟨⟨result, rfl⟩, fine⟩
        · cases none
      · rintro ⟨before, after, split, fine⟩
        cases before with
        | nil => cases (List.cons.inj split).1
        | cons head before =>
          rw [List.cons_append, List.cons.injEq] at split
          rw [List.forall_mem_cons] at fine
          have later := ih.mpr ⟨before, after, split.2, fine.2⟩
          rw [later]
          rfl

/-- Lines without such a numeral are all read, each with its number and text. -/
theorem parseLinesFrom_ok {parsed : List LineResult}
    (read : resultsFrom number file texts = parsed.map .ok) :
    ∃ lines, parseLinesFrom number file texts = .ok lines ∧
      lines.map ParsedLine.result = parsed ∧
      ∀ i line, lines[i]? = some line → line.number = number + i ∧
        ∃ text, texts[i]? = some text ∧ line.text = String.ofList text := by
  induction texts generalizing number parsed with
  | nil =>
    cases parsed with
    | nil => exact ⟨[], rfl, rfl, by simp⟩
    | cons result parsed => cases read
  | cons text texts ih =>
    cases parsed with
    | nil => cases read
    | cons result parsed =>
      rw [resultsFrom_cons, List.map_cons, List.cons.injEq] at read
      obtain ⟨lines, remaining, results, placed⟩ := ih read.2
      refine ⟨⟨number, String.ofList text, result⟩ :: lines, ?_, ?_, ?_⟩
      · rw [parseLinesFrom, read.1, remaining]
        rfl
      · rw [List.map_cons, results]
      · intro i line here
        cases i with
        | zero =>
          cases here
          exact ⟨rfl, text, rfl, rfl⟩
        | succ i =>
          obtain ⟨counted, same⟩ := placed i line here
          exact ⟨by omega, same⟩

/-- The lines that are read have the results of the lines by themselves. -/
theorem parseLinesFrom_results {lines : List ParsedLine}
    (read : parseLinesFrom number file texts = .ok lines) :
    resultsFrom number file texts = lines.map fun line => .ok line.result := by
  induction texts generalizing number lines with
  | nil =>
    cases read
    rfl
  | cons text texts ih =>
    obtain ⟨result, first, read⟩ := bind_ok.mp read
    obtain ⟨rest, remaining, read⟩ := bind_ok.mp read
    obtain rfl := pure_ok.mp read
    rw [resultsFrom_cons, first, ih remaining, List.map_cons]

theorem parseSource_error {source : String} :
    (∃ numeral, parseSource source file = .error numeral) ↔
      ∃ numeral, .error numeral ∈ lineResults source file := by
  constructor
  · rintro ⟨numeral, stopped⟩
    obtain ⟨before, after, split, -⟩ := parseLinesFrom_error.mp stopped
    refine ⟨numeral, ?_⟩
    rw [lineResults, split]
    simp
  · rintro ⟨numeral, member⟩
    cases parsed : parseSource source file with
    | error other => exact ⟨other, rfl⟩
    | ok lines =>
      have results : lineResults source file = lines.map fun line => .ok line.result :=
        parseLinesFrom_results parsed
      rw [results] at member
      obtain ⟨line, -, same⟩ := List.mem_map.mp member
      cases same

/-- The problem of a line stands at that line. -/
theorem parseLine_location {text file : String} {number : Int} {d : Diagnostic}
    (failed : parseLine text number file = .ok (.error d)) :
    d.location? = some { file, line := number } := by
  unfold parseLine at failed
  split at failed
  · cases failed
  · cases failed
    rfl
  · cases failed

theorem lineResults_oversized {line : List Char} (unbroken : ∀ c ∈ line, isLineBreak c = false)
    {n : Nat} (long : decimalLimit < (Nat.toDigits 10 n).length) (r : Fin 4) (file : String) :
    lineResults (String.ofList (line ++ '\n' ::
        spelled ['s', 'e', 't'] [registerToken r, Nat.toDigits 10 n])) file =
      [parseLine (String.ofList line) 1 file, .error ⟨(Nat.toDigits 10 n).length⟩] := by
  have plain : ∀ t ∈ [registerToken r, Nat.toDigits 10 n], Plain t := by
    simp [plain_registerToken, plain_toDigits]
  have inside := spelled_unbroken (by decide : Plain ['s', 'e', 't']) plain
  have second := parseLine_oversized long r 2 file
  rw [lineResults, String.toList_ofList, splitLines_append unbroken,
    splitLines_single inside (by simp [spelled]), resultsFrom_cons, resultsFrom_cons]
  exact congrArg (parseLine (String.ofList line) 1 file :: [·]) second

/-- A numeral that is too long to convert keeps the line before it from being read. -/
theorem parseSource_zeros {line : List Char} (unbroken : ∀ c ∈ line, isLineBreak c = false)
    {result : LineResult} {file : String}
    (read : parseLine (String.ofList line) 1 file = .ok result) {zeros : Nat}
    (long : decimalLimit ≤ zeros) :
    parseSource (String.ofList (line ++ "\nset R0, ".toList ++ '1' :: List.replicate zeros '0'))
      file = .error ⟨zeros + 1⟩ := by
  obtain ⟨n, -, written⟩ := exists_toDigits_zeros zeros
  have size : (Nat.toDigits 10 n).length = zeros + 1 := by
    rw [written, List.length_cons, List.length_replicate]
  have results := lineResults_oversized unbroken (show decimalLimit < (Nat.toDigits 10 n).length by
    omega) 0 file
  have second : '\n' :: spelled ['s', 'e', 't'] [registerToken 0, Nat.toDigits 10 n] =
      "\nset R0, ".toList ++ '1' :: List.replicate zeros '0' := by
    rw [written, spelled, spaced, List.map_cons, List.intercalate_cons_cons, List.map_nil,
      List.intercalate_singleton]
    rfl
  rw [second, size, ← List.append_assoc] at results
  rw [parseSource, parseLinesFrom_error]
  exact ⟨[_], [], results, List.forall_mem_singleton.mpr ⟨result, read⟩⟩

end Lines

/-! ### Results of lines -/

section Results

variable {lines : List ParsedLine}

theorem ParsedLine.error?_eq_some {line : ParsedLine} {d : Diagnostic} :
    line.error? = some d ↔ line.result = .error d := by
  unfold error?
  split
  · rename_i same
    simp [same]
  · rename_i same
    simp [same]

theorem ParsedLine.result_eq_ok {line : ParsedLine} (fine : ∀ d, line.result ≠ .error d) :
    line.result = .ok line.entries := by
  unfold entries
  split
  · assumption
  · rename_i d failed
    exact absurd failed (fine d)

theorem filterMap_error?_eq_nil :
    lines.filterMap ParsedLine.error? = [] ↔ ∀ line ∈ lines, ∀ d, line.result ≠ .error d := by
  simp only [List.filterMap_eq_nil_iff, Option.eq_none_iff_forall_ne_some, ne_eq,
    ParsedLine.error?_eq_some]

theorem entries_of_results {contributions : List (List Entry)}
    (results : lines.map ParsedLine.result = contributions.map .ok) :
    lines.map ParsedLine.entries = contributions ∧ lines.filterMap ParsedLine.error? = [] := by
  induction lines generalizing contributions with
  | nil =>
    cases contributions with
    | nil => exact ⟨rfl, rfl⟩
    | cons entries contributions => cases results
  | cons line lines ih =>
    cases contributions with
    | nil => cases results
    | cons entries contributions =>
      rw [List.map_cons, List.map_cons, List.cons.injEq] at results
      obtain ⟨same, fine⟩ := ih results.2
      have here : line.entries = entries := by rw [ParsedLine.entries, results.1]
      have none : line.error? = none := by rw [ParsedLine.error?, results.1]
      rw [List.map_cons, here, same, List.filterMap_cons_none none]
      exact ⟨rfl, fine⟩

theorem errors_of_results {before : List (List Entry)} {d : Diagnostic} {after : List LineResult}
    (results : lines.map ParsedLine.result = before.map .ok ++ .error d :: after) :
    ∃ rest, lines.filterMap ParsedLine.error? = d :: rest := by
  obtain ⟨fine, _, rfl, good, failed⟩ := List.map_eq_append_iff.mp results
  obtain ⟨line, later, rfl, bad, -⟩ := List.map_eq_cons_iff.mp failed
  have none := (entries_of_results good).2
  have here : line.error? = some d := by rw [ParsedLine.error?, bad]
  rw [List.filterMap_append, none, List.filterMap_cons_some here]
  exact ⟨_, rfl⟩

variable {source file : String}

theorem mem_lineResults (parsed : parseSource source file = .ok lines) {result : LineResult} :
    .ok result ∈ lineResults source file ↔ ∃ line ∈ lines, line.result = result := by
  have results : lineResults source file = lines.map fun line => .ok line.result :=
    parseLinesFrom_results parsed
  rw [results]
  simp only [List.mem_map, Except.ok.injEq]

theorem mem_entries (parsed : parseSource source file = .ok lines) {e : Entry} :
    e ∈ lines.flatMap ParsedLine.entries ↔
      ∃ entries, .ok (.ok entries) ∈ lineResults source file ∧ e ∈ entries := by
  simp only [List.mem_flatMap, mem_lineResults parsed]
  constructor
  · rintro ⟨line, member, inside⟩
    unfold ParsedLine.entries at inside
    split at inside
    · rename_i entries read
      exact ⟨entries, ⟨line, member, read⟩, inside⟩
    · cases inside
  · rintro ⟨entries, ⟨line, member, read⟩, inside⟩
    refine ⟨line, member, ?_⟩
    rw [ParsedLine.entries, read]
    exact inside

end Results

end DeskComputer.Source
