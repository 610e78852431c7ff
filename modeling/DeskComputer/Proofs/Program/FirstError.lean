import DeskComputer.Proofs.Program.Assembly
import DeskComputer.Proofs.Source.Lines

/-!
# The first error

Lines are read one by one, and a source text is refused for the first that has a problem. If none
has, it is refused for the first reference to a label that nothing defines, at the line of that
reference, and if there is none it comes to what its entries link to. A numeral that is too long to
convert comes before all this, wherever it stands. Main statement: `assembleSource_first_error`.
-/

namespace DeskComputer

open Source Text

theorem referringLine?_eq {earlier later : List ParsedLine} {line : ParsedLine} {label : String}
    (here : .ref label ∈ line.entries)
    (first : .ref label ∉ earlier.flatMap ParsedLine.entries) :
    Assembler.referringLine? (earlier ++ line :: later) label = some line := by
  apply List.find?_eq_some_iff_append.mpr
  refine ⟨List.contains_iff_mem.mpr here, earlier, later, rfl, ?_⟩
  intro l member
  rw [Bool.not_eq_true', ← Bool.not_eq_true, List.contains_iff_mem]
  intro again
  exact first (List.mem_flatMap.mpr ⟨l, member, again⟩)

section Sources

variable {source file : String}

theorem assembleSource_of_failing_line {before : List (List Entry)} {d : Diagnostic}
    {after : List LineResult}
    (results : lineResults source file =
      before.map (fun entries => .ok (.ok entries)) ++ .ok (.error d) :: after.map .ok) :
    d.location? = some { file, line := before.length + 1 } ∧
      assembleSource source file = .error (.assembly d) := by
  constructor
  · have here := congrArg (·[before.length]?) results
    simp only [lineResults, resultsFrom_getElem?] at here
    rw [List.getElem?_append_right (by simp), List.length_map, Nat.sub_self,
      List.getElem?_cons_zero, Option.map_eq_some_iff] at here
    obtain ⟨text, -, failed⟩ := here
    rw [parseLine_location failed, Nat.add_comm]
    rfl
  · have read : lineResults source file =
        (before.map .ok ++ .error d :: after : List LineResult).map .ok := by
      rw [results, List.map_append, List.map_map, List.map_cons]
      rfl
    obtain ⟨lines, parsed, same, -⟩ := parseLinesFrom_ok read
    obtain ⟨rest, failed⟩ := errors_of_results same
    exact assembleSource_failed parsed failed

variable {contributions : List (List Entry)}

theorem assembleSource_of_bound
    (results : lineResults source file = contributions.map fun entries => .ok (.ok entries))
    (bound : ∀ label, .ref label ∈ contributions.flatten →
      label ∈ (LabelTable.ofEntries contributions.flatten).names) :
    ∃ program, link contributions.flatten = .ok program ∧
      assembleSource source file = .ok program := by
  have read : lineResults source file = (contributions.map .ok : List LineResult).map .ok := by
    rw [results, List.map_map]
    rfl
  obtain ⟨lines, parsed, same, -⟩ := parseLinesFrom_ok read
  obtain ⟨rfl, fine⟩ := entries_of_results same
  have linked := link_ok.mpr (resolve?_ok.mpr ⟨bound, rfl⟩)
  refine ⟨_, linked, assembleSource_linked parsed fine ?_⟩
  rw [List.flatMap_def]
  exact linked

theorem assembleSource_of_dangling {earlier later : List (List Entry)}
    {before after : List Entry} {label : String}
    (results : lineResults source file =
      (earlier ++ (before ++ .ref label :: after) :: later).map fun entries => .ok (.ok entries))
    (free : label ∉ (LabelTable.ofEntries
      (earlier ++ (before ++ .ref label :: after) :: later).flatten).names)
    (bound : ∀ named, .ref named ∈ earlier.flatten ++ before → named ∈ (LabelTable.ofEntries
      (earlier ++ (before ++ .ref label :: after) :: later).flatten).names) :
    let entries := (earlier ++ (before ++ .ref label :: after) :: later).flatten
    ∃ text d, (splitLines source.toList)[earlier.length]? = some text ∧
      link entries = .error d ∧ d.problem = unresolvedIn (.ofEntries entries) label ∧
      assembleSource source file = .error (.assembly
        (d.locate { file, line := earlier.length + 1 } (some (String.ofList text)))) := by
  have read : lineResults source file = List.map .ok
      ((earlier ++ (before ++ .ref label :: after) :: later).map .ok : List LineResult) := by
    rw [results, List.map_map]
    rfl
  obtain ⟨lines, parsed, same, placed⟩ := parseLinesFrom_ok read
  obtain ⟨whole, fine⟩ := entries_of_results same
  have flat : lines.flatMap ParsedLine.entries =
      (earlier ++ (before ++ .ref label :: after) :: later).flatten := by
    rw [List.flatMap_def, whole]
  have split : (earlier ++ (before ++ .ref label :: after) :: later).flatten =
      (earlier.flatten ++ before) ++ .ref label :: (after ++ later.flatten) := by
    simp
  have dangling := resolve?_error.mpr ⟨_, _, split, free, bound⟩
  obtain ⟨ahead, _, rfl, sameAhead, rest⟩ := List.map_eq_append_iff.mp whole
  obtain ⟨line, behind, rfl, here, -⟩ := List.map_eq_cons_iff.mp rest
  -- The search for the label ends at this line: all references on earlier lines are bound.
  have refers : .ref label ∈ line.entries := by
    rw [here]
    simp
  have first : .ref label ∉ ahead.flatMap ParsedLine.entries := by
    intro again
    rw [List.flatMap_def, sameAhead] at again
    exact free (bound label (List.mem_append_left _ again))
  have length : earlier.length = ahead.length := by rw [← sameAhead, List.length_map]
  obtain ⟨number, text, stands, written⟩ := placed ahead.length line (by simp)
  refine ⟨text, _, length ▸ stands, link_error.mpr ⟨label, dangling, rfl⟩, rfl, ?_⟩
  rw [← flat] at dangling ⊢
  rw [assembleSource_dangling parsed fine dangling, Assembler.unresolvedAt,
    referringLine?_eq refers first]
  dsimp only
  rw [number, written, length, Nat.add_comm]
  rfl

/-- A source text is refused for the first numeral that is too long to convert, else for the first
line that has a problem, else for the first reference that dangles, at the line of each; else it
comes to what the entries of its lines link to. -/
theorem assembleSource_first_error (source file : String) :
    (∀ numeral, assembleSource source file = .error (.oversized numeral) ↔
      ∃ before after, lineResults source file = before ++ .error numeral :: after ∧
        ∀ result ∈ before, ∃ parsed, result = .ok parsed) ∧
    (∀ (before : List (List Entry)) (d : Diagnostic) (after : List LineResult),
      lineResults source file =
        before.map (fun entries => .ok (.ok entries)) ++ .ok (.error d) :: after.map .ok →
      d.location? = some { file, line := before.length + 1 } ∧
        assembleSource source file = .error (.assembly d)) ∧
    (∀ contributions : List (List Entry),
      lineResults source file = contributions.map (fun entries => .ok (.ok entries)) →
      let entries := contributions.flatten
      let names := (LabelTable.ofEntries entries).names
      (∀ earlier before label after later,
        contributions = earlier ++ (before ++ .ref label :: after) :: later → label ∉ names →
        (∀ named, .ref named ∈ earlier.flatten ++ before → named ∈ names) →
        ∃ text d, (splitLines source.toList)[earlier.length]? = some text ∧
          link entries = .error d ∧ d.problem = unresolvedIn (.ofEntries entries) label ∧
          assembleSource source file = .error (.assembly
            (d.locate { file, line := earlier.length + 1 } (some (String.ofList text))))) ∧
      ((∀ label, .ref label ∈ entries → label ∈ names) →
        ∃ program, link entries = .ok program ∧ assembleSource source file = .ok program)) := by
  refine ⟨?_, ?_, ?_⟩
  · intro numeral
    exact assembleSource_oversized.trans parseLinesFrom_error
  · intro before d after results
    exact assembleSource_of_failing_line results
  · intro contributions results
    refine ⟨?_, assembleSource_of_bound results⟩
    rintro earlier before label after later rfl free bound
    exact assembleSource_of_dangling results free bound

/-- The problem of a line is not answered if a numeral on a later line is too long. -/
theorem assembleSource_first_error_unanswered :
    let numeral := '1' :: List.replicate 4300 '0'
    let source := String.ofList ("bogus\nset R0, ".toList ++ numeral)
    parseLine "bogus" 1 "late" = .ok (.error
      { problem := .mnemonic "bogus", location? := some { file := "late", line := 1 },
        sourceLine? := some "bogus" }) ∧
    lineResults source "late" = [parseLine "bogus" 1 "late", .error ⟨4301⟩] ∧
    assembleSource source "late" = .error (.oversized ⟨4301⟩) := by
  have failed : parseLine "bogus" 1 "late" = .ok (.error
      { problem := .mnemonic "bogus", location? := some { file := "late", line := 1 },
        sourceLine? := some "bogus" }) := by rfl
  intro numeral source
  obtain ⟨n, -, written⟩ := exists_toDigits_zeros 4300
  have size : (Nat.toDigits 10 n).length = 4301 := by
    rw [written, List.length_cons, List.length_replicate]
  have results : lineResults source "late" = [parseLine "bogus" 1 "late", .error ⟨4301⟩] := by
    have long : decimalLimit < (Nat.toDigits 10 n).length := by
      rw [size]
      decide
    have plain : Plain ['b', 'o', 'g', 'u', 's'] := by decide
    have unbroken := fun c hc => isLineBreak_of_unblank (plain.unblank c hc)
    have both := lineResults_oversized unbroken long 0 "late"
    have second : spelled ['s', 'e', 't'] [registerToken 0, Nat.toDigits 10 n] =
        "set R0, ".toList ++ Nat.toDigits 10 n := by
      rw [spelled, spaced, List.map_cons, List.intercalate_cons_cons, List.map_nil,
        List.intercalate_singleton]
      rfl
    rw [size, second, written] at both
    exact both
  refine ⟨failed, results, ?_⟩
  rw [assembleSource_oversized, parseSource, parseLinesFrom_error]
  refine ⟨[parseLine "bogus" 1 "late"], [], results, ?_⟩
  rw [List.forall_mem_singleton, failed]
  exact ⟨_, rfl⟩

end Sources

end DeskComputer
