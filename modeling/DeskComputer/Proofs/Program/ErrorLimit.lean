import DeskComputer.Proofs.Program.Sessions

/-!
# The limit on errors

A report keeps errors up to its limit, and at least one, and says so when it stops there. An
assembly reports the problems of its lines this way, in order, or else the first label that nothing
defines; the lines themselves are all kept. Main statement: `assemble_limited`.
-/

namespace DeskComputer

open Source Text

/-! ### Reports -/

namespace Report

/-- The last line of a report as it is shown: how many errors and warnings it has. -/
def summary (r : Report Diagnostic) : String :=
  counted r.errors.length "error" ++ ", " ++ counted r.warnings.length "warning"

theorem text_eq (r : Report Diagnostic) :
    ∃ lines : List String, r.text = String.join (lines.map (· ++ "\n")) ++ r.summary :=
  ⟨_, intercalate_concat _ _⟩

end Report

/-! ### Assemblies -/

namespace Assembler

variable {a : Assembler} {source file label : String} {lines : List ParsedLine}

theorem assembleLines_errors (fresh : a.report.errors = [])
    (failed : lines.filterMap ParsedLine.error? ≠ []) :
    let most := (max a.report.limit 1).toNat
    let errors := lines.filterMap ParsedLine.error?
    (a.assembleLines file lines).2.report.errors =
      errors.take most ++ if most ≤ errors.length then a.report.note else [] := by
  intro most errors
  obtain ⟨d, rest, split⟩ := List.exists_cons_of_ne_nil failed
  rw [assembleLines_failed file fresh split, ← split, Report.addAll_eq, Report.room_of_fresh fresh,
    fresh]
  by_cases full : most ≤ errors.length
  · rw [if_pos full, if_pos full]
    rfl
  · rw [if_neg full, if_neg full, List.append_nil, List.take_of_length_le (by omega)]
    rfl

/-- A label that nothing defines is reported alone, with the limit if it is that low. -/
theorem assembleLines_unresolved (fresh : a.report.errors = [])
    (fine : lines.filterMap ParsedLine.error? = [])
    (dangling : resolve? (.ofEntries (lines.flatMap ParsedLine.entries))
      (lines.flatMap ParsedLine.entries) = .error label) :
    (a.assembleLines file lines).2.report.errors =
      unresolvedAt file lines (.ofEntries (lines.flatMap ParsedLine.entries)) label ::
        if a.report.limit ≤ 1 then a.report.note else [] := by
  have none : (warned file lines a.report).errors = [] := fresh
  rw [assembleLines_dangling file fresh fine dangling]
  dsimp only
  by_cases full : a.report.limit ≤ 1
  · rw [Report.addOrStop_stopped (by rw [none]; exact full), if_pos full, none]
    rfl
  · rw [Report.addOrStop_added (by rw [none]; exact full), if_neg full, none]
    rfl

/-- Lines without a problem are reported without an error if all their labels are defined. -/
theorem assembleLines_clean (fresh : a.report.errors = [])
    (fine : lines.filterMap ParsedLine.error? = [])
    (bound : ∀ label, .ref label ∈ lines.flatMap ParsedLine.entries →
      .mark label ∈ lines.flatMap ParsedLine.entries) :
    (a.assembleLines file lines).2.report.errors = [] := by
  have linked := link_ok.mpr (resolve?_ok.mpr
    ⟨fun label refers => LabelTable.mem_names_ofEntries.mpr (bound label refers), rfl⟩)
  rw [assembleLines_linked file fresh fine linked]
  exact fresh

/-- Whether the limit on errors is reached by lines: by those that have a problem, or else by a
label that nothing defines. -/
def Reaches (limit : Int) (lines : List ParsedLine) : Prop :=
  let errors := lines.filterMap ParsedLine.error?
  (max limit 1).toNat ≤ errors.length ∨
    errors = [] ∧ limit ≤ 1 ∧ ∃ label, .ref label ∈ lines.flatMap ParsedLine.entries ∧
      .mark label ∉ lines.flatMap ParsedLine.entries

theorem reaches_iff {limit : Int} :
    Reaches limit lines ↔
      Faulty lines ∧ limit ≤ max (lines.filterMap ParsedLine.error?).length 1 := by
  rw [Reaches, Faulty]
  cases fine : lines.filterMap ParsedLine.error? with
  | cons d rest =>
    have member : d ∈ lines.filterMap ParsedLine.error? := fine ▸ List.mem_cons_self
    obtain ⟨line, present, failed⟩ := List.mem_filterMap.mp member
    have some : ∃ line ∈ lines, ∃ d, line.result = .error d :=
      ⟨line, present, d, ParsedLine.error?_eq_some.mp failed⟩
    simp only [some, true_or, true_and, List.length_cons, reduceCtorEq, false_and, or_false]
    omega
  | nil =>
    have none : ¬∃ line ∈ lines, ∃ d, line.result = .error d := by
      rintro ⟨line, present, d, failed⟩
      exact filterMap_error?_eq_nil.mp fine line present d failed
    have unfilled : ¬(max limit 1).toNat ≤ ([] : List Diagnostic).length := by
      rw [List.length_nil]
      omega
    simp only [none, unfilled, false_or, true_and]
    refine and_comm.trans (and_congr_right fun _ => ?_)
    rw [List.length_nil]
    omega

/-- Lines are answered, unless the limit is reached and is too long to be written. -/
theorem assembleLines_answered (file : String) (lines : List ParsedLine)
    (fresh : a.report.errors = []) :
    let answer := (a.assembleLines file lines).1
    (answer = .error .unwritable ↔
      Reaches a.report.limit lines ∧ 10 ^ decimalLimit ≤ a.report.limit.natAbs) ∧
    (answer ≠ .error .unwritable → ∃ program, answer = .ok program) := by
  dsimp only
  rw [reaches_iff]
  rcases assembleLines_cases file lines fresh with
    ⟨faulty, refused⟩ | ⟨sound, -, -, answered, -, -⟩
  · rw [refused.answer, refusal]
    split
    · rename_i full
      exact ⟨iff_of_true rfl ⟨⟨faulty, full.1⟩, full.2⟩, fun none => absurd rfl none⟩
    · rename_i free
      exact ⟨iff_of_false (by simp) fun full => free ⟨full.1.2, full.2⟩, fun _ => ⟨[], rfl⟩⟩
  · rw [answered]
    exact ⟨iff_of_false (by simp) fun full => sound full.1.1, fun _ => ⟨_, rfl⟩⟩

/-- The problems of the lines of a source text are reported in order up to the limit, and at least
the first, with a note of the limit if it is reached; else the first label that nothing defines is,
with that note if the limit is not above one. All lines are kept with their results. What is not
answered by a report is a numeral that is too long to convert, and a limit that is reached and is
too long to be written: the note is missing then. -/
theorem assemble_limited (a : Assembler) (source file : String) :
    let (answer, after) := a.assemble source file
    ((∃ numeral, answer = .error (.oversized numeral)) ↔
      ∃ numeral, .error numeral ∈ lineResults source file) ∧
    ∀ results : List LineResult, lineResults source file = results.map .ok →
      let errors := after.lines.filterMap ParsedLine.error?
      let entries := after.lines.flatMap ParsedLine.entries
      let limit := a.report.limit
      let most := (max limit 1).toNat
      let stop : List Diagnostic :=
        if limit.natAbs < 10 ^ decimalLimit then
          [{ problem := .tooMany s!"too many errors ({limit}), stopping" }]
        else []
      (answer = .error .unwritable ↔
        Reaches limit after.lines ∧ 10 ^ decimalLimit ≤ limit.natAbs) ∧
      (answer ≠ .error .unwritable → ∃ program, answer = .ok program) ∧
      after.lines.map ParsedLine.result = results ∧
      (∀ i line, after.lines[i]? = some line → line.number = i + 1 ∧
        ∃ text, (splitLines source.toList)[i]? = some text ∧ line.text = String.ofList text) ∧
      (errors ≠ [] → after.report.errors =
        errors.take most ++ if most ≤ errors.length then stop else []) ∧
      (errors = [] →
        (∀ before label rest, entries = before ++ .ref label :: rest → .mark label ∉ entries →
          (∀ earlier, .ref earlier ∈ before → .mark earlier ∈ entries) →
          after.report.errors = unresolvedAt file after.lines (.ofEntries entries) label ::
            if limit ≤ 1 then stop else []) ∧
        ((∀ label, .ref label ∈ entries → .mark label ∈ entries) → after.report.errors = [])) ∧
      ∃ shown : List String,
        after.report.text = String.join (shown.map (· ++ "\n")) ++
          (Report.counted after.report.errors.length "error" ++ ", " ++
            Report.counted after.report.warnings.length "warning") := by
  have fresh : (a.begin file).report.errors = [] := rfl
  dsimp only
  rw [← a.report.note_eq]
  constructor
  · cases parsed : parseSource source file with
    | error numeral =>
      obtain ⟨before, later, split, -⟩ := parseLinesFrom_error.mp parsed
      rw [assemble_unread parsed]
      refine iff_of_true ⟨numeral, rfl⟩ ⟨numeral, ?_⟩
      rw [lineResults, split]
      simp
    | ok lines =>
      have results : lineResults source file = lines.map fun line => .ok line.result :=
        parseLinesFrom_results parsed
      obtain ⟨failing, answered⟩ := assembleLines_answered file lines fresh
      rw [assemble, parsed, results]
      refine iff_of_false ?_ ?_
      · rintro ⟨numeral, failed⟩
        obtain ⟨program, fine⟩ := answered (by rw [failed]; simp)
        cases failed.symm.trans fine
      · rintro ⟨numeral, member⟩
        obtain ⟨line, -, same⟩ := List.mem_map.mp member
        cases same
  · intro results read
    obtain ⟨lines, parsed, same, placed⟩ := parseLinesFrom_ok read
    obtain ⟨failing, answered⟩ := assembleLines_answered file lines fresh
    have assembled : a.assemble source file = (a.begin file).assembleLines file lines := by
      rw [assemble, show parseSource source file = .ok lines from parsed]
    have kept : ((a.begin file).assembleLines file lines).2.lines = lines := assembleLines_lines
    rw [assembled, kept]
    refine ⟨failing, answered, same, ?_, assembleLines_errors fresh, ?_, Report.text_eq _⟩
    · intro i line here
      obtain ⟨number, text⟩ := placed i line here
      exact ⟨number.trans (Nat.add_comm 1 i), text⟩
    · intro fine
      refine ⟨?_, assembleLines_clean fresh fine⟩
      intro before label rest split undefined bound
      have dangling := resolve?_error.mpr ⟨before, rest, split,
        fun named => undefined (LabelTable.mem_names_ofEntries.mp named),
        fun earlier refers => LabelTable.mem_names_ofEntries.mpr (bound earlier refers)⟩
      exact assembleLines_unresolved fresh fine dangling

/-- A numeral that is too long to convert leaves no report of the line before it, and no line. -/
theorem assemble_limited_unreported :
    let source := String.ofList
      ("bogus".toList ++ "\nset R0, ".toList ++ '1' :: List.replicate 4300 '0')
    let ran := (withLimit 100).assemble source "late"
    (∃ d, parseLine "bogus" 1 "late" = .ok (.error d)) ∧ ran.1 = .error (.oversized ⟨4301⟩) ∧
      ran.2.report.errors = [] ∧ ran.2.lines = [] := by
  have failed : parseLine "bogus" 1 "late" = .ok (.error
      { problem := .mnemonic "bogus", location? := some { file := "late", line := 1 },
        sourceLine? := some "bogus" }) := by rfl
  have unbroken : ∀ c ∈ "bogus".toList, isLineBreak c = false := by
    have plain : ("bogus".toList.all fun c => !isLineBreak c) = true := by decide
    intro c inside
    exact (Bool.not_eq_true' _).mp (List.all_eq_true.mp plain c inside)
  have unread := parseSource_zeros unbroken failed (show decimalLimit ≤ 4300 by decide)
  intro source ran
  have stopped : ran = (.error (.oversized ⟨4301⟩), (withLimit 100).begin "late") :=
    assemble_unread unread
  rw [stopped]
  exact ⟨⟨_, failed⟩, rfl, rfl, rfl⟩

end Assembler

end DeskComputer
