import DeskComputer.Proofs.Program.Assembly
import DeskComputer.Proofs.Source.Lines

/-!
# Sessions

An assembler takes one source text after another. What it answers and holds after one of them
depends on its limit and on that text, and a text that is refused leaves nothing to run. The lines
are the exception: they are those of the text before if a numeral is too long to convert, and no
error is reported then. Main statement: `assemble_in_session`.
-/

namespace DeskComputer

open Source Text

namespace Assembler

variable {a b : Assembler} {source file : String} {lines : List ParsedLine}

/-! ### One source text -/

/-- The answer to lines that are not assembled, if so many of them have a problem: nothing, unless
the limit is reached and is too long to be written. If none of them has, some label is dangling. -/
def refusal (limit : Int) (failing : Nat) : Except Fault (List Entry) :=
  if limit ≤ max failing 1 ∧ 10 ^ decimalLimit ≤ limit.natAbs then .error .unwritable else .ok []

theorem refusal_eq (r : Report Diagnostic) (failing : Nat) :
    refusal r.limit failing =
      if r.limit ≤ max failing 1 then r.limitReached.map fun _ => [] else .ok [] := by
  rw [refusal, r.limitReached_eq]
  by_cases full : r.limit ≤ max failing 1
  · rw [if_pos full]
    by_cases short : r.limit.natAbs < 10 ^ decimalLimit
    · rw [if_pos short, if_neg fun long => Nat.not_lt.mpr long.2 short]
      rfl
    · rw [if_neg short, if_pos ⟨full, Nat.not_lt.mp short⟩]
      rfl
  · rw [if_neg full, if_neg fun long => full long.1]

/-- What becomes of lines that are not assembled. -/
structure Refused (a : Assembler) (failing : Nat) (answer : Except Fault (List Entry))
    (after : Assembler) : Prop where
  hasErrors : after.hasErrors = true
  answer : answer = refusal a.report.limit failing
  limit : after.report.limit = a.report.limit
  program : after.program = a.program
  labels : after.labels = a.labels

theorem assembleLines_refused (file : String) (fresh : a.report.errors = [])
    {d : Diagnostic} {rest : List Diagnostic}
    (failed : lines.filterMap ParsedLine.error? = d :: rest) :
    a.Refused (d :: rest).length (a.assembleLines file lines).1 (a.assembleLines file lines).2 := by
  obtain ⟨more, kept⟩ := a.report.addAll_errors d rest
  have reached : a.report.room ≤ (d :: rest).length ↔
      a.report.limit ≤ max (d :: rest).length 1 := by
    rw [Report.room_of_fresh fresh, List.length_cons]
    omega
  rw [assembleLines_failed file fresh failed]
  refine ⟨?_, ?_, congrArg (·.limit) kept, rfl, rfl⟩
  · rw [hasErrors, Report.hasErrors_iff, kept, fresh]
    exact List.cons_ne_nil d more
  · rw [Report.addAll_map, refusal_eq]
    simp only [reached]

theorem assembleLines_unbound (file : String) (fresh : a.report.errors = [])
    (fine : lines.filterMap ParsedLine.error? = []) {label : String}
    (dangling : resolve? (.ofEntries (lines.flatMap ParsedLine.entries))
      (lines.flatMap ParsedLine.entries) = .error label) :
    a.Refused 0 (a.assembleLines file lines).1 (a.assembleLines file lines).2 := by
  have none : (warned file lines a.report).errors.length = 0 := congrArg List.length fresh
  rw [assembleLines_dangling file fresh fine dangling]
  dsimp only
  obtain ⟨more, kept⟩ := (warned file lines a.report).addOrStop_errors
    (unresolvedAt file lines (Binding.ofEntries (lines.flatMap ParsedLine.entries)).table label)
  refine ⟨?_, ?_, congrArg (·.limit) kept, rfl, rfl⟩
  · rw [hasErrors, Report.hasErrors_iff, kept]
    simp
  · rw [Report.addOrStop_map, refusal_eq, none]
    rfl

theorem assembleLines_lines : (a.assembleLines file lines).2.lines = lines := by
  unfold assembleLines
  dsimp only
  split
  · rfl
  · split <;> rfl

/-- Whether a line has a problem, or refers to a label that no line defines. -/
def Faulty (lines : List ParsedLine) : Prop :=
  (∃ line ∈ lines, ∃ d, line.result = .error d) ∨
    ∃ label, .ref label ∈ lines.flatMap ParsedLine.entries ∧
      .mark label ∉ lines.flatMap ParsedLine.entries

/-- Lines come to a program, or, if they are faulty, to nothing. -/
theorem assembleLines_cases (file : String) (lines : List ParsedLine)
    (fresh : a.report.errors = []) :
    let answer := (a.assembleLines file lines).1
    let after := (a.assembleLines file lines).2
    let entries := lines.flatMap ParsedLine.entries
    (Faulty lines ∧ a.Refused (lines.filterMap ParsedLine.error?).length answer after) ∨
      (¬Faulty lines ∧ after.hasErrors = false ∧ after.report.limit = a.report.limit ∧
        answer = .ok after.program ∧ link entries = .ok after.program ∧
        after.labels = .ofEntries entries) := by
  dsimp only
  cases fine : lines.filterMap ParsedLine.error? with
  | cons d rest =>
    have member : d ∈ lines.filterMap ParsedLine.error? := fine ▸ List.mem_cons_self
    obtain ⟨line, present, failed⟩ := List.mem_filterMap.mp member
    have faulty : Faulty lines :=
      .inl ⟨line, present, d, ParsedLine.error?_eq_some.mp failed⟩
    exact .inl ⟨faulty, assembleLines_refused file fresh fine⟩
  | nil =>
    have read : ¬∃ line ∈ lines, ∃ d, line.result = .error d := by
      rintro ⟨line, present, d, failed⟩
      exact filterMap_error?_eq_nil.mp fine line present d failed
    -- All lines are read, so an error can only come from the label that is resolved first in vain.
    cases resolved : resolve? (.ofEntries (lines.flatMap ParsedLine.entries))
        (lines.flatMap ParsedLine.entries) with
    | error label =>
      obtain ⟨before, after, split, free, -⟩ := resolve?_error.mp resolved
      have faulty : Faulty lines := by
        refine .inr ⟨label, by simp [split], ?_⟩
        intro defined
        exact free (LabelTable.mem_names_ofEntries.mpr defined)
      exact .inl ⟨faulty, assembleLines_unbound file fresh fine resolved⟩
    | ok program =>
      have linked := link_ok.mpr resolved
      have sound : ¬Faulty lines := by
        rintro (failed | ⟨label, refers, undefined⟩)
        · exact read failed
        · exact undefined (LabelTable.mem_names_ofEntries.mp
            ((resolve?_ok.mp resolved).1 label refers))
      rw [assembleLines_linked file fresh fine linked]
      refine .inr ⟨sound, ?_, rfl, rfl, linked, rfl⟩
      rw [hasErrors, Report.hasErrors, warned, fresh]
      rfl

/-- Whether an assembler has no program to show. -/
structure Empty (a : Assembler) : Prop where
  program : a.program = []
  words : a.words = .ok []
  code : a.code = .ok []
  labels : a.labels = []
  listing : a.listing = .ok ""

theorem empty_of (program : a.program = []) (labels : a.labels = []) : a.Empty := by
  have words : a.words = .ok [] := by rw [Assembler.words, program, encodeAll]
  refine ⟨program, words, ?_, labels, ?_⟩
  · rw [code, words]
    rfl
  · rw [listing, program, labels]
    rfl

theorem assemble_unread {numeral : Oversized} (parsed : parseSource source file = .error numeral) :
    a.assemble source file = (.error (.oversized numeral), a.begin file) := by
  rw [assemble, parsed]

/-- A source text whose lines can be read is assembled all or nothing. -/
theorem assemble_read (parsed : parseSource source file = .ok lines) :
    let (answer, after) := a.assemble source file
    let entries := lines.flatMap ParsedLine.entries
    after.lines = lines ∧
      (after.hasErrors = true ↔ Faulty lines) ∧
      (after.hasErrors = true → after.Empty ∧
        answer = refusal a.report.limit (lines.filterMap ParsedLine.error?).length) ∧
      (after.hasErrors = false → answer = .ok after.program ∧ link entries = .ok after.program ∧
        after.labels = .ofEntries entries) := by
  rw [assemble, parsed]
  dsimp only
  rcases assembleLines_cases (a := a.begin file) file lines rfl with
    ⟨faulty, refused⟩ | ⟨sound, clean, -, answered, linked, labels⟩
  · refine ⟨assembleLines_lines, iff_of_true refused.hasErrors faulty, ?_, ?_⟩
    · intro _
      exact ⟨empty_of refused.program refused.labels, refused.answer⟩
    · intro clean
      cases clean.symm.trans refused.hasErrors
  · refine ⟨assembleLines_lines, ?_, ?_, fun _ => ⟨answered, linked, labels⟩⟩
    · rw [clean]
      exact iff_of_false Bool.false_ne_true sound
    · intro some
      cases clean.symm.trans some

/-! ### Source texts one after another -/

/-- An assembler that was given some source texts, each with the name of its file. -/
def session (limit : Int) (runs : List (String × String)) : Assembler :=
  runs.foldl (fun a run => (a.assemble run.1 run.2).2) (withLimit limit)

theorem assemble_limit : (a.assemble source file).2.report.limit = a.report.limit := by
  unfold assemble
  split
  · rfl
  · rename_i lines _
    rcases assembleLines_cases (a := a.begin file) file lines rfl with
      ⟨-, refused⟩ | ⟨-, -, kept, -⟩
    · exact refused.limit
    · exact kept

theorem session_limit (limit : Int) (runs : List (String × String)) :
    (session limit runs).report.limit = limit := by
  have onward (a : Assembler) :
      (runs.foldl (fun a run => (a.assemble run.1 run.2).2) a).report.limit = a.report.limit := by
    induction runs generalizing a with
    | nil => rfl
    | cons run runs ih => exact (ih _).trans assemble_limit
  exact onward (withLimit limit)

/-- Before a source text is read, only the lines tell assemblers of one limit apart. -/
theorem begin_eq (same : a.report.limit = b.report.limit) :
    a.begin file = { b.begin file with lines := a.lines } := by
  rw [begin, begin, Report.clear, Report.clear, same]

theorem assemble_eq (same : a.report.limit = b.report.limit)
    (parsed : parseSource source file = .ok lines) :
    a.assemble source file = b.assemble source file := by
  have replaced : ({ b.begin file with lines := a.lines } : Assembler).assembleLines file lines =
      (b.begin file).assembleLines file lines := rfl
  rw [assemble, assemble, parsed, begin_eq same]
  dsimp only
  rw [replaced]

/-- What an assembler answers and holds after a source text is what one that is given that text
alone does, but for the lines if a numeral is too long to convert. It is all or nothing: if an error
is reported, there is no program to show, and otherwise there is the one that the lines link to. -/
theorem assemble_in_session (limit : Int) (runs : List (String × String)) (source file : String) :
    ((session limit runs).assemble source file).1 = ((withLimit limit).assemble source file).1 ∧
    let before := session limit runs
    let (answer, after) := before.assemble source file
    let fresh := ((withLimit limit).assemble source file).2
    (∀ numeral, parseSource source file = .error numeral →
      answer = .error (.oversized numeral) ∧ after = { fresh with lines := before.lines } ∧
        after.hasErrors = false ∧ after.Empty) ∧
    (∀ lines, parseSource source file = .ok lines →
      let entries := lines.flatMap ParsedLine.entries
      let failing := (lines.filterMap ParsedLine.error?).length
      after = fresh ∧ after.lines = lines ∧
        lineResults source file = lines.map (fun line => .ok line.result) ∧
        (after.hasErrors = true ↔ (∃ d, .ok (.error d) ∈ lineResults source file) ∨
          ∃ label, .ref label ∈ entries ∧ .mark label ∉ entries) ∧
        (after.hasErrors = true → after.Empty ∧
          answer =
            if limit ≤ max failing 1 ∧ 10 ^ decimalLimit ≤ limit.natAbs then .error .unwritable
            else .ok []) ∧
        (after.hasErrors = false → answer = .ok after.program ∧ link entries = .ok after.program ∧
          after.labels = .ofEntries entries)) := by
  have same : (session limit runs).report.limit = (withLimit limit).report.limit :=
    session_limit limit runs
  dsimp only
  cases parsed : parseSource source file with
  | error numeral =>
    rw [assemble_unread parsed, assemble_unread parsed]
    refine ⟨rfl, ?_, ?_⟩
    · intro other found
      cases found
      exact ⟨rfl, begin_eq same, rfl, empty_of rfl rfl⟩
    · intro read none
      cases none
  | ok lines =>
    -- What one call comes to is known of every assembler, so this one need not be unrolled.
    have equal := assemble_eq same parsed
    obtain ⟨kept, reported, refused, accepted⟩ := assemble_read (a := session limit runs) parsed
    rw [session_limit] at refused
    have results : lineResults source file = lines.map fun line => .ok line.result :=
      parseLinesFrom_results parsed
    have failing : (∃ line ∈ lines, ∃ d, line.result = .error d) ↔
        ∃ d, .ok (.error d) ∈ lineResults source file := by
      rw [results]
      simp only [List.mem_map, Except.ok.injEq]
      exact ⟨fun ⟨line, member, d, failed⟩ => ⟨d, line, member, failed⟩,
        fun ⟨d, line, member, failed⟩ => ⟨line, member, d, failed⟩⟩
    refine ⟨congrArg (·.1) equal, ?_, ?_⟩
    · intro numeral none
      cases none
    · intro read found
      cases found
      exact ⟨congrArg (·.2) equal, kept, results, reported.trans (or_congr_left failing), refused,
        accepted⟩

/-- A numeral that is too long to convert hides the problem of the line before it, and leaves the
lines of the text that was assembled before. -/
theorem assemble_in_session_unread :
    let source := String.ofList
      ("bogus".toList ++ "\nset R0, ".toList ++ '1' :: List.replicate 4300 '0')
    let ran := (session 100 [("nop", "first")]).assemble source "late"
    (∃ d, parseLine "bogus" 1 "late" = .ok (.error d)) ∧ ran.1 = .error (.oversized ⟨4301⟩) ∧
      ran.2.hasErrors = false ∧ ran.2.lines = [⟨1, "nop", .ok [.code .nop]⟩] ∧
      ((withLimit 100).assemble source "late").2.lines = [] := by
  have failed : parseLine "bogus" 1 "late" = .ok (.error
      { problem := .mnemonic "bogus", location? := some { file := "late", line := 1 },
        sourceLine? := some "bogus" }) := by rfl
  have unbroken : ∀ c ∈ "bogus".toList, isLineBreak c = false := by
    have plain : Plain "bogus".toList := by
      show Plain ['b', 'o', 'g', 'u', 's']
      decide
    exact fun c inside => isLineBreak_of_unblank (plain.unblank c inside)
  have unread := parseSource_zeros unbroken failed (show decimalLimit ≤ 4300 by decide)
  intro source ran
  have stopped :
      ran = (.error (.oversized ⟨4301⟩), (session 100 [("nop", "first")]).begin "late") :=
    assemble_unread unread
  rw [stopped, assemble_unread unread]
  exact ⟨⟨_, failed⟩, rfl, rfl, rfl, rfl⟩

end Assembler

end DeskComputer
