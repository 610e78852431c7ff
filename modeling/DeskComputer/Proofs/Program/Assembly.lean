import DeskComputer.Program.Assembler
import DeskComputer.Proofs.Program.Linking
import DeskComputer.Proofs.Program.Reports
import DeskComputer.Proofs.Source.Alignment

/-!
# Assembled programs

A source text that assembles has no line with a problem, and its program is linked from the entries
of its lines; another is refused for the first problem. Such a program is `Assembled`: instructions
whose fields fit, each `set` with its byte right behind it, and nothing else.
-/

namespace DeskComputer

open Source

/-- Whole statements without labels. -/
inductive Assembled : List Entry → Prop where
  | nil : Assembled []
  | plain {inst : Instruction (Fin 4)} {rest : List Entry} :
      inst.opcode ≠ .unary .set → Assembled rest → Assembled (.code inst.widen :: rest)
  | set {r : Fin 4} {byte : Nat} {rest : List Entry} :
      byte < 256 → Assembled rest →
      Assembled (.code (Instruction.unary .set r).widen :: .data byte :: rest)

theorem Entry.resolved_operand {operand : Entry} (h : operand.IsOperand) (table : LabelTable) :
    operand.takesSlot = true ∧
      ∃ byte : Nat, byte < 256 ∧ operand.resolved table = .data byte := by
  cases operand with
  | data value =>
    obtain ⟨byte, rfl, small⟩ := h
    exact ⟨rfl, byte, small, rfl⟩
  | ref label =>
    refine ⟨rfl, ((table.lookup label).getD 0 % 256).toNat, by omega, ?_⟩
    rw [resolved, Int.toNat_of_nonneg (Int.emod_nonneg _ (by decide))]
  | code inst => cases h
  | mark name => cases h

/-- Resolving turns whole statements into an assembled program. -/
theorem Aligned.assembled {entries : List Entry} (h : Aligned entries) (table : LabelTable) :
    Assembled ((entries.filter Entry.takesSlot).map (Entry.resolved table)) := by
  induction h with
  | nil => exact .nil
  | mark _ ih => exact ih
  | plain other _ ih => exact .plain other ih
  | @set r operand rest operandFits _ ih =>
    obtain ⟨slot, byte, small, same⟩ := Entry.resolved_operand operandFits table
    rw [List.filter_cons_of_pos rfl, List.filter_cons_of_pos slot, List.map_cons, List.map_cons,
      same]
    exact .set small ih

/-! ### Sources -/

section Sources

variable {a : Assembler} {source file label : String} {lines : List ParsedLine}
  {program : List Entry} {d : Diagnostic} {rest : List Diagnostic}

namespace Assembler

/-- A report with a warning of each label that lines define again. -/
def warned (file : String) (lines : List ParsedLine) (r : Report Diagnostic) : Report Diagnostic :=
  { r with
    warnings := r.warnings ++
      (lineRedefinitions [] (marks lines)).map (LineRedefinition.warning file) }

theorem assembleLines_failed (file : String) (fresh : a.report.errors = [])
    (failed : lines.filterMap ParsedLine.error? = d :: rest) :
    a.assembleLines file lines =
      ((a.report.addAll (d :: rest)).1.map fun _ => [],
        { a with report := (a.report.addAll (d :: rest)).2, lines }) := by
  obtain ⟨more, kept⟩ := a.report.addAll_errors d rest
  have some : (a.report.addAll (d :: rest)).2.hasErrors = true := by
    rw [Report.hasErrors_iff, kept, fresh]
    exact List.cons_ne_nil d more
  unfold assembleLines
  dsimp only
  rw [failed, if_pos some]

theorem assembleLines_dangling (file : String) (fresh : a.report.errors = [])
    (fine : lines.filterMap ParsedLine.error? = [])
    (dangling : resolve? (.ofEntries (lines.flatMap ParsedLine.entries))
      (lines.flatMap ParsedLine.entries) = .error label) :
    let binding := Binding.ofEntries (lines.flatMap ParsedLine.entries)
    let added :=
      (warned file lines a.report).addOrStop (unresolvedAt file lines binding.table label)
    a.assembleLines file lines =
      (added.1.map fun _ => [],
        { a with report := added.2, lines, redefinitions := binding.redefinitions }) := by
  have clean : ¬a.report.hasErrors = true := fun some => Report.hasErrors_iff.mp some fresh
  unfold LabelTable.ofEntries at dangling
  unfold assembleLines
  dsimp only
  rw [fine, Report.addAll, if_neg clean, dangling, Report.addWarnings_eq]
  rfl

theorem assembleLines_linked (file : String) (fresh : a.report.errors = [])
    (fine : lines.filterMap ParsedLine.error? = [])
    (linked : link (lines.flatMap ParsedLine.entries) = .ok program) :
    let binding := Binding.ofEntries (lines.flatMap ParsedLine.entries)
    a.assembleLines file lines =
      (.ok program,
        { a with
          report := warned file lines a.report
          lines
          redefinitions := binding.redefinitions
          program
          labels := binding.table }) := by
  have clean : ¬a.report.hasErrors = true := fun some => Report.hasErrors_iff.mp some fresh
  have resolved := link_ok.mp linked
  unfold LabelTable.ofEntries at resolved
  unfold assembleLines
  dsimp only
  rw [fine, Report.addAll, if_neg clean, resolved, Report.addWarnings_eq]
  rfl

/-- Lines are answered by a program if the limit can be written. -/
theorem assembleLines_answers (file : String) (lines : List ParsedLine)
    (fresh : a.report.errors = []) (short : Text.isWritable a.report.limit = true) :
    ∃ program, (a.assembleLines file lines).1 = .ok program := by
  cases fine : lines.filterMap ParsedLine.error? with
  | cons d rest =>
    rw [assembleLines_failed file fresh fine, Report.addAll_answers short]
    exact ⟨[], rfl⟩
  | nil =>
    cases resolved : resolve? (.ofEntries (lines.flatMap ParsedLine.entries))
        (lines.flatMap ParsedLine.entries) with
    | error label =>
      obtain ⟨onward, answered⟩ := Report.addOrStop_answers (r := warned file lines a.report) short
        (unresolvedAt file lines (.ofEntries (lines.flatMap ParsedLine.entries)) label)
      rw [assembleLines_dangling file fresh fine resolved]
      exact ⟨[], congrArg (Except.map fun _ => []) answered⟩
    | ok program =>
      rw [assembleLines_linked file fresh fine (link_ok.mpr resolved)]
      exact ⟨program, rfl⟩

end Assembler

theorem isWritable_default (file : String) :
    Text.isWritable (Assembler.begin {} file).report.limit = true :=
  Text.isWritable_small (n := 100) (by decide)

theorem assembleSource_oversized {numeral : Text.Oversized} :
    assembleSource source file = .error (.oversized numeral) ↔
      parseSource source file = .error numeral := by
  rw [assembleSource, Assembler.assemble]
  cases parseSource source file with
  | error other => simp
  | ok lines =>
    obtain ⟨program, answered⟩ :=
      Assembler.assembleLines_answers file lines rfl (isWritable_default file)
    cases run : (Assembler.begin {} file).assembleLines file lines with
    | mk answer after =>
      rw [run] at answered
      cases answered
      dsimp only
      rw [run]
      dsimp only
      split <;> simp

theorem assembleSource_failed (parsed : parseSource source file = .ok lines)
    (failed : lines.filterMap ParsedLine.error? = d :: rest) :
    assembleSource source file = .error (.assembly d) := by
  obtain ⟨more, kept⟩ := (Assembler.begin {} file).report.addAll_errors d rest
  rw [assembleSource, Assembler.assemble, parsed]
  dsimp only
  rw [Assembler.assembleLines_failed file rfl failed, kept,
    Report.addAll_answers (isWritable_default file)]
  rfl

theorem assembleSource_dangling (parsed : parseSource source file = .ok lines)
    (fine : lines.filterMap ParsedLine.error? = [])
    (dangling : resolve? (.ofEntries (lines.flatMap ParsedLine.entries))
      (lines.flatMap ParsedLine.entries) = .error label) :
    assembleSource source file = .error (.assembly (Assembler.unresolvedAt file lines
      (.ofEntries (lines.flatMap ParsedLine.entries)) label)) := by
  let report := Assembler.warned file lines (Assembler.begin {} file).report
  obtain ⟨more, kept⟩ := report.addOrStop_errors (Assembler.unresolvedAt file lines
    (.ofEntries (lines.flatMap ParsedLine.entries)) label)
  obtain ⟨onward, answered⟩ := Report.addOrStop_answers (r := report) (isWritable_default file)
    (Assembler.unresolvedAt file lines (.ofEntries (lines.flatMap ParsedLine.entries)) label)
  rw [LabelTable.ofEntries] at kept answered
  rw [assembleSource, Assembler.assemble, parsed]
  dsimp only
  rw [Assembler.assembleLines_dangling file rfl fine dangling, kept, answered]
  rfl

theorem assembleSource_linked (parsed : parseSource source file = .ok lines)
    (fine : lines.filterMap ParsedLine.error? = [])
    (linked : link (lines.flatMap ParsedLine.entries) = .ok program) :
    assembleSource source file = .ok program := by
  rw [assembleSource, Assembler.assemble, parsed]
  dsimp only
  rw [Assembler.assembleLines_linked file rfl fine linked]
  rfl

/-- A source text comes to the program that its lines link to, if none of them has a problem. -/
theorem assembleSource_ok :
    assembleSource source file = .ok program ↔
      ∃ lines, parseSource source file = .ok lines ∧
        lines.filterMap ParsedLine.error? = [] ∧
        link (lines.flatMap ParsedLine.entries) = .ok program := by
  constructor
  · intro h
    cases parsed : parseSource source file with
    | error numeral =>
      rw [assembleSource_oversized.mpr parsed] at h
      cases h
    | ok lines =>
      cases fine : lines.filterMap ParsedLine.error? with
      | cons d rest =>
        rw [assembleSource_failed parsed fine] at h
        cases h
      | nil =>
        cases resolved : resolve? (.ofEntries (lines.flatMap ParsedLine.entries))
            (lines.flatMap ParsedLine.entries) with
        | error label =>
          rw [assembleSource_dangling parsed fine resolved] at h
          cases h
        | ok linked =>
          rw [assembleSource_linked parsed fine (link_ok.mpr resolved)] at h
          cases h
          exact ⟨lines, rfl, fine, link_ok.mpr resolved⟩
  · rintro ⟨lines, parsed, fine, linked⟩
    exact assembleSource_linked parsed fine linked

/-- What any assembler makes of a source text that assembles. -/
theorem Assembler.assemble_ok (a : Assembler) (h : assembleSource source file = .ok program) :
    ∃ lines, parseSource source file = .ok lines ∧ lines.filterMap ParsedLine.error? = [] ∧
      link (lines.flatMap ParsedLine.entries) = .ok program ∧
      (a.assemble source file).1 = .ok program ∧
      (a.assemble source file).2.hasErrors = false ∧
      (a.assemble source file).2.lines = lines ∧
      (a.assemble source file).2.labels = .ofEntries (lines.flatMap ParsedLine.entries) := by
  obtain ⟨lines, parsed, fine, linked⟩ := assembleSource_ok.mp h
  refine ⟨lines, parsed, fine, linked, ?_⟩
  rw [assemble, parsed]
  dsimp only
  rw [assembleLines_linked file rfl fine linked]
  exact ⟨rfl, rfl, rfl, rfl⟩

/-- The lines and the labels that an assembler keeps of a source text that assembles. -/
theorem assemble_of_assembleSource (h : assembleSource source file = .ok program) :
    parseSource source file = .ok (({} : Assembler).assemble source file).2.lines ∧
      link ((({} : Assembler).assemble source file).2.lines.flatMap ParsedLine.entries) =
        .ok program ∧
      (({} : Assembler).assemble source file).2.labels =
        .ofEntries ((({} : Assembler).assemble source file).2.lines.flatMap
          ParsedLine.entries) := by
  obtain ⟨lines, parsed, -, linked, -, -, sameLines, labels⟩ := Assembler.assemble_ok {} h
  rw [sameLines, labels]
  exact ⟨parsed, linked, rfl⟩

end Sources

theorem assembled_of_assembleSource {source file : String} {program : List Entry}
    (h : assembleSource source file = .ok program) : Assembled program := by
  obtain ⟨lines, parsed, -, linked⟩ := assembleSource_ok.mp h
  have whole : ∀ line ∈ lines, Contribution line.entries := parseLinesFrom_contribution parsed
  have aligned : Aligned (lines.flatMap ParsedLine.entries) := by
    rw [List.flatMap_def]
    apply Aligned.flatten
    intro entries member
    obtain ⟨line, present, rfl⟩ := List.mem_map.mp member
    exact (whole line present).aligned
  rw [(resolve?_ok.mp (link_ok.mp linked)).2]
  exact aligned.assembled _

end DeskComputer
