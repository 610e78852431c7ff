import DeskComputer.Proofs.Program.Assembly
import DeskComputer.Proofs.Source.LetterCase
import Mathlib.Data.List.Forall2

/-!
# Letter case in programs

Source texts without quotes that differ in the case of letters come to one program with one table of
labels, or are refused for problems of one kind at one place. Main statement:
`assembleSource_case_insensitive`.
-/

namespace DeskComputer

open Source Text

/-- Two outcomes of assembling that are the same, or diagnostics that are alike. -/
inductive SameOutcome : Except Fault (List Entry) → Except Fault (List Entry) → Prop where
  | program (program : List Entry) : SameOutcome (.ok program) (.ok program)
  | problems {d e : Diagnostic} :
      d.Alike e → SameOutcome (.error (.assembly d)) (.error (.assembly e))
  | oversized (numeral : Oversized) :
      SameOutcome (.error (.oversized numeral)) (.error (.oversized numeral))

theorem SameOutcome.of_ok {outcome : Except Fault (List Entry)} {program : List Entry}
    (h : SameOutcome (.ok program) outcome) : outcome = .ok program := by
  cases h
  rfl

section Lines

variable {lines others : List ParsedLine}

theorem referringLine?_cased (same : List.Forall₂ SameLine lines others) (label : String) :
    (Assembler.referringLine? lines label).map ParsedLine.number =
      (Assembler.referringLine? others label).map ParsedLine.number := by
  unfold Assembler.referringLine?
  induction same with
  | nil => rfl
  | @cons line other lines others first _ ih =>
    rw [List.find?_cons, List.find?_cons, first.entries]
    split
    · exact congrArg some first.number
    · exact ih

theorem unresolvedAt_eq (file : String) (lines : List ParsedLine) (table : LabelTable)
    (label : String) :
    (Assembler.unresolvedAt file lines table label).problem = unresolvedIn table label ∧
      (Assembler.unresolvedAt file lines table label).location? =
        ((Assembler.referringLine? lines label).map ParsedLine.number).map fun number =>
          { file, line := number } := by
  unfold Assembler.unresolvedAt
  cases Assembler.referringLine? lines label with
  | none => exact ⟨rfl, rfl⟩
  | some line => exact ⟨rfl, rfl⟩

theorem unresolvedAt_cased (same : List.Forall₂ SameLine lines others) (file : String)
    (table : LabelTable) (label : String) :
    (Assembler.unresolvedAt file lines table label).Alike
      (Assembler.unresolvedAt file others table label) := by
  obtain ⟨problem, location⟩ := unresolvedAt_eq file lines table label
  obtain ⟨problem', location'⟩ := unresolvedAt_eq file others table label
  constructor
  · rw [problem, problem']
    rfl
  · rw [location, location', referringLine?_cased same]

end Lines

section Sources

variable {a b : String}

theorem toList_toLower (a : String) : a.toLower.toList = a.toList.map Char.toLower :=
  String.toList_map

theorem parseSource_cased (same : a.toLower = b.toLower) (unquoted : '\'' ∉ a.toList)
    (file : String) :
    List.Forall₂ (Both SameResult) (lineResults a file) (lineResults b file) ∧
      Both (List.Forall₂ SameLine) (parseSource a file) (parseSource b file) := by
  have letters : a.toList.map Char.toLower = b.toList.map Char.toLower := by
    rw [← toList_toLower, same, toList_toLower]
  have lines : (splitLines a.toList).map (List.map Char.toLower) =
      (splitLines b.toList).map (List.map Char.toLower) := by
    rw [← splitLines_toLower, letters, splitLines_toLower]
  have plain : ∀ line ∈ splitLines a.toList, '\'' ∉ line :=
    fun line member quote => unquoted (mem_of_mem_splitLines a.toList line member quote)
  exact ⟨resultsFrom_cased lines plain 1 file, parseLinesFrom_cased lines plain 1 file⟩

/-- What source texts with the same lines come to. -/
theorem assembleSource_cased {lines lines' : List ParsedLine} {file : String}
    (parsed : parseSource a file = .ok lines) (parsed' : parseSource b file = .ok lines')
    (same : List.Forall₂ SameLine lines lines') :
    SameOutcome (assembleSource a file) (assembleSource b file) := by
  have entries := entries_cased same
  have errors := errors_cased same
  cases failed : lines.filterMap ParsedLine.error? with
  | cons d rest =>
    rw [failed] at errors
    obtain ⟨e, rest', alike, -, failed'⟩ := List.forall₂_cons_left_iff.mp errors
    rw [assembleSource_failed parsed failed, assembleSource_failed parsed' failed']
    exact .problems alike
  | nil =>
    rw [failed] at errors
    have fine := List.forall₂_nil_left_iff.mp errors
    cases resolved : resolve? (.ofEntries (lines.flatMap ParsedLine.entries))
        (lines.flatMap ParsedLine.entries) with
    | error label =>
      rw [assembleSource_dangling parsed failed resolved,
        assembleSource_dangling parsed' fine (entries ▸ resolved), ← entries]
      exact .problems (unresolvedAt_cased same file _ label)
    | ok program =>
      have linked := link_ok.mpr resolved
      rw [assembleSource_linked parsed failed linked,
        assembleSource_linked parsed' fine (entries ▸ linked)]
      exact .program program

/-- Source texts without quotes that differ in the case of letters are alike line by line. They come
to one program, with one table of labels in any assembler, or are refused for problems of one kind
at one place, or for one numeral that is too long. -/
theorem assembleSource_case_insensitive (same : a.toLower = b.toLower)
    (unquoted : '\'' ∉ a.toList) (file : String) :
    List.Forall₂ (Both SameResult) (lineResults a file) (lineResults b file) ∧
    SameOutcome (assembleSource a file) (assembleSource b file) ∧
    ∀ program, assembleSource a file = .ok program → ∀ assembler : Assembler,
      (assembler.assemble a file).2.labels = (assembler.assemble b file).2.labels := by
  obtain ⟨results, both⟩ := parseSource_cased same unquoted file
  refine ⟨results, ?_⟩
  cases parsed : parseSource a file with
  | error numeral =>
    rw [parsed] at both
    rw [assembleSource_oversized.mpr parsed, assembleSource_oversized.mpr both.of_error]
    exact ⟨.oversized numeral, by simp⟩
  | ok lines =>
    rw [parsed] at both
    obtain ⟨lines', parsed', alike⟩ := both.of_ok
    have outcome := assembleSource_cased parsed parsed' alike
    refine ⟨outcome, fun program assembled assembler => ?_⟩
    rw [assembled] at outcome
    have assembled' := outcome.of_ok
    obtain ⟨own, read, -, -, -, -, -, labels⟩ := assembler.assemble_ok assembled
    obtain ⟨own', read', -, -, -, -, -, labels'⟩ := assembler.assemble_ok assembled'
    rw [parsed] at read
    rw [parsed'] at read'
    cases read
    cases read'
    rw [labels, labels', entries_cased alike]

/-- A label and a register in letters of both cases. -/
theorem assembleSource_case_insensitive_mixed :
    "End:\nset B, end".toLower = "eND:\nSET b, END".toLower ∧ '\'' ∉ "End:\nset B, end".toList ∧
    assembleSource "End:\nset B, end" "late" = .ok [.code (.unary .set 1), .data 0] ∧
    SameOutcome (assembleSource "End:\nset B, end" "late")
      (assembleSource "eND:\nSET b, END" "late") := by
  have same : "End:\nset B, end".toLower = "eND:\nSET b, END".toLower := by
    apply String.toList_injective
    rw [toList_toLower, toList_toLower]
    decide
  have unquoted : '\'' ∉ "End:\nset B, end".toList := by decide
  exact ⟨same, unquoted, by rfl, (assembleSource_case_insensitive same unquoted "late").2.1⟩

end Sources

end DeskComputer
