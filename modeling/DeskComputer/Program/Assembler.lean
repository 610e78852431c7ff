import DeskComputer.Program.Listing
import DeskComputer.Program.Report
import DeskComputer.Source.Statement

/-!
# The assembler

An `Assembler` holds the outcome of the last source text it was given: the lines, the report, and,
if nothing is wrong, the program and its labels. A source text whose lines cannot be read at all
leaves the lines of the one before, and nothing else. A limit that is too long to write fails the
assembly that reaches it. `assembleSource` answers the first error instead.
-/

namespace DeskComputer

open Source

/-- A label that a line defines although an earlier line did. -/
structure LineRedefinition where
  name : String
  line : Nat
  earlier : Nat
  deriving DecidableEq, Repr

def LineRedefinition.warning (file : String) (r : LineRedefinition) : String :=
  s!"{file}:{r.line}: label '{r.name}' redefined (previously defined on line {r.earlier})"

structure Assembler where
  report : Report Diagnostic := {}
  file : String := ""
  lines : List ParsedLine := []
  program : List Entry := []
  labels : LabelTable := []
  /-- The labels that were defined again, as their slots were counted. -/
  redefinitions : List Redefinition := []

namespace Assembler

def withLimit (limit : Int) : Assembler := { report := { limit } }

/-- The labels that lines define again, given the last line that defines each. -/
def lineRedefinitions : List (String × Nat) → List (Nat × String) → List LineRedefinition
  | _, [] => []
  | defined, (line, name) :: marks =>
    let redefinition? := (defined.lookup name).map fun earlier => ⟨name, line, earlier⟩
    redefinition?.toList ++ lineRedefinitions (bindName name line defined) marks

/-- The label definitions of lines, with their line numbers. -/
def marks (lines : List ParsedLine) : List (Nat × String) :=
  lines.flatMap fun line => line.entries.filterMap fun
    | .mark name => some (line.number, name)
    | _ => none

/-- The first line that refers to a label. -/
def referringLine? (lines : List ParsedLine) (label : String) : Option ParsedLine :=
  lines.find? fun line => line.entries.contains (.ref label)

/-- The diagnostic of a label that nothing defines, at the first line that refers to it. -/
def unresolvedAt (file : String) (lines : List ParsedLine) (table : LabelTable) (label : String) :
    Diagnostic :=
  let d : Diagnostic := { problem := unresolvedIn table label }
  match referringLine? lines label with
  | some line => d.locate { file, line := line.number } (some line.text)
  | none => d

/-- The assembler before it reads a source text: only the lines of the last one are left. -/
def begin (a : Assembler) (file : String) : Assembler :=
  { a with report := a.report.clear, file, program := [], labels := [], redefinitions := [] }

/-- Assembles the lines of a source text. Answers the program, which is empty if anything is
wrong, unless the limit on errors is reached and cannot be written. -/
def assembleLines (a : Assembler) (file : String) (lines : List ParsedLine) :
    Except Fault (List Entry) × Assembler :=
  let (added, report) := a.report.addAll (lines.filterMap ParsedLine.error?)
  let a := { a with report, lines }
  if report.hasErrors then (added.map fun () => [], a)
  else
    let entries := lines.flatMap ParsedLine.entries
    let binding := Binding.ofEntries entries
    let again := lineRedefinitions [] (marks lines)
    let report := (again.map (LineRedefinition.warning file)).foldl Report.addWarning report
    let a := { a with report, redefinitions := binding.redefinitions }
    match resolve? binding.table entries with
    | .error label =>
      let (added, report) := report.addOrStop (unresolvedAt file lines binding.table label)
      (added.map fun _ => [], { a with report })
    | .ok program => (.ok program, { a with program, labels := binding.table })

/-- Assembles a source text. Answers the program, unless the lines cannot be read. -/
def assemble (a : Assembler) (source file : String) : Except Fault (List Entry) × Assembler :=
  match parseSource source file with
  | .error numeral => (.error (.oversized numeral), a.begin file)
  | .ok lines => (a.begin file).assembleLines file lines

def hasErrors (a : Assembler) : Bool := a.report.hasErrors

def words (a : Assembler) : Except Fault (List String) := encodeAll a.program

def code (a : Assembler) : Except Fault (List Nat) := do return (← a.words).map Word.toByte

/-- The program and its labels as they are listed. -/
def listing (a : Assembler) : Except Fault String := DeskComputer.listing a.program a.labels

end Assembler

/-- The program of a source text, or its first error. -/
def assembleSource (source file : String) : Except Fault (List Entry) :=
  match ({} : Assembler).assemble source file with
  | (.error fault, _) => .error fault
  | (.ok program, a) =>
    match a.report.errors with
    | d :: _ => .error (.assembly d)
    | [] => .ok program

end DeskComputer
