import DeskComputer.Command.Tool
import DeskComputer.Host.Arguments
import DeskComputer.Host.Codecs
import DeskComputer.Host.Styling

/-!
# The tools on this console

The console that the tools run on: the grammar of options, and printing without terminal styling.
Options that only inform come before all others.
-/

namespace DeskComputer.Host

open Command (Console Files Outcome Parsed Path)

inductive Tool where
  | assemble | run
  deriving DecidableEq, Repr

namespace Tool

def name : Tool → String
  | .assemble => "kjasm"
  | .run => "kjrun"

def ofName? (name : String) : Option Tool := [Tool.assemble, .run].find? (·.name == name)

def optionNames : Tool → OptionNames
  | .assemble => assembleNames
  | .run => runNames

def usageLine (t : Tool) : String := s!"Usage: {t.name} [OPTIONS] INPUT_FILE\n"

def versionText (t : Tool) : String := t.name ++ ", version 1.0.0\n"

def helpText (t : Tool) : String :=
  let lines := t.optionNames.long.map fun (name, choice) =>
    "  " ++ name ++ (if choice.takesValue then " VALUE" else "") ++ "\n"
  t.usageLine ++ "\nOptions:\n" ++ String.join lines

/-- The path texts that a tool may read or write. -/
def paths (t : Tool) (args : List String) : List String :=
  match parseArguments t.optionNames args with
  | .error _ => []
  | .ok a =>
    let outputs := a.values .output
    let sources := a.operands.take 1
    let defaults := sources.map fun path => ((Path.ofString path).withSuffix ".bin").text
    let given := sources ++ outputs
    given ++ given.map (fun path => (Path.ofString path).text) ++ defaults

/-- The arguments of a tool, read by its own options unless they ask for information. -/
def parse {ω : Type} (t : Tool) (read : Arguments → Except UsageFault ω) (args : List String) :
    Except UsageFault (Parsed ω) := do
  let a ← parseArguments t.optionNames args
  match a.uses.find? fun use => use.1 = .version || use.1 = .help with
  | some (.version, _) => return .exit 0 t.versionText ""
  | some _ => return .exit 0 t.helpText ""
  | none => return .options (← read a)

/-- A fault in the arguments ends a tool: one of usage with two, anything else with one. -/
def refused {ω : Type} (t : Tool) (fault : UsageFault) : Parsed ω :=
  let code := if fault = .zeroInPath then 1 else 2
  .exit code "" (t.usageLine ++ s!"Error: {fault.message}\n")

/-- What arguments come to on this console. -/
def answer {ω : Type} (t : Tool) (parsed : Except UsageFault (Parsed ω)) : Parsed ω :=
  match parsed with
  | .ok parsed => parsed
  | .error fault => t.refused fault

theorem answer_silent {ω : Type} {t : Tool} {read : Arguments → Except UsageFault ω}
    {args : List String} {code : Nat} {out err : String}
    (exit : t.answer (t.parse read args) = .exit code out err) (failed : code ≠ 0) : out = "" := by
  cases parsed : t.parse read args with
  | error fault =>
    rw [parsed] at exit
    cases exit
    rfl
  | ok found =>
    rw [parsed] at exit
    obtain rfl : found = .exit code out err := exit
    unfold parse at parsed
    cases given : parseArguments t.optionNames args with
    | error fault =>
      rw [given] at parsed
      cases parsed
    | ok a =>
      rw [given] at parsed
      simp only [bind, Except.bind, pure, Except.pure] at parsed
      split at parsed
      · cases parsed
        exact absurd rfl failed
      · cases parsed
        exact absurd rfl failed
      · split at parsed
        · cases parsed
        · cases parsed

end Tool

/-- The console that the tools run on. -/
def console : Console where
  assembleOptions files args :=
    Tool.assemble.answer (Tool.assemble.parse (readAssembleOptions files) args)
  runOptions files args := Tool.run.answer (Tool.run.parse (readRunOptions files) args)
  echo text := unstyled text ++ "\n"
  echo_plain plain := congrArg (· ++ "\n") (unstyled_plain plain)
  refused_silent := Tool.answer_silent

def Tool.main (t : Tool) (files : Files) (env : List (String × String)) (args : List String) :
    Outcome :=
  match t with
  | .assemble => console.kjasm files args
  | .run => console.kjrun codecs files env args

end DeskComputer.Host
