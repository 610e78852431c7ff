import DeskComputer.Machine.Run
import DeskComputer.Program.Assembler

/-!
# Logs

What the tools log about an assembly and about a run. Warnings are always shown; the rest only when
the tool is verbose, with the name of the part that it comes from.
-/

namespace DeskComputer.Command

inductive Level where
  | debug | info | warning
  deriving DecidableEq, Repr

def Level.name : Level → String
  | .debug => "DEBUG"
  | .info => "INFO"
  | .warning => "WARNING"

structure LogRecord where
  level : Level
  origin : String
  message : String
  deriving DecidableEq, Repr

/-- The line that a record is shown as, if it is shown. -/
def LogRecord.line? (verbose : Bool) (r : LogRecord) : Option String :=
  if verbose then some s!"{r.level.name}: {r.origin}: {r.message}"
  else if r.level = .warning then some s!"{r.level.name}: {r.message}"
  else none

def parserOrigin : String := "kijo.assembler.parser"

def assemblerOrigin : String := "kijo.assembler.assembler"

def machineOrigin : String := "kijo.emulator.machine"

def breakpointsOrigin : String := "kijo.emulator.breakpoints"

def parserLog (a : Assembler) : List LogRecord :=
  let failures := a.lines.filterMap fun line => line.error?.map fun d =>
    s!"{a.file}:{line.number}: {d.problem.message}"
  let count := s!"Parsed {a.lines.length} lines from {a.file} ({failures.length} with errors)"
  (failures ++ [count]).map fun message => ⟨.debug, parserOrigin, message⟩

def assemblyLog (a : Assembler) : List LogRecord :=
  let note (message : String) : LogRecord := ⟨.info, assemblerOrigin, message⟩
  let outcome :=
    if a.lines.any fun line => line.error?.isSome then
      [note s!"{a.report.errors.length} line(s) failed to parse"]
    else
      a.redefinitions.map (fun r => ⟨.warning, assemblerOrigin, r.message⟩) ++
        if a.hasErrors then []
        else [note s!"Assembled {a.program.length} words, {a.labels.length} labels"]
  note s!"Assembling {a.file}..." :: parserLog a ++ outcome

def loadLog (m : Machine) : List LogRecord :=
  let counts := s!"Loaded {m.words.size} words, {m.state.input.size} input bytes"
  [⟨.debug, machineOrigin, counts⟩]

def breakpointsLog (slots : List Int) : List LogRecord :=
  slots.map fun slot => ⟨.debug, breakpointsOrigin, s!"Breakpoint added at slot {slot}"⟩

def stepLog (e : Executed) : LogRecord :=
  let registers := "[" ++ ", ".intercalate (e.registersAfter.map toString) ++ "]"
  let slot := Text.upperHex 2 e.pc
  ⟨.debug, machineOrigin,
    s!"{slot}: {e.inst.opcode.mnemonic} -> pc={e.pcAfter} regs={registers}"⟩

def stopLog (r : RunResult) : List LogRecord :=
  let halted := r.machine.haltedBy.toList.map fun fault =>
    ⟨.info, machineOrigin, s!"Machine halted at pc={r.machine.state.pc}: {fault.text}"⟩
  match r.stop with
  | .ok { reason := .breakpoint, address := some slot, .. } =>
    let count := r.machine.breakpoints.hitCount slot
    [⟨.debug, breakpointsOrigin, s!"Breakpoint hit at slot {slot} (count {count})"⟩]
  | _ => halted

end DeskComputer.Command
