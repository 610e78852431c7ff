import DeskComputer.Command.Console
import DeskComputer.Command.Log
import DeskComputer.Dump
import DeskComputer.Settings

/-!
# The tools

`kjasm` assembles a source file into words, bytes or a listing, and `kjrun` assembles and runs one.
A tool is a function of its arguments, the environment and the files: it answers with an exit code,
what it prints, and the files as it leaves them. What a tool says goes through its console; what it
logs, and what it saves, is kept as it is.
-/

namespace DeskComputer.Command

/-- What a tool leaves. -/
structure Outcome where
  exitCode : Nat := 0
  out : String := ""
  err : String := ""
  files : Files
  written : Option (Path × List Nat) := none

def inLines (lines : List String) : String := String.join (lines.map (· ++ "\n"))

/-- The log records that are shown. -/
def logged (verbose : Bool) (records : List LogRecord) : String :=
  inLines (records.filterMap (LogRecord.line? verbose))

/-- Whether a fault is one of the assembler, the codec or the machine. -/
def isOwn : Fault → Bool
  | .general _ | .assembly _ | .codec _ | .encoding _ _ | .machine _ | .outOfProgram _ _ | .halted
  | .haltedBy _ => true
  | _ => false

/-- The exit code and the line for a fault of a tool at its work. -/
def faultExit (work : String) (fault : Fault) : Nat × String :=
  if isOwn fault then (1, s!"{work} error: {fault.text}")
  else
    match fault with
    | .sourceMissing _ | .file .missing _ => (2, s!"Error: {fault.text}")
    | _ => (3, s!"Internal error: {fault.text}")

def assembleFile (files : Files) (path : Path) : Except Fault Assembler := do
  let source ← files.readSource path
  match ({} : Assembler).assemble source path.text with
  | (.error fault, _) => throw fault
  | (.ok _, a) => return a

def assembleFileProgram (files : Files) (path : Path) : Except Fault (List Entry) := do
  let source ← files.readSource path
  assembleSource source path.text

def textBytes (text : String) : List Nat := text.toList.flatMap fun c => Text.utf8Bytes c.toNat

namespace Console

variable (c : Console)

/-- Texts as they are printed one after the other. -/
def echoes (texts : List String) : String := String.join (texts.map c.echo)

/-- The outcome of a fault after some text on the error output. -/
def failing (files : Files) (work : String) (err : String) (fault : Fault) : Outcome :=
  let (exitCode, line) := faultExit work fault
  { exitCode, err := err ++ c.echo line, files }

end Console

/-! ### Assembling -/

inductive Product where
  | print (lines : List String)
  /-- A file, and a line about it when the tool is verbose. -/
  | save (path : Path) (bytes : List Nat) (note : Option String)

def productOf (o : AssembleOptions) (a : Assembler) : Except Fault Product :=
  if o.binary then do
    let path := o.output.getD (o.source.withSuffix ".bin")
    let bytes ← a.code
    return .save path bytes (some s!"Wrote {bytes.length} bytes to {path.text}")
  else if o.listing then do
    let listing ← a.listing
    match o.output with
    | some path => return .save path (textBytes (listing ++ "\n")) none
    | none => return .print [listing]
  else do
    let words ← a.words
    match o.output with
    | some path => return .save path (textBytes ("\n".intercalate words ++ "\n")) none
    | none => return .print words

def completion (a : Assembler) : String :=
  String.join
    ["Assembly complete: ", toString a.program.length, " words, ", toString a.labels.length,
      " labels"]

namespace Console

variable (c : Console)

/-- Prints or saves the product of an assembly, after some text on the error output. -/
def deliver (files : Files) (o : AssembleOptions) (a : Assembler) (err : String) : Outcome :=
  let last := c.echoes (if o.verbose then [completion a] else [])
  match productOf o a with
  | .error fault => c.failing files "Assembly" err fault
  | .ok (.print lines) => { out := c.echoes lines, err := err ++ last, files }
  | .ok (.save path bytes note) =>
    match files.write path bytes with
    | .error p => c.failing files "Assembly" err (.file p path.text)
    | .ok after =>
      let note := c.echoes (if o.verbose then note.toList else [])
      { err := err ++ note ++ last, files := after, written := some (path, bytes) }

def runAssemble (files : Files) (o : AssembleOptions) : Outcome :=
  if o.binary && o.listing then
    let err := c.echo "Error: --binary and --listing are mutually exclusive"
    { exitCode := 2, err, files }
  else
    let banner := c.echoes (if o.verbose then [s!"Assembling {o.source.text}..."] else [])
    match assembleFile files o.source with
    | .error fault => c.failing files "Assembly" banner fault
    | .ok a =>
      let err := banner ++ logged o.verbose (assemblyLog a)
      if a.hasErrors then { exitCode := 1, err := err ++ c.echo a.report.text, files }
      else c.deliver files o a (err ++ c.echoes (a.report.warnings.map ("warning: " ++ ·)))

/-- The assembler as a command. -/
def kjasm (files : Files) (args : List String) : Outcome :=
  match c.assembleOptions files args with
  | .exit exitCode out err => { exitCode, out, err, files }
  | .options o => c.runAssemble files o

end Console

/-! ### Running -/

/-- The settings of a run: the environment's, with the options over them. -/
def RunOptions.settings (o : RunOptions) (env : List (String × String)) : Settings :=
  (Settings.ofEnvironment env).override
    { maxSteps := o.maxSteps
      trace := if o.trace then some true else none
      dump := some o.dump
      breakpoints := if o.breakpoints.isEmpty then none else some o.breakpoints }

/-- An executed instruction as the trace shows it, with the data word of a `set`. -/
def traceLine (words : Array String) (e : Executed) : String :=
  let operand :=
    if e.inst.opcode = .unary .set then
      words[(e.pc + 1) % words.size]?.map fun word => toString (Word.toByte word)
    else none
  Text.upperHex 2 e.pc ++ ": " ++ e.inst.widen.listed operand

def addBreakpoints (b : Breakpoints) : List Int → Except Fault Breakpoints
  | [] => .ok b
  | slot :: slots =>
    match b.add slot with
    | (.error fault, _) => .error fault
    | (.ok (), b) => addBreakpoints b slots

/-- A machine with a program and its breakpoints, ready to run. -/
def prepare (codecs : Codecs) (s : Settings) (program : List Entry) (input : List Text.CodePoint) :
    Except Fault Machine := do
  let m ← Machine.withCodec codecs s.inputEncoding
  match m.reset program input with
  | (.error fault, _) => throw fault
  | (.ok (), m) => return { m with breakpoints := ← addBreakpoints m.breakpoints s.breakpoints }

namespace Console

variable (c : Console)

/-- What a run logs and traces. -/
def runText (o : RunOptions) (s : Settings) (m : Machine) (r : RunResult) : String :=
  let step (e : Executed) : String :=
    logged o.verbose [stepLog e] ++ c.echoes (if s.trace then [traceLine m.words e] else [])
  logged o.verbose (loadLog m ++ breakpointsLog s.breakpoints) ++
    String.join (r.executed.map step) ++ logged o.verbose (stopLog r)

def execute (codecs : Codecs) (files : Files) (o : RunOptions) (s : Settings)
    (program : List Entry) (err : String) : Outcome :=
  match prepare codecs s program o.input with
  | .error fault => c.failing files "Run" err fault
  | .ok m =>
    let r := m.run s.maxSteps
    let err := err ++ c.runText o s m r
    let shown : Except Fault (Event × String) := do
      return (← r.stop, ← m.codec.decode r.machine.state.output.toList)
    match shown with
    | .error fault => c.failing files "Run" err fault
    | .ok (event, text) =>
      let dump := if s.dump then ["", Dump.state r.machine] else []
      { out := c.echoes (text :: dump)
        err := err ++ c.echo s!"Stopped after {r.machine.stepCount} steps: {event.text}"
        files }

def runRun (codecs : Codecs) (files : Files) (env : List (String × String)) (o : RunOptions) :
    Outcome :=
  match assembleFile files o.source with
  | .error fault => c.failing files "Run" "" fault
  | .ok a =>
    let err := logged o.verbose (assemblyLog a)
    if a.hasErrors then { exitCode := 1, err := err ++ c.echo a.report.text, files }
    else c.execute codecs files o (o.settings env) a.program err

/-- The runner as a command. -/
def kjrun (codecs : Codecs) (files : Files) (env : List (String × String)) (args : List String) :
    Outcome :=
  match c.runOptions files args with
  | .exit exitCode out err => { exitCode, out, err, files }
  | .options o => c.runRun codecs files env o

end Console

end DeskComputer.Command
