import DeskComputer.Command.Console
import DeskComputer.Text.Integer

/-!
# Arguments

The grammar of options, and what the options of the tools come to. Long options take a value after
`=` or as the next argument; letters after one dash are options one by one, and the first that takes
a value takes what follows it. Everything else, and everything after `--`, is an operand.
-/

namespace DeskComputer.Host

open Command (AssembleOptions Files Node Path RunOptions)

inductive Choice where
  | output | binary | listing | verbose | input | maxSteps | breakpoint | trace | dump | noDump
  | version | help
  deriving DecidableEq, Repr

def Choice.takesValue : Choice → Bool
  | .output | .input | .maxSteps | .breakpoint => true
  | _ => false

/-- The options that a tool has, by their long and their short names. -/
structure OptionNames where
  long : List (String × Choice)
  short : List (Char × Choice)

inductive UsageFault where
  | missingParameter | badParameter | noSuchOption | badOptionUsage | unexpectedArgument
  /-- A path holds the character zero, so that nothing can be looked up by it. -/
  | zeroInPath
  deriving DecidableEq, Repr

def UsageFault.message : UsageFault → String
  | .missingParameter => "missing argument 'INPUT_FILE'"
  | .badParameter => "invalid value"
  | .noSuchOption => "no such option"
  | .badOptionUsage => "an option takes a value, or takes none"
  | .unexpectedArgument => "got unexpected extra argument"
  | .zeroInPath => "embedded null byte"

/-- An option with its value, which is empty if it takes none. -/
abbrev Use := Choice × String

/-- Options in the order of their use, and operands. -/
structure Arguments where
  uses : List Use := []
  operands : List String := []
  deriving DecidableEq, Repr

/-- What one argument comes to: options, and one that still calls for the next argument. -/
structure Reading where
  uses : List Use := []
  pending : Option Choice := none
  deriving DecidableEq, Repr

def readLetters (names : OptionNames) : List Char → Except UsageFault Reading
  | [] => .ok {}
  | letter :: letters =>
    match names.short.lookup letter with
    | none => .error .noSuchOption
    | some choice =>
      if choice.takesValue then
        if letters.isEmpty then .ok { pending := some choice }
        else .ok { uses := [(choice, String.ofList letters)] }
      else do
        let reading ← readLetters names letters
        return { reading with uses := (choice, "") :: reading.uses }

/-- An argument that starts with a dash: a long option if it is one, and letters otherwise. -/
def readOption (names : OptionNames) (arg : List Char) : Except UsageFault Reading :=
  let name := arg.takeWhile (· ≠ '=')
  let value? := (arg.dropWhile (· ≠ '=')).tail?
  match names.long.lookup (String.ofList name), value? with
  | some choice, some value =>
    if choice.takesValue then .ok { uses := [(choice, String.ofList value)] }
    else .error .badOptionUsage
  | some choice, none =>
    if choice.takesValue then .ok { pending := some choice } else .ok { uses := [(choice, "")] }
  | none, _ =>
    match arg with
    | '-' :: '-' :: _ => .error .noSuchOption
    | _ => readLetters names arg.tail

/-- Whether an argument is written as an option: a dash with something after it. -/
def isOption : List Char → Bool
  | '-' :: _ :: _ => true
  | _ => false

def Arguments.after (uses : List Use) (rest : Arguments) : Arguments :=
  { rest with uses := uses ++ rest.uses }

/-- The arguments after an option that calls for a value, if there is one. -/
def parseAfter (names : OptionNames) (pending : Option Choice) :
    List String → Except UsageFault Arguments
  | [] => if pending.isNone then .ok {} else .error .badOptionUsage
  | arg :: args =>
    match pending with
    | some choice => do return (← parseAfter names none args).after [(choice, arg)]
    | none =>
      if arg = "--" then .ok { operands := args }
      else if isOption arg.toList then do
        let reading ← readOption names arg.toList
        return (← parseAfter names reading.pending args).after reading.uses
      else do
        let rest ← parseAfter names none args
        return { rest with operands := arg :: rest.operands }

def parseArguments (names : OptionNames) (args : List String) : Except UsageFault Arguments :=
  parseAfter names none args

def Arguments.values (a : Arguments) (choice : Choice) : List String :=
  (a.uses.filter (·.1 = choice)).map (·.2)

/-- The value of an option used last. -/
def Arguments.last? (a : Arguments) (choice : Choice) : Option String :=
  (a.values choice).getLast?

def Arguments.has (a : Arguments) (choice : Choice) : Bool := (a.uses.map (·.1)).contains choice

/-- A count: an integer that is not negative. -/
def readCount (text : String) : Except UsageFault Int :=
  match Text.readInteger? text.toList with
  | some n => if 0 ≤ n then .ok n else .error .badParameter
  | none => .error .badParameter

def lookUp (files : Files) (path : String) : Except UsageFault (Option Node) :=
  if path.contains '\x00' then .error .zeroInPath else .ok (files.status path).toOption

/-- The path of an output file, which must not be a directory. -/
def readOutput (files : Files) (path : String) : Except UsageFault Path := do
  match ← lookUp files path with
  | some .directory => throw .badParameter
  | _ => return .ofString path

/-- The path of the source file, which has to be a file, as the only operand. -/
def readSourcePath (files : Files) (operands : List String) : Except UsageFault Path :=
  match operands with
  | [] => .error .missingParameter
  | path :: rest => do
    match ← lookUp files path with
    | some (.file _) =>
      if rest.isEmpty then return .ofString path else throw .unexpectedArgument
    | _ => throw .badParameter

def assembleNames : OptionNames where
  long :=
    [("--output", .output), ("--binary", .binary), ("--listing", .listing),
     ("--verbose", .verbose), ("--version", .version), ("--help", .help)]
  short := [('o', .output), ('b', .binary), ('l', .listing), ('v', .verbose)]

def readAssembleOptions (files : Files) (a : Arguments) : Except UsageFault AssembleOptions := do
  let output ← (a.last? .output).mapM (readOutput files)
  return {
    source := ← readSourcePath files a.operands
    output
    binary := a.has .binary
    listing := a.has .listing
    verbose := a.has .verbose }

def runNames : OptionNames where
  long :=
    [("--input", .input), ("--max-steps", .maxSteps), ("--break", .breakpoint),
     ("--trace", .trace), ("--dump", .dump), ("--no-dump", .noDump), ("--verbose", .verbose),
     ("--version", .version), ("--help", .help)]
  short :=
    [('i', .input), ('n', .maxSteps), ('B', .breakpoint), ('t', .trace), ('v', .verbose)]

def readRunOptions (files : Files) (a : Arguments) : Except UsageFault RunOptions := do
  let maxSteps ← (a.last? .maxSteps).mapM readCount
  let breakpoints ← (a.values .breakpoint).mapM readCount
  let dumps := a.uses.filter fun use => use.1 = .dump || use.1 = .noDump
  return {
    source := ← readSourcePath files a.operands
    input := Text.codePoints ((a.last? .input).getD "")
    maxSteps
    breakpoints
    trace := a.has .trace
    dump := dumps.getLast?.all (·.1 = .dump)
    verbose := a.has .verbose }

end DeskComputer.Host
