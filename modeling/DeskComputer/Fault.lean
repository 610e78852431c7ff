import DeskComputer.Datum
import DeskComputer.Text.Digit
import DeskComputer.Text.Encoding

/-!
# Diagnostics and faults

A `Problem` is what is wrong with a piece of source, and a `Refusal` why a line is not read: for a
problem of its own, or for a numeral that ends the reading of the whole source. A `Diagnostic` adds
to a problem where it stands, the line itself and a hint, and `Diagnostic.text` is how it is shown.
A `Fault` is any failure: of the assembler, of the words, of the machine, of text that cannot be
encoded, or of files.
-/

namespace DeskComputer

/-- A place in source text. Column 0 stands for the whole line. -/
structure Location where
  file : String
  line : Int
  column : Int := 0
  deriving DecidableEq, Repr

def Location.text (l : Location) : String :=
  if 0 < l.column then s!"{l.file}:{l.line}:{l.column}" else s!"{l.file}:{l.line}"

inductive Problem where
  | general (message : String)
  /-- A line is malformed in a way that no other case names. -/
  | malformed (message : String)
  | register (token : String)
  | condition (token : String)
  | immediate (token : String)
  | address (token reason : String)
  | arity (opcode : String) (expected actual : Int)
  | mnemonic (word : String)
  | emptyLabel (name : String)
  | unresolved (label : String) (similar : List String)
  | tooMany (message : String)
  deriving DecidableEq, Repr

/-- The reason of an address operand that is not of the right form. -/
def addressForm : String := "expected ofs[reg]"

/-- A remark on a token, which stands in single quotes. -/
def remark (remarked token : String) : String := s!"{remarked} '{token}'"

def Problem.message : Problem → String
  | .general message | .malformed message | .tooMany message => message
  | .register token => remark "invalid register" token
  | .condition token => remark "invalid condition" token
  | .immediate token => remark "invalid immediate value" token
  | .address token reason => remark "invalid address" token ++ ": " ++ reason
  | .arity opcode expected actual =>
    let noun := if expected = 1 then "operand" else "operands"
    s!"'{opcode}' takes {expected} {noun}, got {actual}"
  | .mnemonic word => remark "unknown instruction" word
  | .emptyLabel _ => "label definition has no name"
  | .unresolved label _ => remark "unresolved label" label

/-- Why a token or a line is not read. -/
inductive Refusal where
  | problem (problem : Problem)
  /-- A numeral is too long to convert. No line counts then. -/
  | oversized (numeral : Text.Oversized)
  deriving DecidableEq, Repr

/-- A problem refuses what it is a problem of. -/
instance : MonadLift (Except Problem) (Except Refusal) where
  monadLift result := result.mapError .problem

@[simp] theorem Refusal.liftM_ok {α : Type} (a : α) :
    (liftM (.ok a : Except Problem α) : Except Refusal α) = .ok a := rfl

@[simp] theorem Refusal.liftM_error {α : Type} (p : Problem) :
    (liftM (.error p : Except Problem α) : Except Refusal α) = .error (.problem p) := rfl

def Problem.hint? : Problem → Option String
  | .register _ => some "registers are r0-r3, a-d, 00-11, fp, sp"
  | .condition _ => some "conditions are v, c, z, n or 00-11"
  | .unresolved _ (s :: similar) =>
    let names := ", ".intercalate (((s :: similar).take 3).map fun name => s!"'{name}'")
    some s!"did you mean {names}?"
  | _ => none

structure Diagnostic where
  problem : Problem
  location? : Option Location := none
  sourceLine? : Option String := none
  hint? : Option String := problem.hint?
  deriving DecidableEq, Repr

/-- The diagnostic at a location. A source line replaces the one it had. -/
def Diagnostic.locate (d : Diagnostic) (location : Location) (sourceLine? : Option String) :
    Diagnostic :=
  { d with location? := some location, sourceLine? := sourceLine?.or d.sourceLine? }

/-- The lines that show where a diagnostic stands. -/
def Diagnostic.context (d : Diagnostic) : List String :=
  match d.location?, d.sourceLine? with
  | some location, some line =>
    let caret := String.ofList (List.replicate (3 + location.column).toNat ' ' ++ ['^'])
    ("    " ++ line) :: (if 0 < location.column then [caret] else [])
  | _, _ => []

def Diagnostic.text (d : Diagnostic) : String :=
  let place := (d.location?.map fun l => l.text ++ ": ").getD ""
  let hint :=
    match d.hint? with
    | none | some "" => []
    | some hint => ["hint: " ++ hint]
  "\n".intercalate ((place ++ "error: " ++ d.problem.message) :: d.context ++ hint)

/-- A bound on indices: those that reach it cannot be counted. -/
def indexLimit : Int := 0x8000000000000000

inductive FileProblem where
  | missing | notDirectory | isDirectory | nameTooLong
  /-- Links lead to each other and nowhere else. -/
  | linksRound
  deriving DecidableEq, Repr

def FileProblem.message : FileProblem → String
  | .missing => "[Errno 2] No such file or directory"
  | .notDirectory => "[Errno 20] Not a directory"
  | .isDirectory => "[Errno 21] Is a directory"
  | .nameTooLong => "[Errno 36] File name too long"
  | .linksRound => "[Errno 40] Too many levels of symbolic links"

/-- A failure. The cases `general`, `codec` and `machine` carry details of any kind. -/
inductive Fault where
  | general (details : List Datum)
  | assembly (diagnostic : Diagnostic)
  | oversized (numeral : Text.Oversized)
  /-- An integer is too long to write. -/
  | unwritable
  | codec (details : List Datum)
  /-- A datum is no word, or no encodable entry. -/
  | encoding (subject : Datum) (reason : String)
  | machine (details : List Datum)
  | outOfProgram (pc length : Int)
  | halted
  | haltedBy (cause : Fault)
  /-- A condition has no letter to be listed by. -/
  | noSuchCondition
  | notAnEntry (subject : Datum)
  | noSuchRegister
  | indexTooLarge
  | negativeSlot (slot : Int)
  | notAByte
  | unencodable (flaw : Text.Unencodable)
  /-- A codec, or the search for one, fails in a way of its own. -/
  | codecOwn (kind message : String)
  | undecodable (flaw : Text.Undecodable)
  | sourceMissing (path : String)
  | file (problem : FileProblem) (path : String)

def Fault.text : Fault → String
  | .general details | .codec details | .machine details => plainDetails details
  | .assembly diagnostic => diagnostic.text
  | .oversized numeral => numeral.message
  | .unwritable => Text.limitMessage ""
  | .encoding subject reason => String.join ["cannot decode ", subject.written, ": ", reason]
  | .outOfProgram pc length =>
    String.join
      ["out of program: pc=", toString pc, " but program has ", toString length, " words"]
  | .halted => "machine halted; reset() required"
  | .haltedBy cause =>
    String.join ["machine halted; reset() required (halted by: ", cause.text, ")"]
  | .noSuchCondition => "string index out of range"
  | .notAnEntry subject => String.join ["cannot format ", subject.written]
  | .noSuchRegister => "list assignment index out of range"
  | .indexTooLarge => "cannot fit 'int' into an index-sized integer"
  | .negativeSlot slot =>
    String.join ["breakpoint slot must be non-negative, got ", toString slot]
  | .notAByte => "bytes must be in range(0, 256)"
  | .unencodable u => u.message
  | .codecOwn _ message => message
  | .undecodable u => u.message
  | .sourceMissing path => String.join ["Source file not found: ", path]
  | .file problem path => String.join [problem.message, ": ", Text.quote path]

/-- The fault of a datum that is no word, or no encodable entry. Its message shows the datum. -/
def Fault.ofDatum (subject : Datum) (reason : String) : Fault :=
  if subject.isWritable then .encoding subject reason else .unwritable

end DeskComputer
