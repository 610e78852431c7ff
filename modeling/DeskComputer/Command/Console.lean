import DeskComputer.Command.Files
import DeskComputer.Text.Encoding

/-!
# The console

What the tools leave to the library that they are made with: how arguments are read, and how a text
is printed. A `Console` is any such library. All that is known of it is that it prints a text
without control sequences as it is, and that it refuses arguments on the error output alone.
-/

namespace DeskComputer.Command

structure AssembleOptions where
  source : Path
  output : Option Path := none
  binary : Bool := false
  listing : Bool := false
  verbose : Bool := false
  deriving DecidableEq, Repr

structure RunOptions where
  source : Path
  input : List Text.CodePoint := []
  maxSteps : Option Int := none
  breakpoints : List Int := []
  trace : Bool := false
  dump : Bool := true
  verbose : Bool := false
  deriving DecidableEq, Repr

/-- What arguments come to: the options of a tool, or an exit with what is printed on both
outputs. -/
inductive Parsed (ω : Type) where
  | options (o : ω)
  | exit (code : Nat) (out err : String)
  deriving DecidableEq, Repr

structure Console where
  assembleOptions : Files → List String → Parsed AssembleOptions
  runOptions : Files → List String → Parsed RunOptions
  /-- What is printed of a text. -/
  echo : String → String
  echo_plain : ∀ {text}, '\x1b' ∉ text.toList → echo text = text ++ "\n"
  refused_silent : ∀ {files args code out err},
    assembleOptions files args = .exit code out err → code ≠ 0 → out = ""

end DeskComputer.Command
