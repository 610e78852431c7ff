import DeskComputer.Text.Case
import DeskComputer.Text.Integer

/-!
# Settings of a run

A run has a budget of steps, tracing, a final dump, breakpoints and an input encoding. They come
from defaults, from the environment, and from the command line, each over the one before.
-/

namespace DeskComputer

structure Settings where
  maxSteps : Int := 10000
  trace : Bool := false
  dump : Bool := true
  breakpoints : List Int := []
  inputEncoding : String := "utf-8"
  deriving DecidableEq, Repr

namespace Settings

def maxStepsVariable : String := "KIJO_MAX_STEPS"

def traceVariable : String := "KIJO_TRACE"

def encodingVariable : String := "KIJO_INPUT_ENCODING"

/-- Whether a text switches tracing on. -/
def switchesOn (text : String) : Bool :=
  ["1", "true", "yes"].contains (String.ofList (Text.lower (Text.trim text.toList)))

/-- The settings of an environment. An empty variable counts as absent, and a budget that is no
integer is passed over. -/
def ofEnvironment (env : List (String × String)) : Settings :=
  let get? (name : String) : Option String :=
    match env.lookup name with
    | some "" => none
    | value? => value?
  let defaults : Settings := {}
  { defaults with
    maxSteps :=
      ((get? maxStepsVariable).bind fun text => Text.readInteger? text.toList).getD
        defaults.maxSteps
    trace := ((get? traceVariable).map switchesOn).getD defaults.trace
    inputEncoding := (get? encodingVariable).getD defaults.inputEncoding }

/-- Settings that replace others where they are given. -/
structure Overrides where
  maxSteps : Option Int := none
  trace : Option Bool := none
  dump : Option Bool := none
  breakpoints : Option (List Int) := none

def override (s : Settings) (o : Overrides) : Settings :=
  { s with
    maxSteps := o.maxSteps.getD s.maxSteps
    trace := o.trace.getD s.trace
    dump := o.dump.getD s.dump
    breakpoints := o.breakpoints.getD s.breakpoints }

end Settings

end DeskComputer
