import DeskComputer.Fault

/-!
# Reports

A `Report` keeps errors and warnings, with a limit on the errors. The error that reaches the limit
is kept, and answered with the fault `limitReached`. The errors of an assembly are diagnostics, and
so is its limit, unless it is too long to write: then the assembly fails.
-/

namespace DeskComputer

structure Report (ε : Type) where
  limit : Int := 100
  errors : List ε := []
  warnings : List String := []
  deriving DecidableEq, Repr

namespace Report

variable {ε : Type}

/-- What is said when the limit is reached: that no more errors are kept. -/
def limitReached (r : Report ε) : Except Fault Diagnostic :=
  match Text.writeInteger? r.limit with
  | some limit => .ok { problem := .tooMany s!"too many errors ({limit}), stopping" }
  | none => .error .unwritable

/-- The report with one more error, and what is said if the limit is reached. -/
def add (r : Report ε) (e : ε) : Option (Except Fault Diagnostic) × Report ε :=
  let r := { r with errors := r.errors ++ [e] }
  (if r.limit ≤ r.errors.length then some r.limitReached else none, r)

/-- The report with one more error, followed by that of the limit if it is reached. Answers whether
more errors may follow. -/
def addOrStop (r : Report Diagnostic) (d : Diagnostic) : Except Fault Bool × Report Diagnostic :=
  match r.add d with
  | (none, r) => (.ok true, r)
  | (some (.ok stop), r) => (.ok false, { r with errors := r.errors ++ [stop] })
  | (some (.error fault), r) => (.error fault, r)

/-- The report with errors added in order up to the limit. -/
def addAll (r : Report Diagnostic) : List Diagnostic → Except Fault Unit × Report Diagnostic
  | [] => (.ok (), r)
  | d :: ds =>
    match r.addOrStop d with
    | (.ok true, r) => r.addAll ds
    | (.ok false, r) => (.ok (), r)
    | (.error fault, r) => (.error fault, r)

def addWarning (r : Report ε) (message : String) : Report ε :=
  { r with warnings := r.warnings ++ [message] }

def clear (r : Report ε) : Report ε := { r with errors := [], warnings := [] }

def hasErrors (r : Report ε) : Bool := !r.errors.isEmpty

def counted (n : Nat) (noun : String) : String :=
  s!"{n} {noun}" ++ (if n = 1 then "" else "s")

/-- The report as it is shown, given how its errors are. -/
def textBy (shown : ε → String) (r : Report ε) : String :=
  let errors := r.errors.flatMap fun e => [shown e, ""]
  let warnings := if r.warnings.isEmpty then [] else "Warnings:" :: r.warnings.map ("  " ++ ·)
  let summary :=
    counted r.errors.length "error" ++ ", " ++ counted r.warnings.length "warning"
  "\n".intercalate (errors ++ warnings ++ [summary])

def text (r : Report Diagnostic) : String := r.textBy Diagnostic.text

end Report

end DeskComputer
