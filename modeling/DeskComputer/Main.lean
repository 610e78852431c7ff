import DeskComputer.Host.Tools

/-!
# The command line

The first argument names the tool, and the rest are its arguments. Everything is decided by
`Tool.main`; here files and variables are looked up, and the outcome is printed and written.
-/

namespace DeskComputer.Host

open Command (Files Node Outcome Place)

/-- What the file system has at a path, with the path behind all links. -/
def look (path : String) : IO (Option (Node × String)) := do
  match ← (IO.FS.realPath path).toBaseIO with
  | .error _ => return none
  | .ok real =>
    if ← real.isDir then return some (.directory, real.toString)
    match ← (IO.FS.readBinFile real).toBaseIO with
    | .ok bytes => return some (.file (bytes.toList.map UInt8.toNat), real.toString)
    | .error _ => return none

/-- The files that decide what some paths lead to. A file that is met again is a link to where it
was met first. -/
def lookAll (paths : List String) : IO Files := do
  let places := (paths.flatMap Files.passedBy).eraseDups.filter (!·.isEmpty)
  let mut files : Files := []
  let mut met : List (String × Place) := []
  for place in places do
    match ← look (Files.placeText place) with
    | none => pure ()
    | some (.file bytes, real) =>
      match met.lookup real with
      | some first => files := files ++ [(place, .link first)]
      | none =>
        files := files ++ [(place, .file bytes)]
        met := (real, place) :: met
    | some (node, _) => files := files ++ [(place, node)]
  return files

def environment : IO (List (String × String)) := do
  let names := [Settings.maxStepsVariable, Settings.traceVariable, Settings.encodingVariable]
  names.filterMapM fun name => do return (← IO.getEnv name).map (name, ·)

def finish (outcome : Outcome) : IO UInt32 := do
  if let some (path, bytes) := outcome.written then
    IO.FS.writeBinFile path.text (ByteArray.mk (bytes.map (·.toUInt8)).toArray)
  (← IO.getStdout).putStr outcome.out
  (← IO.getStderr).putStr outcome.err
  return outcome.exitCode.toUInt32

end DeskComputer.Host

open DeskComputer.Host in
def main (args : List String) : IO UInt32 := do
  let stderr ← IO.getStderr
  match args with
  | [] =>
    stderr.putStr "Usage: kjasm|kjrun [OPTIONS] INPUT_FILE\n"
    return 2
  | name :: args =>
    match Tool.ofName? name with
    | none =>
      stderr.putStr s!"Error: no such tool: {name}\n"
      return 2
    | some tool => finish (tool.main (← lookAll (tool.paths args)) (← environment) args)
