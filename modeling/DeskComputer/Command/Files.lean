import DeskComputer.Command.Path
import DeskComputer.Fault
import DeskComputer.Text.Line

/-!
# Files

The files that a tool can see, as places with contents. A place is a list of parts from the working
directory, or from the root when its first part is a slash. The directories above the working
directory exist. Places that share their contents are one place and links to it: other names of a
file, symbolic links, and the working directory by its place under the root. `Files.read` and
`Files.write` fail as a file system does.
-/

namespace DeskComputer.Command

/-- Where a file is: its parts, each within the one before it. -/
abbrev Place := List String

inductive Node where
  | file (bytes : List Nat)
  | directory
  /-- What stands elsewhere, behind all links. A link to a link stands for one that leads round. -/
  | link (target : Place)
  deriving DecidableEq, Repr

/-- Contents by place. A directory exists if it is listed or holds something that is. -/
abbrev Files := List (Place × Node)

namespace Files

def node? (files : Files) (place : Place) : Option Node :=
  if place.all (· = "..") ∨ place = ["/"] then some .directory
  else
    match files.lookup place with
    | some node => some node
    | none => if files.any fun entry => place.isPrefixOf entry.1 then some .directory else none

/-- A step of a walk from a place: stay, go up, or go down. -/
def stepTo (place : Place) (part : String) : Place :=
  if part = "" ∨ part = "." then place
  else if part ≠ ".." then place ++ [part]
  else if place = ["/"] then place
  else if place = [] ∨ place.getLast? = some ".." then place ++ [".."]
  else place.dropLast

/-- The place behind a link, or the place itself. -/
def follow (files : Files) (place : Place) : Place :=
  match files.node? place with
  | some (.link target) => target
  | _ => place

/-- The places that a walk along parts passes and ends at. -/
def passed (place : Place) : List String → List Place
  | [] => [place]
  | part :: parts => place :: passed (stepTo place part) parts

/-- Where the walk along a path text starts. -/
def start (path : String) : Place := if path.toList.head? = some '/' then ["/"] else []

/-- The places that decide what a path text leads to. -/
def passedBy (path : String) : List Place := passed (start path) (pieces path)

def placeText (place : Place) : String :=
  match place with
  | "/" :: parts => "/" ++ "/".intercalate parts
  | parts => "/".intercalate parts

def partLimit : Nat := 255

def pathLimit : Nat := 4095

/-- The place that parts lead to. Every place that is left has to be a directory. -/
def walk (files : Files) (place : Place) : List String → Except FileProblem Place
  | [] => .ok place
  | part :: parts =>
    match files.node? place with
    | some .directory =>
      if partLimit < part.utf8ByteSize then .error .nameTooLong
      else walk files (files.follow (stepTo place part)) parts
    | some (.file _) => .error .notDirectory
    | some (.link _) => .error .linksRound
    | none => .error .missing

/-- The place that a path text leads to. An empty text, and one with the character zero, leads
nowhere. -/
def locate (files : Files) (path : String) : Except FileProblem Place :=
  if path = "" || path.contains '\x00' then .error .missing
  else if pathLimit < path.utf8ByteSize then .error .nameTooLong
  else files.walk (start path) (pieces path)

def status (files : Files) (path : String) : Except FileProblem Node := do
  match files.node? (← files.locate path) with
  | some (.link _) => throw .linksRound
  | some node => return node
  | none => throw .missing

def read (files : Files) (path : Path) : Except FileProblem (List Nat) := do
  match ← files.status path.text with
  | .file bytes => return bytes
  | .directory => throw .isDirectory
  | .link _ => throw .linksRound

def put (place : Place) (bytes : List Nat) : Files → Files
  | [] => [(place, .file bytes)]
  | (known, node) :: files =>
    if known = place then (known, .file bytes) :: files else (known, node) :: put place bytes files

/-- The files with one written. Its directory has to exist. -/
def write (files : Files) (path : Path) (bytes : List Nat) : Except FileProblem Files := do
  let place ← files.locate path.text
  match files.node? place with
  | some .directory => throw .isDirectory
  | some (.link _) => throw .linksRound
  | _ => return put place bytes files

/-- The source text in a file: its bytes as UTF-8, with every kind of newline as a line feed. -/
def readSource (files : Files) (path : Path) : Except Fault String :=
  match files.status path.text with
  | .error .nameTooLong => .error (.file .nameTooLong path.text)
  | .error _ => .error (.sourceMissing path.text)
  | .ok _ => do
    let bytes ← (files.read path).mapError (.file · path.text)
    let text ← (Text.decodeUtf8? bytes).mapError .undecodable
    return String.ofList (Text.unifyNewlines text)

end Files

end DeskComputer.Command
