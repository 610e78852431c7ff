/-!
# Paths

A path is a root and parts. Reading a path drops empty parts and parts that are a point, so
`Path.text` is a normal form. Parts that are two points stay.
-/

namespace DeskComputer.Command

/-- The pieces of a text between slashes. -/
def cutAtSlashes : List Char → List (List Char)
  | [] => [[]]
  | c :: rest =>
    if c = '/' then [] :: cutAtSlashes rest
    else
      match cutAtSlashes rest with
      | [] => [[c]]
      | piece :: pieces => (c :: piece) :: pieces

/-- The pieces of a text between slashes. -/
def pieces (text : String) : List String := (cutAtSlashes text.toList).map String.ofList

structure Path where
  /-- Empty, one slash or two slashes. -/
  root : String
  parts : List String
  deriving DecidableEq, Repr

namespace Path

/-- The root of a text: its slashes at the start, of which three or more count as one. -/
def rootOf (text : List Char) : String :=
  match (text.takeWhile (· = '/')).length with
  | 0 => ""
  | 2 => "//"
  | _ => "/"

def ofString (text : String) : Path where
  root := rootOf text.toList
  parts := (pieces text).filter fun part => part ≠ "" ∧ part ≠ "."

/-- The path as it is shown. The empty path is a point. -/
def text (p : Path) : String :=
  if p.root = "" ∧ p.parts = [] then "." else p.root ++ "/".intercalate p.parts

/-- A name without its suffix: the last point and what follows it, where something stands on both
sides of the point. -/
def stem (name : List Char) : List Char :=
  let after := (name.reverse.takeWhile (· ≠ '.')).length
  let before := name.length - after - 1
  if 0 < after ∧ 0 < before then name.take before else name

def withSuffix (p : Path) (suffix : String) : Path :=
  match p.parts.getLast? with
  | none => p
  | some name =>
    { p with parts := p.parts.dropLast ++ [String.ofList (stem name.toList) ++ suffix] }

end Path

end DeskComputer.Command
