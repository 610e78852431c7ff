import DeskComputer.Fault
import DeskComputer.Text.Similar

/-!
# Labels

A label stands for the slot that its definition precedes. `LabelTable.ofEntries` counts slots and
binds names, `resolve` puts slots in the place of references, and `link` does both. Of several
definitions of one name the last counts; each after the first is a `Redefinition`.
-/

namespace DeskComputer

/-- Names and what they stand for, in the order of their first definition. -/
abbrev LabelTable := List (String × Int)

/-- Names and values with one name bound. A name that was bound keeps its place. -/
def bindName {α : Type} (name : String) (value : α) : List (String × α) → List (String × α)
  | [] => [(name, value)]
  | (known, old) :: table =>
    if known = name then (name, value) :: table else (known, old) :: bindName name value table

def LabelTable.names (table : LabelTable) : List String := table.map (·.1)

/-- A label defined at a slot that was already bound to an earlier one. -/
structure Redefinition where
  name : String
  slot : Nat
  earlier : Int
  deriving DecidableEq, Repr

def Redefinition.message (r : Redefinition) : String :=
  String.join
    ["label '", r.name, "' redefined at slot ", toString r.slot, " (was ", toString r.earlier, ")"]

/-- Where label binding stands: the table so far, the next slot, and the redefinitions met, in
order. -/
structure Binding where
  table : LabelTable := []
  slot : Nat := 0
  redefinitions : List Redefinition := []
  deriving DecidableEq, Repr

def Binding.add (b : Binding) : Entry → Binding
  | .mark name =>
    let redefinition? := (b.table.lookup name).map fun earlier => ⟨name, b.slot, earlier⟩
    { b with
      table := bindName name (b.slot : Int) b.table
      redefinitions := b.redefinitions ++ redefinition?.toList }
  | _ => { b with slot := b.slot + 1 }

/-- The labels of a program, bound. -/
def Binding.ofEntries (entries : List Entry) : Binding := entries.foldl Binding.add {}

def LabelTable.ofEntries (entries : List Entry) : LabelTable := (Binding.ofEntries entries).table

/-- The problem of a label that a table does not hold, with the names in the table that are like
it. -/
def unresolvedIn (table : LabelTable) (label : String) : Problem :=
  .unresolved label (Text.closeMatches label table.names)

/-- The program with every reference replaced by the slot of its label, as a byte, and without the
definitions; or the first label that the table does not hold. -/
def resolve? (table : LabelTable) : List Entry → Except String (List Entry)
  | [] => .ok []
  | .mark _ :: entries => resolve? table entries
  | .ref label :: entries =>
    match table.lookup label with
    | none => .error label
    | some slot => do return .data (slot % 256) :: (← resolve? table entries)
  | e :: entries => do return e :: (← resolve? table entries)

def resolve (table : LabelTable) (entries : List Entry) : Except Diagnostic (List Entry) :=
  (resolve? table entries).mapError fun label => { problem := unresolvedIn table label }

/-- The program with its references resolved by its own labels. -/
def link (entries : List Entry) : Except Diagnostic (List Entry) :=
  resolve (.ofEntries entries) entries

end DeskComputer
