import DeskComputer.Fault

/-!
# Breakpoints

Slots before which a run stops. A breakpoint can be disabled without being removed, and keeps a
count of its hits until it is removed. An `Event` says why and where a run stopped. Additions and
hits are logged with their slot, which may be too long to write.
-/

namespace DeskComputer

inductive Reason where
  | breakpoint | maxSteps | halted
  deriving DecidableEq, Repr

structure Event where
  reason : Reason
  address : Option Int := none
  steps : Int := 0
  message : String := ""
  deriving DecidableEq, Repr

/-- An event as it is shown: by its message, if it has one. -/
def Event.text (e : Event) : String :=
  if e.message ≠ "" then e.message
  else
    match e.reason with
    | .breakpoint => String.join ["Breakpoint at slot ", (e.address.map toString).getD "None"]
    | .maxSteps => String.join ["Maximum steps reached (", toString e.steps, ")"]
    | .halted => "Machine halted"

structure Breakpoints where
  /-- The slots with a breakpoint, in increasing order. -/
  slots : List Int := []
  disabled : List Int := []
  hits : List (Int × Nat) := []
  lastEvent : Option Event := none
  deriving DecidableEq, Repr

namespace Breakpoints

/-- The slots with one more in its place. -/
def insertSlot (slot : Int) : List Int → List Int
  | [] => [slot]
  | s :: slots =>
    if slot < s then slot :: s :: slots
    else if slot = s then s :: slots
    else s :: insertSlot slot slots

def raiseCount (slot : Int) : List (Int × Nat) → List (Int × Nat)
  | [] => [(slot, 1)]
  | (s, n) :: hits => if s = slot then (s, n + 1) :: hits else (s, n) :: raiseCount slot hits

/-- Whether a slot can be logged. By then what is logged has been done. -/
def logSlot (slot : Int) : Except Fault Unit :=
  if Text.isWritable slot then .ok () else .error .unwritable

/-- Adds a breakpoint, or enables the one that is there. -/
def add (b : Breakpoints) (slot : Int) : Except Fault Unit × Breakpoints :=
  if slot < 0 then (.error (if Text.isWritable slot then .negativeSlot slot else .unwritable), b)
  else
    (logSlot slot,
      { b with slots := insertSlot slot b.slots, disabled := b.disabled.filter (· ≠ slot) })

def remove (b : Breakpoints) (slot : Int) : Breakpoints :=
  { b with
    slots := b.slots.filter (· ≠ slot)
    disabled := b.disabled.filter (· ≠ slot)
    hits := b.hits.filter (·.1 ≠ slot) }

def clear (_ : Breakpoints) : Breakpoints := {}

def enable (b : Breakpoints) (slot : Int) : Breakpoints :=
  { b with disabled := b.disabled.filter (· ≠ slot) }

/-- Disables a breakpoint; nothing happens where there is none. -/
def disable (b : Breakpoints) (slot : Int) : Breakpoints :=
  if slot ∈ b.slots ∧ slot ∉ b.disabled then { b with disabled := slot :: b.disabled } else b

def contains (b : Breakpoints) (slot : Int) : Bool := b.slots.contains slot

def hitCount (b : Breakpoints) (slot : Int) : Nat := (b.hits.lookup slot).getD 0

def stopsAt (b : Breakpoints) (slot : Int) : Bool := slot ∈ b.slots && slot ∉ b.disabled

/-- The stop at a breakpoint that is reached after some steps, and the breakpoints after it. -/
def hit (b : Breakpoints) (slot steps : Int) : Event × Breakpoints :=
  let event : Event := { reason := .breakpoint, address := some slot, steps }
  (event, { b with hits := raiseCount slot b.hits, lastEvent := some event })

/-- The stop at a slot, if there is one, and the breakpoints after it. -/
def check (b : Breakpoints) (slot : Int) : Except Fault (Option Event) × Breakpoints :=
  if b.stopsAt slot then
    let (event, b) := b.hit slot 0
    ((logSlot slot).map fun () => some event, b)
  else (.ok none, b)

end Breakpoints

end DeskComputer
