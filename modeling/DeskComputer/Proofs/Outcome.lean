import DeskComputer.Fault

/-!
# Outcomes

A computation that can fail succeeds if each of its parts does, and fails if the first part does or
the rest: `bind_ok` and `bind_error` take one part off. Likewise `lookup_entry` takes one entry off
a table in which something is looked up.
-/

namespace DeskComputer

variable {ε α β : Type}

theorem bind_ok {first : Except ε α} {next : α → Except ε β} {b : β} :
    first >>= next = .ok b ↔ ∃ a, first = .ok a ∧ next a = .ok b := by
  cases first with
  | error e => simp [bind, Except.bind]
  | ok a => simp [bind, Except.bind]

theorem bind_error {first : Except ε α} {next : α → Except ε β} {e : ε} :
    first >>= next = .error e ↔ first = .error e ∨ ∃ a, first = .ok a ∧ next a = .error e := by
  cases first with
  | error e => simp [bind, Except.bind]
  | ok a => simp [bind, Except.bind]

theorem pure_ok {a b : α} : (pure a : Except ε α) = .ok b ↔ a = b := by
  simp [pure, Except.pure]

theorem map_error {outcome : Except ε α} {f : α → β} {e : ε} :
    outcome.map f = .error e ↔ outcome = .error e := by
  cases outcome <;> simp [Except.map]

theorem toOption_eq_some {outcome : Except ε α} {a : α} :
    outcome.toOption = some a ↔ outcome = .ok a := by
  cases outcome <;> simp [Except.toOption]

theorem ok_of_toOption {outcome : Except ε α} {a : α} (found : outcome.toOption = some a) :
    outcome = .ok a :=
  toOption_eq_some.mp found

theorem lookup_entry {κ : Type} [BEq κ] [LawfulBEq κ] [DecidableEq κ] {key : κ}
    {table : List (κ × α)} (known : κ) (old : α) :
    ((known, old) :: table).lookup key = if key = known then some old else table.lookup key := by
  rw [List.lookup_cons]
  by_cases hit : key = known
  · simp [hit]
  · rw [beq_eq_false_iff_ne.mpr hit, if_neg hit]

end DeskComputer
