import DeskComputer.Program.Report
import DeskComputer.Proofs.Text.Decimal

/-!
# What reports keep

A report keeps errors in order while there is `room`. The limit is reached with the last one it has
room for: a note of it follows then, unless the limit is too long to be written, which is answered
instead. Main statement: `addAll_eq`.
-/

namespace DeskComputer.Report

variable {r : Report Diagnostic} {d : Diagnostic}

/-- How many more errors a report keeps: those up to its limit, and at least one. -/
def room (r : Report Diagnostic) : Nat := (max (r.limit - r.errors.length) 1).toNat

/-- What is said behind the error that reaches the limit. -/
def note (r : Report Diagnostic) : List Diagnostic := r.limitReached.toOption.toList

theorem limitReached_eq (r : Report Diagnostic) : r.limitReached =
    if r.limit.natAbs < 10 ^ Text.decimalLimit then
      .ok { problem := .tooMany s!"too many errors ({r.limit}), stopping" }
    else .error .unwritable := by
  rw [limitReached, Text.writeInteger?]
  by_cases short : Text.isWritable r.limit = true
  · rw [if_pos short, if_pos (Text.isWritable_iff.mp short)]
    rfl
  · rw [if_neg short, if_neg fun below => short (Text.isWritable_iff.mpr below)]

theorem note_eq (r : Report Diagnostic) : r.note =
    if r.limit.natAbs < 10 ^ Text.decimalLimit then
      [{ problem := .tooMany s!"too many errors ({r.limit}), stopping" }]
    else [] := by
  rw [note, limitReached_eq]
  split <;> rfl

theorem room_of_fresh (fresh : r.errors = []) : r.room = (max r.limit 1).toNat := by
  rw [room, fresh, List.length_nil]
  omega

theorem hasErrors_iff : r.hasErrors = true ↔ r.errors ≠ [] := by
  rw [hasErrors, Bool.not_eq_true', List.isEmpty_eq_false_iff]

/-! ### One error -/

theorem addOrStop_stopped (h : r.limit ≤ r.errors.length + 1) :
    r.addOrStop d = (r.limitReached.map fun _ => false,
      { r with errors := r.errors ++ d :: r.note }) := by
  have full : r.limit ≤ (r.errors ++ [d]).length := by simpa using h
  have same : limitReached { r with errors := r.errors ++ [d] } = r.limitReached := rfl
  unfold addOrStop add note
  dsimp only
  rw [if_pos full, same]
  cases r.limitReached with
  | ok stop => simp [Except.map, Except.toOption]
  | error fault => rfl

theorem addOrStop_added (h : ¬r.limit ≤ r.errors.length + 1) :
    r.addOrStop d = (.ok true, { r with errors := r.errors ++ [d] }) := by
  have free : ¬r.limit ≤ (r.errors ++ [d]).length := by simpa using h
  unfold addOrStop add
  dsimp only
  rw [if_neg free]

theorem addOrStop_errors (r : Report Diagnostic) (d : Diagnostic) :
    ∃ more, (r.addOrStop d).2 = { r with errors := r.errors ++ d :: more } := by
  by_cases full : r.limit ≤ r.errors.length + 1
  · exact ⟨r.note, congrArg (·.2) (addOrStop_stopped full)⟩
  · exact ⟨[], congrArg (·.2) (addOrStop_added full)⟩

/-- What is answered for an error, where `x` does not depend on whether more may follow. -/
theorem addOrStop_map {α : Type} (x : α) :
    ((r.addOrStop d).1.map fun _ => x) =
      if r.limit ≤ r.errors.length + 1 then r.limitReached.map fun _ => x else .ok x := by
  by_cases full : r.limit ≤ r.errors.length + 1
  · rw [addOrStop_stopped full, if_pos full]
    cases r.limitReached <;> rfl
  · rw [addOrStop_added full, if_neg full]
    rfl

/-! ### Errors in order -/

/-- Errors are kept in order until there is no room. -/
theorem addAll_eq (r : Report Diagnostic) (ds : List Diagnostic) :
    r.addAll ds =
      if r.room ≤ ds.length then
        (r.limitReached.map fun _ => (), { r with errors := r.errors ++ ds.take r.room ++ r.note })
      else (.ok (), { r with errors := r.errors ++ ds }) := by
  induction ds generalizing r with
  | nil =>
    have room : ¬r.room ≤ ([] : List Diagnostic).length := by
      rw [Report.room, List.length_nil]
      omega
    rw [if_neg room, List.append_nil, addAll]
  | cons d ds ih =>
    rw [addAll]
    by_cases full : r.limit ≤ r.errors.length + 1
    · have room : r.room = 1 := by
        rw [Report.room]
        omega
      rw [addOrStop_stopped full, room, if_pos (by simp), List.take_succ_cons, List.take_zero]
      cases r.limitReached <;> simp [Except.map]
    · have room : r.room = Report.room { r with errors := r.errors ++ [d] } + 1 := by
        simp only [Report.room, List.length_append, List.length_singleton]
        omega
      have note : Report.note { r with errors := r.errors ++ [d] } = r.note := rfl
      have reached : limitReached { r with errors := r.errors ++ [d] } = r.limitReached := rfl
      rw [addOrStop_added full]
      dsimp only
      rw [ih, room, note, reached, List.take_succ_cons, List.length_cons]
      simp only [Nat.add_le_add_iff_right, List.append_assoc, List.cons_append,
        List.nil_append]

/-- The first of some errors is kept in any case, and nothing but errors is added. -/
theorem addAll_errors (r : Report Diagnostic) (d : Diagnostic) (ds : List Diagnostic) :
    ∃ more, (r.addAll (d :: ds)).2 = { r with errors := r.errors ++ d :: more } := by
  obtain ⟨room, positive⟩ : ∃ n, r.room = n + 1 := ⟨r.room - 1, by rw [Report.room]; omega⟩
  rw [addAll_eq, positive, List.take_succ_cons]
  split
  · exact ⟨ds.take room ++ r.note, by simp⟩
  · exact ⟨ds, rfl⟩

theorem addAll_map {α : Type} (x : α) (ds : List Diagnostic) :
    ((r.addAll ds).1.map fun _ => x) =
      if r.room ≤ ds.length then r.limitReached.map fun _ => x else .ok x := by
  rw [addAll_eq]
  split
  · cases r.limitReached <;> rfl
  · rfl

/-! ### Limits that can be written -/

theorem limitReached_ok (short : Text.isWritable r.limit = true) :
    r.limitReached = .ok { problem := .tooMany s!"too many errors ({r.limit}), stopping" } := by
  rw [limitReached_eq, if_pos (Text.isWritable_iff.mp short)]

theorem addOrStop_answers (short : Text.isWritable r.limit = true) (d : Diagnostic) :
    ∃ onward, (r.addOrStop d).1 = .ok onward := by
  by_cases full : r.limit ≤ r.errors.length + 1
  · exact ⟨false, by rw [addOrStop_stopped full, limitReached_ok short]; rfl⟩
  · exact ⟨true, by rw [addOrStop_added full]⟩

theorem addAll_answers (short : Text.isWritable r.limit = true) (ds : List Diagnostic) :
    (r.addAll ds).1 = .ok () := by
  rw [addAll_eq, limitReached_ok short]
  split <;> rfl

/-! ### Warnings -/

theorem addWarnings_eq (warnings : List String) (r : Report Diagnostic) :
    warnings.foldl addWarning r = { r with warnings := r.warnings ++ warnings } := by
  induction warnings generalizing r with
  | nil => rw [List.foldl_nil, List.append_nil]
  | cons warning warnings ih =>
    rw [List.foldl_cons, ih, addWarning, List.append_assoc, List.singleton_append]

end DeskComputer.Report
