import DeskComputer.Program.Label
import DeskComputer.Proofs.Machine.Reset

/-!
# Linking

Labels are bound in one pass over the entries and references resolved in another. Both count the
entries that take a slot: a label is bound to their number before its last definition, and the
linked program is these entries, each `Entry.resolved`. Main statement: `link_resolves`.
-/

namespace DeskComputer

/-! ### Tables -/

section Names

variable {α : Type} {name key : String} {value : α} {table : List (String × α)}

theorem lookup_bindName :
    (bindName name value table).lookup key =
      if key = name then some value else table.lookup key := by
  induction table with
  | nil => exact lookup_entry name value
  | cons entry table ih =>
    obtain ⟨known, old⟩ := entry
    unfold bindName
    by_cases same : known = name
    · subst known
      rw [if_pos rfl, lookup_entry, lookup_entry]
      by_cases hit : key = name
      · rw [if_pos hit, if_pos hit]
      · rw [if_neg hit, if_neg hit, if_neg hit]
    · rw [if_neg same, lookup_entry, lookup_entry, ih]
      by_cases hit : key = known
      · have other : key ≠ name := fun clash => same (hit.symm.trans clash)
        rw [if_pos hit, if_neg other, if_pos hit]
      · rw [if_neg hit, if_neg hit]

theorem mem_names_bindName :
    key ∈ (bindName name value table).map (·.1) ↔ key = name ∨ key ∈ table.map (·.1) := by
  induction table with
  | nil => simp [bindName]
  | cons entry table ih =>
    obtain ⟨known, old⟩ := entry
    unfold bindName
    by_cases same : known = name
    · rw [if_pos same, List.map_cons, List.map_cons, List.mem_cons, List.mem_cons, same,
        ← or_assoc, or_self]
    · rw [if_neg same, List.map_cons, List.map_cons, List.mem_cons, List.mem_cons, ih,
        or_left_comm]

theorem nodup_names_bindName (h : (table.map (·.1)).Nodup) :
    ((bindName name value table).map (·.1)).Nodup := by
  induction table with
  | nil => simp [bindName]
  | cons entry table ih =>
    obtain ⟨known, old⟩ := entry
    rw [List.map_cons, List.nodup_cons] at h
    unfold bindName
    by_cases same : known = name
    · rw [if_pos same, List.map_cons, List.nodup_cons, ← same]
      exact h
    · rw [if_neg same, List.map_cons, List.nodup_cons, mem_names_bindName]
      refine ⟨?_, ih h.2⟩
      rintro (clash | clash)
      · exact same clash
      · exact h.1 clash

end Names

theorem LabelTable.mem_names {table : LabelTable} {name : String} :
    name ∈ table.names ↔ ∃ slot, table.lookup name = some slot := by
  rw [← Option.isSome_iff_exists, List.lookup_isSome_iff, names, List.mem_map]
  simp only [beq_iff_eq]
  constructor
  · rintro ⟨entry, member, same⟩
    exact ⟨entry, member, same.symm⟩
  · rintro ⟨entry, member, same⟩
    exact ⟨entry, member, same.symm⟩

/-! ### Binding -/

namespace Binding

variable {b : Binding} {entries : List Entry} {name : String}

theorem add_of_takesSlot {e : Entry} (h : e.takesSlot = true) :
    b.add e = { b with slot := b.slot + 1 } := by
  cases e with
  | mark name => cases h
  | _ => rfl

theorem slot_foldl :
    (entries.foldl add b).slot = b.slot + entries.countP Entry.takesSlot := by
  induction entries generalizing b with
  | nil => rfl
  | cons e entries ih =>
    rw [List.foldl_cons, ih, List.countP_cons]
    by_cases slot : e.takesSlot = true
    · rw [add_of_takesSlot slot, if_pos slot]
      dsimp only
      omega
    · rw [if_neg slot]
      cases e with
      | mark name => rfl
      | _ => exact absurd rfl slot

theorem mem_names_foldl :
    name ∈ (entries.foldl add b).table.names ↔
      name ∈ b.table.names ∨ Entry.mark name ∈ entries := by
  induction entries generalizing b with
  | nil => simp
  | cons e entries ih =>
    rw [List.foldl_cons, ih]
    cases e with
    | mark defined =>
      have bound : name ∈ (b.add (.mark defined)).table.names ↔
          name = defined ∨ name ∈ b.table.names := mem_names_bindName
      rw [bound, List.mem_cons, Entry.mark.injEq, or_assoc, or_left_comm]
    | _ => simp [add]

theorem nodup_names_foldl (h : b.table.names.Nodup) :
    (entries.foldl add b).table.names.Nodup := by
  induction entries generalizing b with
  | nil => exact h
  | cons e entries ih =>
    rw [List.foldl_cons]
    apply ih
    cases e with
    | mark defined => exact nodup_names_bindName h
    | _ => exact h

theorem lookup_foldl_of_not_mem (h : Entry.mark name ∉ entries) :
    (entries.foldl add b).table.lookup name = b.table.lookup name := by
  induction entries generalizing b with
  | nil => rfl
  | cons e entries ih =>
    rw [List.mem_cons, not_or] at h
    rw [List.foldl_cons, ih h.2]
    cases e with
    | mark defined =>
      have different : name ≠ defined := fun same => h.1 (congrArg Entry.mark same)
      exact lookup_bindName.trans (if_neg different)
    | _ => rfl

end Binding

/-- A label is bound to the number of slots before its last definition. -/
theorem LabelTable.lookup_ofEntries {before after : List Entry} {name : String}
    (last : Entry.mark name ∉ after) :
    (ofEntries (before ++ .mark name :: after)).lookup name =
      some (before.countP Entry.takesSlot : Int) := by
  unfold ofEntries Binding.ofEntries
  rw [List.foldl_append, List.foldl_cons, Binding.lookup_foldl_of_not_mem last]
  have bound : ((before.foldl Binding.add {}).add (.mark name)).table.lookup name =
      some ((before.foldl Binding.add {}).slot : Int) := lookup_bindName.trans (if_pos rfl)
  rw [bound, Binding.slot_foldl, Nat.zero_add]

theorem LabelTable.mem_names_ofEntries {entries : List Entry} {name : String} :
    name ∈ (ofEntries entries).names ↔ Entry.mark name ∈ entries := by
  have bound : name ∈ (entries.foldl Binding.add {}).table.names ↔ _ := Binding.mem_names_foldl
  rw [ofEntries, Binding.ofEntries, bound]
  simp [names]

theorem LabelTable.nodup_names_ofEntries (entries : List Entry) :
    (ofEntries entries).names.Nodup :=
  Binding.nodup_names_foldl List.nodup_nil

/-! ### Resolution -/

/-- What an entry becomes when references are resolved by a table. -/
def Entry.resolved (table : LabelTable) : Entry → Entry
  | .ref label => .data ((table.lookup label).getD 0 % 256)
  | e => e

/-- The label that an entry refers to, if a table does not hold it. -/
def Entry.dangling? (table : LabelTable) : Entry → Option String
  | .ref label => if label ∈ table.names then none else some label
  | _ => none

section Resolution

variable {table : LabelTable} {entries program : List Entry} {label : String}

theorem Entry.dangling?_eq_some {e : Entry} :
    e.dangling? table = some label ↔ e = .ref label ∧ label ∉ table.names := by
  cases e with
  | ref named =>
    unfold dangling?
    dsimp only
    by_cases bound : named ∈ table.names
    · rw [if_pos bound, Entry.ref.injEq]
      simp only [reduceCtorEq, false_iff, not_and, Classical.not_not]
      exact fun same => same ▸ bound
    · rw [if_neg bound, Option.some.injEq, Entry.ref.injEq, iff_self_and]
      exact fun same => same ▸ bound
  | _ => simp [dangling?]

theorem Entry.dangling?_eq_none {e : Entry} :
    e.dangling? table = none ↔ ∀ label, e = .ref label → label ∈ table.names := by
  rw [Option.eq_none_iff_forall_ne_some]
  simp only [ne_eq, dangling?_eq_some, not_and, Classical.not_not]

/-- A program is resolved unless one of its references dangles, and then the first that does
counts. -/
theorem resolve?_eq :
    resolve? table entries =
      match entries.findSome? (Entry.dangling? table) with
      | some label => .error label
      | none => .ok ((entries.filter Entry.takesSlot).map (Entry.resolved table)) := by
  induction entries with
  | nil => rfl
  | cons e entries ih =>
    rw [List.findSome?_cons]
    cases e with
    | mark name =>
      rw [resolve?, ih]
      rfl
    | ref named =>
      cases found : table.lookup named with
      | none =>
        have dangling : named ∉ table.names := by
          rw [LabelTable.mem_names, found]
          simp
        rw [resolve?, found, Entry.dangling?, if_neg dangling]
      | some slot =>
        have bound : named ∈ table.names := LabelTable.mem_names.mpr ⟨slot, found⟩
        have here : (Entry.ref named).resolved table = .data (slot % 256) := by
          rw [Entry.resolved, found, Option.getD_some]
        rw [resolve?, found, Entry.dangling?, if_pos bound, List.filter_cons_of_pos rfl,
          List.map_cons, here, ih]
        dsimp only
        cases entries.findSome? (Entry.dangling? table) <;> rfl
    | _ =>
      rw [resolve?, ih, Entry.dangling?, List.filter_cons_of_pos rfl, List.map_cons]
      · cases entries.findSome? (Entry.dangling? table) <;> rfl
      all_goals simp

theorem resolve?_ok :
    resolve? table entries = .ok program ↔
      (∀ label, .ref label ∈ entries → label ∈ table.names) ∧
        program = (entries.filter Entry.takesSlot).map (Entry.resolved table) := by
  have bound : entries.findSome? (Entry.dangling? table) = none ↔
      ∀ label, .ref label ∈ entries → label ∈ table.names := by
    rw [List.findSome?_eq_none_iff]
    constructor
    · intro none label member
      exact Entry.dangling?_eq_none.mp (none _ member) label rfl
    · intro all e member
      exact Entry.dangling?_eq_none.mpr fun label same => all label (same ▸ member)
  rw [resolve?_eq, ← bound]
  cases entries.findSome? (Entry.dangling? table) with
  | none => simp [eq_comm]
  | some label => simp

theorem resolve?_error :
    resolve? table entries = .error label ↔
      ∃ before after, entries = before ++ .ref label :: after ∧ label ∉ table.names ∧
        ∀ earlier, .ref earlier ∈ before → earlier ∈ table.names := by
  have first : resolve? table entries = .error label ↔
      entries.findSome? (Entry.dangling? table) = some label := by
    rw [resolve?_eq]
    cases entries.findSome? (Entry.dangling? table) with
    | none => simp
    | some other => simp
  rw [first, List.findSome?_eq_some_iff]
  constructor
  · rintro ⟨before, e, after, split, dangling, clean⟩
    obtain ⟨rfl, free⟩ := Entry.dangling?_eq_some.mp dangling
    refine ⟨before, after, split, free, ?_⟩
    intro earlier member
    exact Entry.dangling?_eq_none.mp (clean _ member) earlier rfl
  · rintro ⟨before, after, split, free, clean⟩
    refine ⟨before, .ref label, after, split, Entry.dangling?_eq_some.mpr ⟨rfl, free⟩, ?_⟩
    intro e member
    exact Entry.dangling?_eq_none.mpr fun earlier same => clean earlier (same ▸ member)

end Resolution

/-! ### Linked programs -/

theorem link_ok {entries program : List Entry} :
    link entries = .ok program ↔ resolve? (.ofEntries entries) entries = .ok program := by
  unfold link resolve
  cases resolve? (.ofEntries entries) entries <;> simp [Except.mapError]

theorem link_error {entries : List Entry} {d : Diagnostic} :
    link entries = .error d ↔ ∃ label, resolve? (.ofEntries entries) entries = .error label ∧
      d = { problem := unresolvedIn (.ofEntries entries) label } := by
  unfold link resolve
  cases resolve? (.ofEntries entries) entries <;> simp [Except.mapError, eq_comm]

theorem Entry.resolved_takesSlot (table : LabelTable) (e : Entry) :
    (e.resolved table).takesSlot = e.takesSlot := by
  cases e <;> rfl

theorem filter_resolved (table : LabelTable) (entries : List Entry) :
    ((entries.filter Entry.takesSlot).map (Entry.resolved table)).filter Entry.takesSlot =
      (entries.filter Entry.takesSlot).map (Entry.resolved table) := by
  apply List.filter_eq_self.mpr
  intro e member
  obtain ⟨source, present, rfl⟩ := List.mem_map.mp member
  rw [Entry.resolved_takesSlot]
  exact (List.mem_filter.mp present).2

/-- The entry that a label precedes stands at the slot of the label. -/
theorem filter_at_mark (before after : List Entry) (name : String) :
    ((before ++ .mark name :: after).filter Entry.takesSlot)[before.countP Entry.takesSlot]? =
      after.find? Entry.takesSlot := by
  rw [List.filter_append, List.filter_cons_of_neg (by simp [Entry.takesSlot]),
    List.countP_eq_length_filter, List.getElem?_append_right (Nat.le_refl _), Nat.sub_self,
    ← List.head?_eq_getElem?, List.head?_filter]

theorem reset_linked {entries program : List Entry} {m : Machine} {input : List Text.CodePoint}
    (linked : link entries = .ok program) (loaded : (m.reset program input).1 = .ok ()) :
    (m.reset program input).2.words.toList.map (fun word => Except.ok (some word)) =
      ((entries.filter Entry.takesSlot).map (Entry.resolved (.ofEntries entries))).map
        Entry.encode := by
  obtain ⟨words, bytes, encoded, readable⟩ := Machine.reset_succeeds.mp loaded
  rw [Machine.reset_loaded encoded readable, ← encodeAll_slots encoded,
    (resolve?_ok.mp (link_ok.mp linked)).2, filter_resolved]

/-- Labels are bound to the slots of what they precede, the last definition of a name counts, the
first dangling reference is refused, and the words of the linked program stand where the labels
say. -/
theorem link_resolves (entries : List Entry) :
    let table := LabelTable.ofEntries entries
    (table.names.Nodup ∧ ∀ name, name ∈ table.names ↔ .mark name ∈ entries) ∧
    (∀ before name after, entries = before ++ .mark name :: after → .mark name ∉ after →
      table.lookup name = some (before.countP Entry.takesSlot : Int)) ∧
    (∀ d, link entries = .error d ↔
      ∃ before label after, entries = before ++ .ref label :: after ∧ label ∉ table.names ∧
        (∀ earlier, .ref earlier ∈ before → earlier ∈ table.names) ∧
        d = { problem := unresolvedIn table label }) ∧
    (∀ program, link entries = .ok program ↔
      (∀ label, .ref label ∈ entries → label ∈ table.names) ∧
        program = (entries.filter Entry.takesSlot).map (Entry.resolved table)) ∧
    (∀ before name after program, entries = before ++ .mark name :: after →
      .mark name ∉ after → link entries = .ok program →
      ∀ (m : Machine) (input : List Text.CodePoint), (m.reset program input).1 = .ok () →
        let words := (m.reset program input).2.words
        (∀ e, after.find? Entry.takesSlot = some e →
          ∃ word, (e.resolved table).encode = .ok (some word) ∧
            words[before.countP Entry.takesSlot]? = some word) ∧
        (after.find? Entry.takesSlot = none →
          before.countP Entry.takesSlot = words.size)) := by
  intro table
  refine ⟨⟨LabelTable.nodup_names_ofEntries entries, fun _ => LabelTable.mem_names_ofEntries⟩,
    ?_, ?_, ?_, ?_⟩
  · rintro before name after rfl last
    exact LabelTable.lookup_ofEntries last
  · intro d
    rw [link_error]
    constructor
    · rintro ⟨label, failed, rfl⟩
      obtain ⟨before, after, split, free, clean⟩ := resolve?_error.mp failed
      exact ⟨before, label, after, split, free, clean, rfl⟩
    · rintro ⟨before, label, after, split, free, clean, rfl⟩
      exact ⟨label, resolve?_error.mpr ⟨before, after, split, free, clean⟩, rfl⟩
  · intro program
    rw [link_ok, resolve?_ok]
  · rintro before name after program rfl last linked m input loaded
    have written := reset_linked linked loaded
    have slot := filter_at_mark before after name
    intro words
    constructor
    · intro e found
      have here := congrArg (·[before.countP Entry.takesSlot]?) written
      simp only [List.getElem?_map, slot, found, Option.map_some, Option.map_eq_some_iff] at here
      obtain ⟨word, stored, same⟩ := here
      exact ⟨word, same.symm, by rw [← stored, Array.getElem?_toList]⟩
    · intro nothing
      have size := congrArg List.length written
      have rest : after.filter Entry.takesSlot = [] := by
        rw [← List.head?_eq_none_iff, List.head?_filter]
        exact nothing
      rw [List.length_map, List.length_map, List.length_map, Array.length_toList,
        List.filter_append, List.filter_cons_of_neg (by simp [Entry.takesSlot]), rest,
        List.append_nil, ← List.countP_eq_length_filter] at size
      exact size.symm

end DeskComputer
