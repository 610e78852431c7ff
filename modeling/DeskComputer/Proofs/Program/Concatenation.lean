import DeskComputer.Proofs.Program.LabelJump
import DeskComputer.Proofs.Source.Lines

/-!
# Texts one after the other

Source texts that assemble on their own and define no label in common assemble together, if the
first is cut from the second by a line feed. The program of the second comes behind that of the
first, with its labels moved by the length of the first. Main statement: `assembleSource_append`.
-/

namespace DeskComputer

open Source Text

/-! ### Tables -/

/-- The table of entries that come behind a number of slots. -/
def LabelTable.shift (table : LabelTable) (slots : Nat) : LabelTable :=
  table.map fun (name, slot) => (name, slot + slots)

theorem LabelTable.shift_cons (name : String) (slot : Int) (table : LabelTable) (slots : Nat) :
    shift ((name, slot) :: table) slots = (name, slot + slots) :: table.shift slots := rfl

theorem LabelTable.lookup_shift (table : LabelTable) (slots : Nat) (name : String) :
    (table.shift slots).lookup name = (table.lookup name).map (· + (slots : Int)) := by
  induction table with
  | nil => rfl
  | cons entry table ih =>
    obtain ⟨known, slot⟩ := entry
    rw [shift_cons, lookup_entry, lookup_entry, ih]
    split <;> rfl

theorem LabelTable.names_shift (table : LabelTable) (slots : Nat) :
    (table.shift slots).names = table.names := by
  unfold names shift
  rw [List.map_map]
  rfl

theorem LabelTable.lookup_append_of_mem {front : LabelTable} {name : String}
    (bound : name ∈ front.names) (table : LabelTable) :
    (front ++ table).lookup name = front.lookup name := by
  obtain ⟨slot, found⟩ := mem_names.mp bound
  rw [List.lookup_append, found, Option.some_or]

theorem LabelTable.lookup_append_of_not_mem {front : LabelTable} {name : String}
    (free : name ∉ front.names) (table : LabelTable) :
    (front ++ table).lookup name = table.lookup name := by
  have none : front.lookup name = none := by
    rw [Option.eq_none_iff_forall_ne_some]
    exact fun slot found => free (mem_names.mpr ⟨slot, found⟩)
  rw [List.lookup_append, none, Option.none_or]

theorem bindName_append {α : Type} {name : String} {value : α} {front : List (String × α)}
    (free : name ∉ front.map (·.1)) (table : List (String × α)) :
    bindName name value (front ++ table) = front ++ bindName name value table := by
  induction front with
  | nil => rfl
  | cons entry front ih =>
    obtain ⟨known, old⟩ := entry
    rw [List.map_cons, List.mem_cons, not_or] at free
    rw [List.cons_append, bindName, if_neg (Ne.symm free.1), ih free.2]
    rfl

theorem LabelTable.bindName_shift (table : LabelTable) (slots : Nat) (name : String) (slot : Int) :
    bindName name (slot + slots) (table.shift slots) = shift (bindName name slot table) slots := by
  induction table with
  | nil => rfl
  | cons entry table ih =>
    obtain ⟨known, old⟩ := entry
    rw [shift_cons, bindName, bindName, ih]
    split <;> rfl

/-- Binding goes on behind a table with whose names the entries have none in common as it would have
from the start, but for the slots before. -/
theorem Binding.table_foldl_shift {front : LabelTable} {slots : Nat} {entries : List Entry}
    (free : ∀ name, .mark name ∈ entries → name ∉ front.names) {b alone : Binding}
    (table : b.table = front ++ alone.table.shift slots) (slot : b.slot = alone.slot + slots) :
    (entries.foldl add b).table = front ++ (entries.foldl add alone).table.shift slots := by
  induction entries generalizing b alone with
  | nil => exact table
  | cons e entries ih =>
    have later : ∀ name, .mark name ∈ entries → name ∉ front.names := fun name member =>
      free name (List.mem_cons_of_mem _ member)
    rw [List.foldl_cons, List.foldl_cons]
    cases e with
    | mark name =>
      refine ih later ?_ slot
      show bindName name (b.slot : Int) b.table = _
      rw [table, slot, bindName_append (free name List.mem_cons_self), Int.natCast_add,
        LabelTable.bindName_shift]
      rfl
    | _ => exact ih later table (by simp only [add]; omega)

theorem LabelTable.ofEntries_append {first second : List Entry}
    (apart : ∀ name ∈ (ofEntries first).names, name ∉ (ofEntries second).names) :
    ofEntries (first ++ second) =
      ofEntries first ++ (ofEntries second).shift (first.countP Entry.takesSlot) := by
  unfold ofEntries Binding.ofEntries
  rw [List.foldl_append]
  apply Binding.table_foldl_shift
  · intro name defined member
    exact apart name member (mem_names_ofEntries.mpr defined)
  · exact (List.append_nil _).symm
  · exact Binding.slot_foldl

/-! ### Linking -/

section Linking

variable {first second p q : List Entry}

theorem Entry.resolved_congr {e : Entry} {table other : LabelTable}
    (same : ∀ label, e = .ref label → table.lookup label = other.lookup label) :
    e.resolved table = e.resolved other := by
  cases e with
  | ref label => rw [resolved, resolved, same label rfl]
  | _ => rfl

theorem link_length (linked : link first = .ok p) : p.length = first.countP Entry.takesSlot := by
  rw [(resolve?_ok.mp (link_ok.mp linked)).2, List.length_map, List.countP_eq_length_filter]

/-- What two lists of entries link to, one after the other. The references of each find the labels
that they find without the other. -/
theorem link_append (linked : link first = .ok p) (linked' : link second = .ok q)
    (apart : ∀ name ∈ (LabelTable.ofEntries first).names,
      name ∉ (LabelTable.ofEntries second).names) :
    link (first ++ second) = .ok (p ++ (second.filter Entry.takesSlot).map
      (Entry.resolved ((LabelTable.ofEntries second).shift p.length))) := by
  obtain ⟨bound, rfl⟩ := resolve?_ok.mp (link_ok.mp linked)
  obtain ⟨bound', rfl⟩ := resolve?_ok.mp (link_ok.mp linked')
  rw [link_length linked, link_ok, LabelTable.ofEntries_append apart, resolve?_ok,
    List.filter_append, List.map_append]
  have names : (LabelTable.ofEntries first ++ (LabelTable.ofEntries second).shift
      (first.countP Entry.takesSlot)).names =
        (LabelTable.ofEntries first).names ++ (LabelTable.ofEntries second).names := by
    rw [← LabelTable.names_shift (.ofEntries second)]
    exact List.map_append
  -- A reference of the first part is looked up in the front of the table, and one of the second
  -- part behind it, since its label is not in the front.
  constructor
  · intro label member
    rw [names, List.mem_append]
    exact (List.mem_append.mp member).imp (bound label) (bound' label)
  · congr 1
    · apply List.map_congr_left
      intro e member
      apply Entry.resolved_congr
      rintro label rfl
      exact (LabelTable.lookup_append_of_mem (bound label (List.mem_filter.mp member).1) _).symm
    · apply List.map_congr_left
      intro e member
      apply Entry.resolved_congr
      rintro label rfl
      have here := bound' label (List.mem_filter.mp member).1
      exact (LabelTable.lookup_append_of_not_mem (fun there => apart label there here) _).symm

end Linking

/-! ### Sources -/

/-- What the statements of a source text come to, line by line. -/
def statements (source : String) : List (Except Refusal (List Entry)) :=
  (splitLines source.toList).map fun text => parseStatement (trim text)

theorem statements_append {first : String}
    (ended : first = "" ∨ first.toList.getLast? = some '\n') (second : String) :
    statements (first ++ second) = statements first ++ statements second := by
  have cut : first.toList = [] ∨ first.toList.getLast? = some '\n' :=
    ended.imp_left fun empty => by rw [empty]; rfl
  unfold statements
  rw [String.toList_append, splitLines_append_of_ended cut, List.map_append]

section Sources

variable {source file : String} {program : List Entry} {contributions : List (List Entry)}

theorem assembleSource_of_statements (read : statements source = contributions.map .ok)
    (linked : link contributions.flatten = .ok program) (file : String) :
    assembleSource source file = .ok program := by
  have each : resultsFrom 1 file (splitLines source.toList) =
      (contributions.map .ok : List LineResult).map .ok := by
    rw [resultsFrom_ok.mpr read, List.map_map]
    rfl
  obtain ⟨lines, parsed, same, -⟩ := parseLinesFrom_ok each
  obtain ⟨rfl, fine⟩ := entries_of_results same
  exact assembleSource_linked parsed fine (by rwa [List.flatMap_def])

theorem Assembler.assemble_statements (a : Assembler)
    (h : assembleSource source file = .ok program) :
    ∃ contributions : List (List Entry), statements source = contributions.map .ok ∧
      link contributions.flatten = .ok program ∧
      (a.assemble source file).1 = .ok program ∧
      (a.assemble source file).2.hasErrors = false ∧
      (a.assemble source file).2.slots = contributions.flatten.filter Entry.takesSlot ∧
      (a.assemble source file).2.labels = .ofEntries contributions.flatten := by
  obtain ⟨lines, parsed, fine, linked, whole, clean, sameLines, labels⟩ := a.assemble_ok h
  rw [List.flatMap_def] at linked labels
  refine ⟨lines.map ParsedLine.entries, ?_, linked, whole, clean, ?_, labels⟩
  · apply resultsFrom_ok.mp
    rw [parseLinesFrom_results parsed, List.map_map]
    apply List.map_congr_left
    intro line member
    exact congrArg Except.ok
      (line.result_eq_ok (filterMap_error?_eq_nil.mp fine line member))
  · rw [slots, sameLines, List.flatMap_def]

end Sources

/-- Source texts that assemble by themselves assemble together, the first being cut from the second,
if no label is defined in both. The second program comes behind the first, changed in the places of
its references only, and the labels of the second text are moved by the length of the first
program. -/
theorem assembleSource_append {first second file₁ file₂ : String} {p q : List Entry}
    (x : Assembler) (ended : first = "" ∨ first.toList.getLast? = some '\n')
    (assembles₁ : assembleSource first file₁ = .ok p)
    (assembles₂ : assembleSource second file₂ = .ok q)
    (apart : ∀ name ∈ (x.assemble first file₁).2.labels.names,
      name ∉ (x.assemble second file₂).2.labels.names) (file : String) :
    let a := (x.assemble first file₁).2
    let b := (x.assemble second file₂).2
    let whole := x.assemble (first ++ second) file
    ∃ moved, assembleSource (first ++ second) file = .ok (p ++ moved) ∧
      whole.1 = .ok (p ++ moved) ∧ whole.2.hasErrors = false ∧
      moved.length = q.length ∧
      (∀ (i : Nat) label, b.slots[i]? = some (.ref label) →
        ∃ slot, b.labels.lookup label = some slot ∧
          moved[i]? = some (.data ((slot + p.length) % 256))) ∧
      (∀ i : Nat, (∀ label, b.slots[i]? ≠ some (.ref label)) → moved[i]? = q[i]?) ∧
      whole.2.labels = a.labels ++ b.labels.shift p.length := by
  intro a b whole
  obtain ⟨before, read₁, linked₁, -, -, -, labels₁⟩ := x.assemble_statements assembles₁
  obtain ⟨behind, read₂, linked₂, -, -, slots₂, labels₂⟩ := x.assemble_statements assembles₂
  have separate := apart
  rw [labels₁, labels₂] at separate
  have read : statements (first ++ second) = (before ++ behind).map .ok := by
    rw [statements_append ended, read₁, read₂, List.map_append]
  have linked := link_append linked₁ linked₂ separate
  rw [← List.flatten_append] at linked
  have assembles := assembleSource_of_statements read linked file
  obtain ⟨contributions, again, -, answered, clean, -, labels⟩ := x.assemble_statements assembles
  obtain rfl : before ++ behind = contributions :=
    (List.map_inj_right fun _ _ => Except.ok.inj).mp (read.symm.trans again)
  obtain ⟨bound, resolved⟩ := resolve?_ok.mp (link_ok.mp linked₂)
  rw [← slots₂, ← labels₂] at resolved
  rw [← slots₂, ← labels₂] at assembles answered
  refine ⟨_, assembles, answered, clean, ?_, ?_, ?_, ?_⟩
  · rw [resolved, List.length_map, List.length_map]
  · intro i label reference
    have member : .ref label ∈ behind.flatten :=
      (List.mem_filter.mp (slots₂ ▸ List.mem_of_getElem? reference)).1
    obtain ⟨slot, found⟩ := LabelTable.mem_names.mp (bound label member)
    rw [← labels₂] at found
    refine ⟨slot, found, ?_⟩
    rw [List.getElem?_map, reference, Option.map_some, Entry.resolved, LabelTable.lookup_shift,
      found]
    rfl
  · intro i other
    rw [resolved, List.getElem?_map, List.getElem?_map]
    apply Option.map_congr
    intro e stands
    apply Entry.resolved_congr
    rintro label rfl
    exact absurd stands (other label)
  · show whole.2.labels = (x.assemble first file₁).2.labels ++ _
    rw [labels, List.flatten_append, LabelTable.ofEntries_append separate, labels₁, labels₂,
      link_length linked₁]

/-- The label of the second text is at its end, and behind the first it is two slots later. -/
theorem assembleSource_append_moved :
    assembleSource "x:\nset a,x\n" "one" = .ok [.code (.unary .set 0), .data 0] ∧
    assembleSource "set b,y\ny:" "two" = .ok [.code (.unary .set 1), .data 2] ∧
    (({} : Assembler).assemble "x:\nset a,x\n" "one").2.labels = [("x", 0)] ∧
    (({} : Assembler).assemble "set b,y\ny:" "two").2.labels = [("y", 2)] ∧
    ∃ moved, moved[0]? = some (.code (.unary .set 1)) ∧ moved[1]? = some (.data 4) ∧
      assembleSource ("x:\nset a,x\n" ++ "set b,y\ny:") "both" =
        .ok ([.code (.unary .set 0), .data 0] ++ moved) ∧
      (({} : Assembler).assemble ("x:\nset a,x\n" ++ "set b,y\ny:") "both").2.labels =
        [("x", 0), ("y", 4)] := by
  have assembles₁ : assembleSource "x:\nset a,x\n" "one" =
      .ok [.code (.unary .set 0), .data 0] := by rfl
  have assembles₂ : assembleSource "set b,y\ny:" "two" =
      .ok [.code (.unary .set 1), .data 2] := by rfl
  have labels₁ : (({} : Assembler).assemble "x:\nset a,x\n" "one").2.labels = [("x", 0)] := by rfl
  have labels₂ : (({} : Assembler).assemble "set b,y\ny:" "two").2.labels = [("y", 2)] := by rfl
  have slots : (({} : Assembler).assemble "set b,y\ny:" "two").2.slots =
      [.code (.unary .set 1), .ref "y"] := by rfl
  obtain ⟨moved, assembles, -, -, -, references, others, labels⟩ :=
    assembleSource_append {} (.inr (by rfl)) assembles₁ assembles₂
      (by rw [labels₁, labels₂]; decide) "both"
  rw [labels₂] at references
  rw [labels₁, labels₂] at labels
  obtain ⟨slot, found, here⟩ := references 1 "y" (by rw [slots]; rfl)
  cases found
  have first := others 0 fun label same => by
    rw [slots] at same
    cases same
  exact ⟨assembles₁, assembles₂, labels₁, labels₂, moved, first, here, assembles, labels⟩

end DeskComputer
