import DeskComputer.Command.Log
import DeskComputer.Proofs.Program.Sessions
import Mathlib.Data.Finset.Card
import Mathlib.Data.Finset.Dedup

/-!
# Redefinitions

Labels that are defined again are found twice: on the lines, for the report, and at the slots, for
the log. Both walks know the last definition of each name (`Recalls`), so both find the definitions
of names that were defined before, each with the definition that came last (`Repetition`). Main
statement: `assemble_redefinitions`.
-/

namespace DeskComputer

open Source Text

/-- A definition of a label: its line, and the slot that it precedes. -/
structure Definition where
  name : String
  line : Nat
  slot : Nat
  deriving DecidableEq, Repr

/-- What the lines of a source text contribute, entry by entry, with the numbers of the lines. -/
def onLines (number : Nat) (contributions : List (List Entry)) : List (Nat × Entry) :=
  (contributions.zipIdx number).flatMap fun line => line.1.map (line.2, ·)

/-- The definitions among entries, given the slot of the first. -/
def definitionsFrom (slot : Nat) : List (Nat × Entry) → List Definition
  | [] => []
  | (line, .mark name) :: entries => ⟨name, line, slot⟩ :: definitionsFrom slot entries
  | _ :: entries => definitionsFrom (slot + 1) entries

/-- The label definitions in a source text, given what its lines contribute. -/
def definitions (contributions : List (List Entry)) : List Definition :=
  definitionsFrom 0 (onLines 1 contributions)

/-- A definition of a name, and the definition of that name before it. -/
structure Repetition where
  earlier : Definition
  later : Definition
  deriving DecidableEq, Repr

namespace Repetition

/-- The repetition as a report shows it. -/
def onLines (r : Repetition) : LineRedefinition := ⟨r.later.name, r.later.line, r.earlier.line⟩

/-- The repetition as it is logged. -/
def atSlots (r : Repetition) : Redefinition := ⟨r.later.name, r.later.slot, r.earlier.slot⟩

/-- Whether a repetition is one of some definitions: its two have one name, and no other definition
of that name stands between them. -/
def Within (defined : List Definition) (r : Repetition) : Prop :=
  ∃ before between after, defined = before ++ r.earlier :: (between ++ r.later :: after) ∧
    r.earlier.name = r.later.name ∧ ∀ d ∈ between, d.name ≠ r.later.name

end Repetition

/-- The repetitions among definitions, given those before them, the last one first. -/
def repeatedAfter (before : List Definition) : List Definition → List Repetition
  | [] => []
  | d :: ds =>
    let earlier? := before.find? (·.name = d.name)
    (earlier?.map (⟨·, d⟩)).toList ++ repeatedAfter (d :: before) ds

/-! ### Definitions -/

section Definitions

variable {number slot : Nat} {entries : List (Nat × Entry)} {contributions : List (List Entry)}

theorem definitionsFrom_slot (line : Nat) {e : Entry} (h : e.takesSlot = true) :
    definitionsFrom slot ((line, e) :: entries) = definitionsFrom (slot + 1) entries := by
  cases e with
  | mark name => cases h
  | _ => rfl

/-- The slot of a definition is the number of slots before it. -/
theorem mem_definitionsFrom {d : Definition} :
    d ∈ definitionsFrom slot entries ↔ ∃ before after,
      entries = before ++ (d.line, .mark d.name) :: after ∧
        d.slot = slot + before.countP (·.2.takesSlot) := by
  induction entries generalizing slot with
  | nil => simp [definitionsFrom]
  | cons entry entries ih =>
    obtain ⟨line, e⟩ := entry
    by_cases taken : e.takesSlot = true
    · rw [definitionsFrom_slot line taken, ih]
      constructor
      · rintro ⟨before, after, rfl, counted⟩
        refine ⟨(line, e) :: before, after, rfl, ?_⟩
        simp only [List.countP_cons, taken, if_true]
        omega
      · rintro ⟨before, after, split, counted⟩
        cases before with
        | nil =>
          cases (List.cons.inj split).1
          cases taken
        | cons head before =>
          obtain ⟨rfl, rfl⟩ := List.cons.inj split
          simp only [List.countP_cons, taken, if_true] at counted
          exact ⟨before, after, rfl, by omega⟩
    · cases e with
      | mark name =>
        rw [definitionsFrom, List.mem_cons, ih]
        constructor
        · rintro (rfl | ⟨before, after, rfl, counted⟩)
          · exact ⟨[], entries, rfl, rfl⟩
          · exact ⟨(line, .mark name) :: before, after, rfl, counted⟩
        · rintro ⟨before, after, split, counted⟩
          cases before with
          | nil =>
            obtain ⟨defined, number, place⟩ := d
            cases (List.cons.inj split).1
            cases counted
            exact .inl rfl
          | cons head before =>
            obtain ⟨rfl, rfl⟩ := List.cons.inj split
            exact .inr ⟨before, after, rfl, counted⟩
      | _ => exact absurd rfl taken

theorem onLines_entries (number : Nat) (contributions : List (List Entry)) :
    (onLines number contributions).map (·.2) = contributions.flatten := by
  induction contributions generalizing number with
  | nil => rfl
  | cons line contributions ih =>
    have first : (line.map fun e => (number, e)).map (·.2) = line := by simp
    have onward : onLines number (line :: contributions) =
        (line.map fun e => (number, e)) ++ onLines (number + 1) contributions := rfl
    rw [onward, List.map_append, first, ih, List.flatten_cons]

/-- The lines that are read hold the entries with their line numbers. -/
theorem onLines_parsed {file : String} {texts : List (List Char)} {lines : List ParsedLine}
    (read : parseLinesFrom number file texts = .ok lines) :
    onLines number (lines.map ParsedLine.entries) =
      lines.flatMap fun line => line.entries.map (line.number, ·) := by
  induction texts generalizing number lines with
  | nil =>
    cases read
    rfl
  | cons text texts ih =>
    obtain ⟨result, first, read⟩ := bind_ok.mp read
    obtain ⟨rest, remaining, read⟩ := bind_ok.mp read
    obtain rfl := pure_ok.mp read
    rw [List.flatMap_cons, ← ih remaining]
    rfl

/-- The name that an entry defines, if it is a label definition. -/
def Entry.defined? : Entry → Option String
  | .mark name => some name
  | _ => none

/-- The line and the name of an entry with its line, if it is a label definition. -/
def lineDefinition? (entry : Nat × Entry) : Option (Nat × String) :=
  entry.2.defined?.map (entry.1, ·)

theorem definitionsFrom_marks (slot : Nat) (entries : List (Nat × Entry)) :
    (definitionsFrom slot entries).map (fun d => (d.line, d.name)) =
      entries.filterMap lineDefinition? := by
  induction entries generalizing slot with
  | nil => rfl
  | cons entry entries ih =>
    obtain ⟨line, e⟩ := entry
    cases e with
    | mark name =>
      have here : lineDefinition? (line, .mark name) = some (line, name) := rfl
      rw [List.filterMap_cons_some here, ← ih slot]
      rfl
    | _ =>
      rw [List.filterMap_cons_none rfl, ← ih (slot + 1)]
      rfl

theorem definitions_names :
    (definitions contributions).map Definition.name =
      contributions.flatten.filterMap Entry.defined? := by
  have marked := congrArg (List.map Prod.snd)
    (definitionsFrom_marks 0 (onLines 1 contributions))
  have names (entry : Nat × Entry) : (lineDefinition? entry).map Prod.snd = entry.2.defined? := by
    rw [lineDefinition?, Option.map_map]
    exact Option.map_id_apply
  rw [List.map_map, List.map_filterMap, funext names] at marked
  rw [← onLines_entries 1, List.filterMap_map]
  exact marked

theorem marks_eq (lines : List ParsedLine) :
    Assembler.marks lines =
      (lines.flatMap fun line => line.entries.map (line.number, ·)).filterMap
        lineDefinition? := by
  rw [Assembler.marks, List.filterMap_flatMap]
  refine congrArg (List.flatMap · lines) (funext fun line => ?_)
  rw [List.filterMap_map]
  refine congrArg (List.filterMap · line.entries) (funext fun e => ?_)
  cases e <;> rfl

end Definitions

/-! ### Repetitions -/

section Repetitions

variable {before ds : List Definition} {r : Repetition}

theorem sublist_repeatedAfter : ((repeatedAfter before ds).map Repetition.later).Sublist ds := by
  induction ds generalizing before with
  | nil => exact .slnil
  | cons d ds ih =>
    rw [repeatedAfter, List.map_append]
    cases before.find? (·.name = d.name) with
    | none => exact ih.cons d
    | some earlier => exact ih.cons_cons d

theorem mem_repeatedAfter :
    r ∈ repeatedAfter before ds ↔ ∃ passed after, ds = passed ++ r.later :: after ∧
      (passed.reverse ++ before).find? (·.name = r.later.name) = some r.earlier := by
  induction ds generalizing before with
  | nil => simp [repeatedAfter]
  | cons d ds ih =>
    rw [repeatedAfter, List.mem_append, ih, Option.mem_toList, Option.map_eq_some_iff]
    constructor
    · rintro (⟨earlier, found, rfl⟩ | ⟨passed, after, rfl, found⟩)
      · exact ⟨[], ds, rfl, found⟩
      · refine ⟨d :: passed, after, rfl, ?_⟩
        rw [List.reverse_cons, List.append_assoc]
        exact found
    · rintro ⟨passed, after, split, found⟩
      cases passed with
      | nil =>
        obtain ⟨rfl, rfl⟩ := List.cons.inj split
        exact .inl ⟨r.earlier, found, rfl⟩
      | cons head passed =>
        obtain ⟨rfl, rfl⟩ := List.cons.inj split
        rw [List.reverse_cons, List.append_assoc] at found
        exact .inr ⟨passed, after, rfl, found⟩

theorem mem_repeated : r ∈ repeatedAfter [] ds ↔ r.Within ds := by
  rw [mem_repeatedAfter]
  simp only [List.append_nil, List.find?_eq_some_iff_append, decide_eq_true_eq, Bool.not_eq_true',
    decide_eq_false_iff_not]
  constructor
  · rintro ⟨passed, after, rfl, same, front, back, reversed, others⟩
    refine ⟨back.reverse, front.reverse, after, ?_, same, ?_⟩
    · have straight := congrArg List.reverse reversed
      rw [List.reverse_reverse, List.reverse_append, List.reverse_cons, List.append_assoc]
        at straight
      rw [straight, List.append_assoc, List.append_assoc]
      rfl
    · intro d member
      exact others d (List.mem_reverse.mp member)
  · rintro ⟨before, between, after, rfl, same, others⟩
    refine ⟨before ++ r.earlier :: between, after, by simp, same, between.reverse, before.reverse,
      by simp, ?_⟩
    intro d member
    exact others d (List.mem_reverse.mp member)

/-- Every definition is either the first of its name or a repetition. -/
theorem length_repeatedAfter (before ds : List Definition) :
    (repeatedAfter before ds).length +
        ((before.map Definition.name).toFinset ∪ (ds.map Definition.name).toFinset).card =
      ds.length + (before.map Definition.name).toFinset.card := by
  induction ds generalizing before with
  | nil => simp [repeatedAfter]
  | cons d ds ih =>
    have onward := ih (d :: before)
    rw [List.map_cons, List.toFinset_cons] at onward
    rw [repeatedAfter, List.length_append, List.map_cons, List.toFinset_cons, List.length_cons,
      Finset.union_insert]
    rw [Finset.insert_union] at onward
    have known : d.name ∈ (before.map Definition.name).toFinset ↔
        (before.find? (·.name = d.name)).isSome = true := by
      rw [List.mem_toFinset, List.mem_map, List.find?_isSome]
      simp only [decide_eq_true_eq]
    cases found : before.find? (·.name = d.name) with
    | none =>
      have new : d.name ∉ (before.map Definition.name).toFinset := by simp [known, found]
      rw [Finset.card_insert_of_notMem new] at onward
      simp only [Option.map_none, Option.toList_none, List.length_nil]
      omega
    | some earlier =>
      have old : d.name ∈ (before.map Definition.name).toFinset := by simp [known, found]
      rw [Finset.insert_eq_of_mem old] at onward
      simp only [Option.map_some, Option.toList_some, List.length_singleton]
      omega

theorem length_repeated (ds : List Definition) :
    (repeatedAfter [] ds).length + (ds.map Definition.name).dedup.length = ds.length := by
  have counted := length_repeatedAfter [] ds
  rw [List.map_nil, List.toFinset_nil, Finset.empty_union, Finset.card_empty,
    List.card_toFinset] at counted
  exact counted

end Repetitions

/-! ### The two walks -/

/-- Whether a table knows the last of some definitions for every name. The last one is the first of
the list. -/
def Recalls {α : Type} (known : Definition → α) (table : List (String × α))
    (before : List Definition) : Prop :=
  ∀ name, table.lookup name = (before.find? (·.name = name)).map known

section Walks

variable {before ds : List Definition}

theorem recalls_nil {α : Type} (known : Definition → α) : Recalls known [] [] := fun _ => rfl

theorem Recalls.bindName {α : Type} {known : Definition → α} {table : List (String × α)}
    (h : Recalls known table before) (d : Definition) :
    Recalls known (DeskComputer.bindName d.name (known d) table) (d :: before) := by
  intro name
  rw [lookup_bindName, List.find?_cons]
  by_cases hit : name = d.name
  · simp [hit]
  · have missed : ¬d.name = name := fun same => hit same.symm
    rw [if_neg hit, h name]
    simp [missed]

theorem lineRedefinitions_eq {defined : List (String × Nat)}
    (h : Recalls Definition.line defined before) :
    Assembler.lineRedefinitions defined (ds.map fun d => (d.line, d.name)) =
      (repeatedAfter before ds).map Repetition.onLines := by
  induction ds generalizing defined before with
  | nil => rfl
  | cons d ds ih =>
    rw [List.map_cons, Assembler.lineRedefinitions, repeatedAfter, List.map_append,
      ih (h.bindName d), h d.name]
    cases before.find? (·.name = d.name) <;> rfl

theorem redefinitions_foldl {b : Binding} {entries : List (Nat × Entry)}
    (h : Recalls (fun d => (d.slot : Int)) b.table before) :
    ((entries.map (·.2)).foldl Binding.add b).redefinitions =
      b.redefinitions ++
        (repeatedAfter before (definitionsFrom b.slot entries)).map Repetition.atSlots := by
  induction entries generalizing b before with
  | nil => simp [definitionsFrom, repeatedAfter]
  | cons entry entries ih =>
    obtain ⟨line, e⟩ := entry
    rw [List.map_cons, List.foldl_cons]
    cases e with
    | mark name =>
      have onward := ih (b := b.add (.mark name)) (h.bindName ⟨name, line, b.slot⟩)
      rw [onward]
      show (b.redefinitions ++ _) ++ _ = _
      rw [List.append_assoc, definitionsFrom, repeatedAfter, List.map_append, h name]
      cases before.find? (·.name = name) <;> rfl
    | _ => exact ih h

end Walks

/-! ### Assemblies -/

namespace Assembler

variable {a : Assembler} {source file : String} {lines : List ParsedLine}

theorem assembleLines_unwarned (file : String) (fresh : a.report.errors = [])
    {d : Diagnostic} {rest : List Diagnostic}
    (failed : lines.filterMap ParsedLine.error? = d :: rest) :
    (a.assembleLines file lines).2.report.warnings = a.report.warnings ∧
      (a.assembleLines file lines).2.redefinitions = a.redefinitions := by
  obtain ⟨more, kept⟩ := a.report.addAll_errors d rest
  rw [assembleLines_failed file fresh failed]
  exact ⟨congrArg (·.warnings) kept, rfl⟩

/-- Lines without a problem are searched for redefinitions on both ways, whether or not their labels
are resolved. -/
theorem assembleLines_warned (file : String) (fresh : a.report.errors = [])
    (fine : lines.filterMap ParsedLine.error? = []) :
    (a.assembleLines file lines).2.report.warnings =
        a.report.warnings ++
          (lineRedefinitions [] (marks lines)).map (LineRedefinition.warning file) ∧
      (a.assembleLines file lines).2.redefinitions =
        (Binding.ofEntries (lines.flatMap ParsedLine.entries)).redefinitions := by
  cases resolved : resolve? (.ofEntries (lines.flatMap ParsedLine.entries))
      (lines.flatMap ParsedLine.entries) with
  | error label =>
    rw [assembleLines_dangling file fresh fine resolved]
    dsimp only
    obtain ⟨more, kept⟩ := (warned file lines a.report).addOrStop_errors
      (unresolvedAt file lines (Binding.ofEntries (lines.flatMap ParsedLine.entries)).table label)
    exact ⟨congrArg (·.warnings) kept, rfl⟩
  | ok program =>
    rw [assembleLines_linked file fresh fine (link_ok.mpr resolved)]
    exact ⟨rfl, rfl⟩

/-- The warnings that an assembly logs. -/
def loggedWarnings (a : Assembler) : List Command.LogRecord :=
  (Command.assemblyLog a).filter (·.level = .warning)

theorem loggedWarnings_eq (h : a.lines.filterMap ParsedLine.error? = [] ∨ a.redefinitions = []) :
    a.loggedWarnings =
      a.redefinitions.map fun r => ⟨.warning, Command.assemblerOrigin, r.message⟩ := by
  have parser : (Command.parserLog a).filter (·.level = .warning) = [] := by
    apply List.filter_eq_nil_iff.mpr
    intro record member
    obtain ⟨message, -, rfl⟩ := List.mem_map.mp member
    simp
  rw [loggedWarnings, Command.assemblyLog, List.cons_append, List.filter_cons_of_neg (by simp),
    List.filter_append, parser, List.nil_append]
  split
  · rename_i failed
    rcases h with fine | none
    · obtain ⟨line, member, some⟩ := List.any_eq_true.mp failed
      rw [List.filterMap_eq_nil_iff] at fine
      rw [fine line member] at some
      cases some
    · rw [none]
      rfl
  · rw [List.filter_append]
    have kept : ∀ r ∈ a.redefinitions.map fun r =>
        (⟨.warning, Command.assemblerOrigin, r.message⟩ : Command.LogRecord),
        decide (r.level = .warning) = true := by
      simp
    rw [List.filter_eq_self.mpr kept]
    split <;> simp

/-- The two walks over lines that are all read find the same repetitions. -/
theorem assemble_repeated {contributions : List (List Entry)}
    (read : lineResults source file = contributions.map fun entries => .ok (.ok entries)) :
    let after := (a.assemble source file).2
    let repeated := repeatedAfter [] (definitions contributions)
    after.report.warnings = repeated.map (fun r => r.onLines.warning file) ∧
      after.redefinitions = repeated.map Repetition.atSlots ∧
      after.lines.filterMap ParsedLine.error? = [] := by
  have fresh : (a.begin file).report.errors = [] := rfl
  have unwarned : (a.begin file).report.warnings = [] := rfl
  have read : lineResults source file = (contributions.map .ok : List LineResult).map .ok :=
    read.trans (List.map_map ..).symm
  obtain ⟨lines, parsed, results, -⟩ := parseLinesFrom_ok read
  have parsed : parseSource source file = .ok lines := parsed
  obtain ⟨entries, fine⟩ := entries_of_results results
  obtain ⟨warnings, again⟩ := assembleLines_warned file fresh fine
  have placed := onLines_parsed parsed
  rw [entries] at placed
  have marked : marks lines = (definitions contributions).map fun d => (d.line, d.name) := by
    rw [marks_eq, ← placed, ← definitionsFrom_marks]
    rfl
  have flat : lines.flatMap ParsedLine.entries = (onLines 1 contributions).map (·.2) := by
    rw [onLines_entries, ← entries, List.flatMap_def]
  rw [assemble, parsed]
  refine ⟨?_, ?_, ?_⟩
  · refine warnings.trans ?_
    rw [unwarned, List.nil_append, marked,
      lineRedefinitions_eq (recalls_nil _), List.map_map]
    rfl
  · refine again.trans ?_
    rw [flat, Binding.ofEntries, redefinitions_foldl (b := {}) (recalls_nil _)]
    rfl
  · exact (congrArg _ assembleLines_lines).trans fine

/-- A source text with a line that is not read warns of nothing, neither way. -/
theorem assemble_unwarned
    (h : ∃ result ∈ lineResults source file, ∀ entries, result ≠ .ok (.ok entries)) :
    (a.assemble source file).2.report.warnings = [] ∧
      (a.assemble source file).2.redefinitions = [] := by
  obtain ⟨result, member, unread⟩ := h
  cases parsed : parseSource source file with
  | error numeral =>
    rw [assemble_unread parsed]
    exact ⟨rfl, rfl⟩
  | ok lines =>
    have results : lineResults source file = lines.map fun line => .ok line.result :=
      parseLinesFrom_results parsed
    rw [results] at member
    obtain ⟨line, present, rfl⟩ := List.mem_map.mp member
    have failed : lines.filterMap ParsedLine.error? ≠ [] := by
      intro fine
      have read := ParsedLine.result_eq_ok (filterMap_error?_eq_nil.mp fine line present)
      exact unread _ (congrArg _ read)
    obtain ⟨d, rest, failed⟩ := List.exists_cons_of_ne_nil failed
    rw [assemble, parsed]
    exact assembleLines_unwarned (a := a.begin file) file rfl failed

/-- A source text whose lines are all read warns of each definition of a name that was defined
before. The report names the two lines, and the log the two slots, of the same two definitions. A
source text with a line that is not read warns of nothing. -/
theorem assemble_redefinitions (a : Assembler) (source file : String) :
    let after := (a.assemble source file).2
    (∀ contributions : List (List Entry),
      lineResults source file = contributions.map (fun entries => .ok (.ok entries)) →
      let defined := definitions contributions
      let names := contributions.flatten.filterMap Entry.defined?
      defined.map Definition.name = names ∧
      (∀ d, d ∈ defined ↔ ∃ before after,
        onLines 1 contributions = before ++ (d.line, .mark d.name) :: after ∧
          d.slot = before.countP (·.2.takesSlot)) ∧
      ∃ repeated : List Repetition,
        (repeated.map Repetition.later).Sublist defined ∧
        (∀ r, r ∈ repeated ↔ r.Within defined) ∧
        repeated.length + names.dedup.length = names.length ∧
        after.report.warnings = repeated.map (fun r => r.onLines.warning file) ∧
        after.redefinitions = repeated.map Repetition.atSlots ∧
        after.loggedWarnings = repeated.map fun r =>
          ⟨.warning, Command.assemblerOrigin, r.atSlots.message⟩) ∧
    ((∃ result ∈ lineResults source file, ∀ entries, result ≠ .ok (.ok entries)) →
      after.report.warnings = [] ∧ after.redefinitions = [] ∧ after.loggedWarnings = []) := by
  intro after
  constructor
  · intro contributions read defined names
    have named : defined.map Definition.name = names := definitions_names
    obtain ⟨reported, logged, fine⟩ := assemble_repeated (a := a) read
    refine ⟨named, ?_, repeatedAfter [] defined, sublist_repeatedAfter, fun _ => mem_repeated, ?_,
      reported, logged, ?_⟩
    · intro d
      have placed : d ∈ definitionsFrom 0 (onLines 1 contributions) ↔ _ := mem_definitionsFrom
      simp only [Nat.zero_add] at placed
      exact placed
    · have counted := length_repeated defined
      rw [← List.length_map Definition.name, named] at counted
      exact counted
    · rw [loggedWarnings_eq (.inl fine), logged, List.map_map]
      rfl
  · intro unread
    obtain ⟨reported, logged⟩ := assemble_unwarned (a := a) unread
    refine ⟨reported, logged, ?_⟩
    rw [loggedWarnings_eq (.inr logged), logged]
    rfl

/-- A name defined three times is warned of twice, also where a reference dangles. -/
theorem assemble_redefinitions_thrice :
    let after := (({} : Assembler).assemble "x:\nset a,y\nX:\nx:" "f").2
    (∃ contributions, lineResults "x:\nset a,y\nX:\nx:" "f" =
      contributions.map (fun entries => .ok (.ok entries)) ∧
      ∃ repeated : List Repetition, (∀ r, r ∈ repeated ↔ r.Within (definitions contributions)) ∧
        repeated.length = 2 ∧ after.redefinitions = repeated.map Repetition.atSlots) ∧
    after.redefinitions = [⟨"x", 2, 0⟩, ⟨"x", 2, 2⟩] ∧
    after.report.warnings =
      ["f:3: label 'x' redefined (previously defined on line 1)",
        "f:4: label 'x' redefined (previously defined on line 3)"] := by
  have read : lineResults "x:\nset a,y\nX:\nx:" "f" =
      [[.mark "x"], [.code (.unary .set 0), .ref "y"], [.mark "x"], [.mark "x"]].map
        (fun entries => .ok (.ok entries)) := by rfl
  obtain ⟨-, -, repeated, -, within, counted, -, logged, -⟩ :=
    (assemble_redefinitions {} "x:\nset a,y\nX:\nx:" "f").1 _ read
  refine ⟨⟨_, read, repeated, within, ?_, logged⟩, by rfl, by rfl⟩
  have names : ["x", "x", "x"].dedup.length = 1 := by decide
  have counted : repeated.length + ["x", "x", "x"].dedup.length = 3 := counted
  omega

end Assembler

end DeskComputer
