import DeskComputer.Proofs.Program.Relisting
import DeskComputer.Proofs.Source.Lines

/-!
# Names of labels

A label is named by its definition as by references to it: the operand of a `set` that is read as a
reference, with a colon behind it, is read as the definition of that label, whatever characters the
name has. Main statement: `assembleSource_named`.
-/

namespace DeskComputer

open Source Text

namespace Source

variable {line : List Char} {r : Int} {label : String}

/-- A reference is an operand in lower case. -/
theorem readImmediate_ref {token : List Char} (read : readImmediate token = .ok (.ref label)) :
    label = String.ofList (lower (trim token)) := by
  unfold readImmediate at read
  dsimp only at read
  split at read
  · cases read
  · obtain ⟨number?, -, read⟩ := bind_ok.mp read
    cases number? with
    | some n => cases pure_ok.mp read
    | none =>
      cases pure_ok.mp read
      rfl

/-- Only a `set` of two operands refers to a label, and by the second of them. -/
theorem readStatement_ref {op : Opcode} {operands : List (List Char)}
    (read : readStatement op operands = .ok [.code (.unary .set r), .ref label]) :
    ∃ register name, operands = [register, name] ∧ readImmediate name = .ok (.ref label) := by
  unfold readStatement at read
  split at read
  · cases read
  · rename_i register name
    obtain ⟨_, -, read⟩ := bind_ok.mp read
    obtain ⟨operand, immediate, read⟩ := bind_ok.mp read
    cases pure_ok.mp read
    exact ⟨register, name, rfl, immediate⟩
  · cases read
  · obtain ⟨_, -, read⟩ := bind_ok.mp read
    cases pure_ok.mp read
  · obtain ⟨_, -, read⟩ := bind_ok.mp read
    obtain ⟨_, -, read⟩ := bind_ok.mp read
    cases pure_ok.mp read
  · obtain ⟨_, -, read⟩ := bind_ok.mp read
    obtain ⟨_, -, read⟩ := bind_ok.mp read
    cases pure_ok.mp read
  · obtain ⟨_, -, read⟩ := bind_ok.mp read
    obtain ⟨_, -, read⟩ := bind_ok.mp read
    cases pure_ok.mp read
  · cases read

theorem parseStatement_ref
    (read : parseStatement line = .ok [.code (.unary .set r), .ref label]) :
    ∃ register name, splitOperands (afterWord line) = [register, name] ∧
      readImmediate name = .ok (.ref label) := by
  unfold parseStatement at read
  split at read
  · cases read
  · split at read
    · dsimp only at read
      split at read <;> cases read
    · dsimp only at read
      split at read
      · cases read
      · exact readStatement_ref read

/-- A name with a colon behind it is the definition of its label. -/
theorem parseStatement_definition {name : List Char} (filled : name ≠ [])
    (trimmed : trim name = name) (code : name.head? ≠ some ';') :
    parseStatement (trim (name ++ [':'])) = .ok [.mark (String.ofList (lower name))] := by
  have start : (name ++ [':']).head? = name.head? := by
    rw [List.head?_append, List.head?_eq_some_head filled, Option.some_or]
  have first : ∀ c ∈ (name ++ [':']).head?, isBlank c = false := by
    rw [start, ← trimmed]
    exact head?_trim
  have last : ∀ c ∈ (name ++ [':']).getLast?, isBlank c = false := by
    rw [List.getLast?_concat]
    rintro c ⟨⟩
    decide
  have statement : ¬((name ++ [':']).isEmpty || (name ++ [':']).head? = some ';') = true := by
    rw [start]
    simpa using code
  have named : ¬name.isEmpty = true := by simpa using filled
  rw [trim_eq_self first last, parseStatement, if_neg statement,
    if_pos List.getLast?_concat, List.dropLast_concat, trimmed]
  exact if_neg named

end Source

section Names

variable {line file : String} {number r : Int} {label : String}

/-- The reference in a program of one instruction and one reference is replaced by the slot of its
label. -/
theorem link_reference {entries : List Entry} {inst : Instruction Int} {slot : Int}
    (slots : entries.filter Entry.takesSlot = [.code inst, .ref label])
    (bound : (LabelTable.ofEntries entries).lookup label = some slot) :
    link entries = .ok [.code inst, .data (slot % 256)] := by
  rw [link_ok, resolve?_ok, slots]
  constructor
  · intro other member
    have taken : Entry.ref other ∈ entries.filter Entry.takesSlot :=
      List.mem_filter.mpr ⟨member, rfl⟩
    rw [slots] at taken
    obtain rfl : other = label := by simpa using taken
    exact LabelTable.mem_names.mpr ⟨slot, bound⟩
  · simp only [List.map_cons, List.map_nil, Entry.resolved, bound, Option.getD_some]

/-- The operand that refers to a label defines it with a colon behind it, unless the line is then a
comment. So the two lines assemble in either order. -/
theorem assembleSource_named
    (read : parseLine line number file = .ok (.ok [.code (.unary .set r), .ref label])) :
    ∃ register name, splitOperands (afterWord (trim line.toList)) = [register, name] ∧
      (name.head? ≠ some ';' →
        let definition := String.ofList name ++ ":"
        (∀ number file, parseLine definition number file = .ok (.ok [.mark label])) ∧
        ((∀ c ∈ line.toList, isLineBreak c = false) → ∀ file,
          assembleSource (line ++ "\n" ++ definition) file =
            .ok [.code (.unary .set r), .data 2] ∧
          assembleSource (definition ++ "\n" ++ line) file =
            .ok [.code (.unary .set r), .data 0])) := by
  have referring := parseLine_ok.mp read
  obtain ⟨register, name, operands, immediate⟩ := parseStatement_ref referring
  refine ⟨register, name, operands, ?_⟩
  intro code definition
  have second : name ∈ splitOperands (afterWord (trim line.toList)) := by simp [operands]
  obtain ⟨filled, trimmed⟩ := trimmed_of_mem_splitOperands second
  have same : label = String.ofList (lower name) := by
    rw [readImmediate_ref immediate, trimmed]
  have spelled : definition.toList = name ++ [':'] := by
    rw [String.toList_append, String.toList_ofList]
    rfl
  have defining : parseStatement (trim definition.toList) = .ok [.mark label] := by
    rw [spelled, same]
    exact parseStatement_definition filled trimmed code
  refine ⟨fun _ _ => parseLine_ok.mpr defining, fun unbroken file => ?_⟩
  have unbroken' : ∀ c ∈ definition.toList, isLineBreak c = false := by
    rw [spelled]
    intro c here
    rcases List.mem_append.mp here with within | colon
    · have behind := mem_of_mem_splitOperands second within
      have inside := ((List.dropWhile_suffix _).trans (List.dropWhile_suffix _)).mem behind
      exact unbroken c (mem_of_mem_trim inside)
    · obtain rfl := List.mem_singleton.mp colon
      decide
  have both : ∀ l ∈ [line, definition], ∀ c ∈ l.toList, isLineBreak c = false := by
    simpa using ⟨unbroken, unbroken'⟩
  have both' : ∀ l ∈ [definition, line], ∀ c ∈ l.toList, isLineBreak c = false := by
    simpa using ⟨unbroken', unbroken⟩
  constructor
  · have reads : Reads [line, definition] [.code (.unary .set r), .ref label, .mark label] :=
      .cons referring (.cons defining .nil)
    have bound := @LabelTable.lookup_ofEntries [.code (.unary .set r), .ref label] [] label
      List.not_mem_nil
    exact reads.assembleSource both (link_reference rfl bound) file
  · have reads : Reads [definition, line] [.mark label, .code (.unary .set r), .ref label] :=
      .cons defining (.cons referring .nil)
    have bound := @LabelTable.lookup_ofEntries [] [.code (.unary .set r), .ref label] label
      (by simp)
    exact reads.assembleSource both' (link_reference rfl bound) file

/-- A name with a quote, a letter beyond ASCII, a colon and a blank, and empty operands after it. -/
theorem assembleSource_named_quoted :
    parseLine "set b, 'É: Q,," 1 "name" = .ok (.ok [.code (.unary .set 1), .ref "'é: q"]) ∧
    parseLine "'É: Q:" 2 "name" = .ok (.ok [.mark "'é: q"]) ∧
    assembleSource "set b, 'É: Q,,\n'É: Q:" "name" = .ok [.code (.unary .set 1), .data 2] ∧
    assembleSource "'É: Q:\nset b, 'É: Q,," "name" = .ok [.code (.unary .set 1), .data 0] := by
  have read : parseLine "set b, 'É: Q,," 1 "name" =
      .ok (.ok [.code (.unary .set 1), .ref "'é: q"]) := by rfl
  obtain ⟨register, name, operands, named⟩ := assembleSource_named read
  have found : splitOperands (afterWord (trim "set b, 'É: Q,,".toList)) =
      [['b'], ['\'', 'É', ':', ' ', 'Q']] := by rfl
  rw [found] at operands
  cases operands
  obtain ⟨defines, assembles⟩ := named (by decide)
  have unbroken : ("set b, 'É: Q,,".toList.all fun c => !isLineBreak c) = true := by decide
  have both := assembles (by simpa using unbroken) "name"
  exact ⟨read, defines 2 "name", both⟩

end Names

end DeskComputer
