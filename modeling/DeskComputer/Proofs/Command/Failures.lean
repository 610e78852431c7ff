import DeskComputer.Proofs.Command.Sources

/-!
# Failures

A `kjasm` that fails prints nothing on the standard output and leaves all files as they are. It
exits with one exactly if a line of its source has a problem or a label is not defined, and then the
last that it says is the report. A numeral that is too long to convert is the exception: it hides
the problems of all lines. Main statement: `kjasm_fails`.
-/

namespace DeskComputer.Command

open Source Text

variable {c : Console} {files : Files} {o : AssembleOptions} {a : Assembler} {text : String}

/-! ### Faulty sources -/

section Faulty

variable {source file : String} {lines : List ParsedLine}

/-- Whether lines refer to a label that none of them defines. -/
def Dangling (results : List (Except Oversized LineResult)) (label : String) : Prop :=
  (∃ entries, .ok (.ok entries) ∈ results ∧ .ref label ∈ entries) ∧
    ∀ entries, .ok (.ok entries) ∈ results → .mark label ∉ entries

/-- Whether a line has a problem, or a label is not defined. -/
def Faulty (results : List (Except Oversized LineResult)) : Prop :=
  (∃ d, .ok (.error d) ∈ results) ∨ ∃ label, Dangling results label

theorem hasErrors_iff_faulty (parsed : parseSource source file = .ok lines) :
    (a.assemble source file).2.hasErrors = true ↔ Faulty (lineResults source file) := by
  obtain ⟨-, reported, -⟩ := Assembler.assemble_read (a := a) parsed
  refine reported.trans (or_congr ?_ (exists_congr fun label => and_congr (mem_entries parsed) ?_))
  · simp only [mem_lineResults parsed]
    exact ⟨fun ⟨line, member, d, failed⟩ => ⟨d, line, member, failed⟩,
      fun ⟨d, line, member, failed⟩ => ⟨line, member, d, failed⟩⟩
  · rw [mem_entries parsed]
    exact ⟨fun none entries read marked => none ⟨entries, read, marked⟩,
      fun none ⟨entries, read, marked⟩ => none entries read marked⟩

end Faulty

/-! ### Exits -/

section Exits

variable {product : Product} {numeral : Oversized}

theorem productOf_total {words : List String} {listing : String} (encoded : a.words = .ok words)
    (listed : a.listing = .ok listing) (o : AssembleOptions) :
    ∃ product, productOf o a = .ok product := by
  unfold productOf
  split
  · rw [code_of_words encoded]
    exact ⟨_, rfl⟩
  split
  · rw [listed]
    cases o.output <;> exact ⟨_, rfl⟩
  · rw [encoded]
    cases o.output <;> exact ⟨_, rfl⟩

/-- Whether the file for the product of an assembly cannot be written. -/
def Unwritable (files : Files) (o : AssembleOptions) : Prop :=
  ∃ path bytes problem, o.target? = some path ∧ files.write path bytes = .error problem

/-- Once there is a product, only its file can be refused, and that is no fault of the source. -/
theorem deliver_exit (made : productOf o a = .ok product) (err : String) :
    let outcome := c.deliver files o a err
    outcome.exitCode ≠ 1 ∧ (outcome.exitCode = 0 ∨ Unwritable files o) := by
  unfold Console.deliver
  rw [made]
  cases product with
  | print lines => exact ⟨Nat.zero_ne_one, .inl rfl⟩
  | save path bytes note =>
    dsimp only
    cases written : files.write path bytes with
    | error problem =>
      refine ⟨?_, .inr ⟨path, bytes, problem, (productOf_save made).1, written⟩⟩
      cases problem <;> simp [Console.failing, faultExit, isOwn]
    | ok after => exact ⟨Nat.zero_ne_one, .inl rfl⟩

theorem runAssemble_fails (failed : (c.runAssemble files o).exitCode ≠ 0) :
    Refused (c.runAssemble files o) files := by
  rcases runAssemble_cases c files o with refused | ⟨-, a, err, -, -, run⟩
  · exact refused
  rw [run] at failed ⊢
  rcases deliver_cases c files o a err with refused | printed | saved
  · exact refused
  · exact absurd printed.1 failed
  · exact absurd saved.1 failed

variable (one : (o.binary && o.listing) = false)

include one

/-- A numeral that is too long to convert is an error of the tool, not of the source. -/
theorem runAssemble_unread (read : files.readSource o.source = .ok text)
    (parsed : parseSource text o.source.text = .error numeral) :
    (c.runAssemble files o).exitCode = 3 := by
  have unread : assembleFile files o.source = .error (.oversized numeral) := by
    rw [assembleFile, read]
    dsimp only [bind, Except.bind]
    rw [Assembler.assemble_unread parsed]
    rfl
  unfold Console.runAssemble
  rw [one, unread]
  rfl

theorem runAssemble_refuses (assembled : assembleFile files o.source = .ok a)
    (refused : a.hasErrors = true) :
    (c.runAssemble files o).exitCode = 1 ∧
      ∃ before, (c.runAssemble files o).err = before ++ c.echo a.report.text := by
  unfold Console.runAssemble
  rw [one, assembled]
  dsimp only
  rw [refused]
  exact ⟨rfl, _, rfl⟩

theorem runAssemble_accepts (assembled : assembleFile files o.source = .ok a)
    (clean : a.hasErrors = false) :
    (c.runAssemble files o).exitCode ≠ 1 ∧
      ((c.runAssemble files o).exitCode = 0 ∨ Unwritable files o) := by
  obtain ⟨words, listing, encoded, listed, -⟩ := views_of_file assembled clean
  obtain ⟨product, made⟩ := productOf_total encoded listed o
  obtain ⟨err, run⟩ := runAssemble_clean (c := c) assembled clean one
  rw [run]
  exact deliver_exit made err

/-- A source whose lines can be read is refused with its report if it is faulty, and accepted if
not. -/
theorem runAssemble_read {lines : List ParsedLine} (read : files.readSource o.source = .ok text)
    (parsed : parseSource text o.source.text = .ok lines) :
    let results := lineResults text o.source.text
    let report := (({} : Assembler).assemble text o.source.text).2.report
    let outcome := c.runAssemble files o
    (Faulty results ∧ outcome.exitCode = 1 ∧ report.errors ≠ [] ∧
        ∃ before, outcome.err = before ++ c.echo report.text) ∨
      (¬Faulty results ∧ outcome.exitCode ≠ 1 ∧
        (outcome.exitCode = 0 ∨ Unwritable files o)) := by
  obtain ⟨program, answered⟩ : ∃ program,
      (({} : Assembler).assemble text o.source.text).1 = .ok program := by
    rw [Assembler.assemble, parsed]
    exact Assembler.assembleLines_answers _ lines rfl (isWritable_default _)
  have assembled : assembleFile files o.source =
      .ok (({} : Assembler).assemble text o.source.text).2 :=
    assembleFile_ok.mpr ⟨text, program, read, Prod.ext answered rfl⟩
  have reported := hasErrors_iff_faulty (a := {}) parsed
  cases errors : (({} : Assembler).assemble text o.source.text).2.hasErrors with
  | true =>
    obtain ⟨exit, said⟩ := runAssemble_refuses one assembled errors
    exact .inl ⟨reported.mp errors, exit, Report.hasErrors_iff.mp errors, said⟩
  | false =>
    have faultless : ¬Faulty (lineResults text o.source.text) := by
      rw [← reported, errors]
      exact Bool.false_ne_true
    exact .inr ⟨faultless, runAssemble_accepts one assembled errors⟩

end Exits

/-! ### The command -/

section Command

variable {args : List String}

/-- Whether arguments ask for an assembly with some options. -/
def Accepted (c : Console) (files : Files) (args : List String) (o : AssembleOptions) : Prop :=
  c.assembleOptions files args = .options o ∧ (o.binary && o.listing) = false

theorem kjasm_of_accepted (accepted : Accepted c files args o) :
    c.kjasm files args = c.runAssemble files o := by
  rw [Console.kjasm, accepted.1]

/-- A `kjasm` that fails, for its arguments or for its source, prints nothing and changes no file.
On a source whose lines can be read it exits with one if and only if a line has a problem or a label
is not defined, and then it says the report last; else it fails only if its file is refused. On a
source with a numeral that is too long to convert it exits with three. -/
theorem kjasm_fails (c : Console) (files : Files) (args : List String) :
    let outcome := c.kjasm files args
    (outcome.exitCode ≠ 0 → outcome.out = "" ∧ outcome.files = files) ∧
    ∀ o text, Accepted c files args o → files.readSource o.source = .ok text →
      let results := lineResults text o.source.text
      let report := (({} : Assembler).assemble text o.source.text).2.report
      ((∃ numeral, .error numeral ∈ results) → outcome.exitCode = 3) ∧
      ((∀ numeral, .error numeral ∉ results) →
        (outcome.exitCode = 1 ↔ Faulty results) ∧
        (¬Faulty results → outcome.exitCode = 0 ∨ Unwritable files o)) ∧
      (outcome.exitCode = 1 → report.errors ≠ [] ∧
        ∃ before, outcome.err = before ++ c.echo report.text) := by
  refine ⟨?_, ?_⟩
  · unfold Console.kjasm
    cases parsed : c.assembleOptions files args with
    | exit code out err => exact fun failed => ⟨c.refused_silent parsed failed, rfl⟩
    | options o =>
      intro failed
      have refused := runAssemble_fails (c := c) failed
      exact ⟨refused.silent, refused.unchanged⟩
  · intro o text accepted read
    have one := accepted.2
    rw [kjasm_of_accepted accepted]
    cases parsed : parseSource text o.source.text with
    | error numeral =>
      obtain ⟨numeral, member⟩ := parseSource_error.mp ⟨numeral, parsed⟩
      have exit := runAssemble_unread (c := c) one read parsed
      refine ⟨fun _ => exit, fun none => absurd member (none numeral), ?_⟩
      intro other
      rw [exit] at other
      cases other
    | ok lines =>
      have readable : ¬∃ numeral, .error numeral ∈ lineResults text o.source.text := by
        rw [← parseSource_error, parsed]
        simp
      refine ⟨fun unread => absurd unread readable, ?_⟩
      rcases runAssemble_read (c := c) one read parsed with
        ⟨faulty, exit, reported⟩ | ⟨faultless, exit, accepts⟩
      · exact ⟨fun _ => ⟨iff_of_true exit faulty, fun none => absurd faulty none⟩,
          fun _ => reported⟩
      · exact ⟨fun _ => ⟨iff_of_false exit faultless, fun _ => accepts⟩,
          fun failed => absurd failed exit⟩

/-! ### Runs on a console -/

theorem accepted_alone (bytes : List Nat) :
    Accepted Host.console [(["p"], .file bytes)] ["p"] { source := .ofString "p" } :=
  ⟨console_options { operands := ["p"] } (by rfl) rfl rfl rfl (by decide)
    (Files.read_eq_ok.mp read_alone), rfl⟩

theorem kjasm_fails_unknown :
    let files : Files := [(["p"], .file (textBytes "foo"))]
    let outcome := Host.console.kjasm files ["p"]
    outcome.exitCode = 1 ∧ outcome.out = "" ∧ outcome.files = files ∧
      ∃ before, outcome.err = before ++
        Host.console.echo (({} : Assembler).assemble "foo" "p").2.report.text := by
  intro files outcome
  have accepted := accepted_alone (textBytes "foo")
  have read : files.readSource (.ofString "p") = .ok "foo" :=
    Files.readSource_of_text (by decide) read_alone
  obtain ⟨silent, each⟩ := kjasm_fails Host.console files ["p"]
  obtain ⟨-, readable, reported⟩ := each _ "foo" accepted read
  have results : lineResults "foo" (Path.ofString "p").text = [.ok (.error
      { problem := .mnemonic "foo", location? := some { file := "p", line := 1 },
        sourceLine? := some "foo" })] := by rfl
  have numberless : ∀ numeral, .error numeral ∉ lineResults "foo" (Path.ofString "p").text := by
    rw [results]
    simp
  have exit : outcome.exitCode = 1 :=
    (readable numberless).1.mpr (.inl ⟨_, by rw [results]; exact List.mem_singleton_self _⟩)
  have failed : outcome.exitCode ≠ 0 := by
    rw [exit]
    exact Nat.one_ne_zero
  exact ⟨exit, (silent failed).1, (silent failed).2, (reported exit).2⟩

/-- A numeral that is too long to convert hides the problem of the line before it. -/
theorem kjasm_fails_unreported :
    let text := String.ofList
      ("bogus".toList ++ "\nset R0, ".toList ++ '1' :: List.replicate 4300 '0')
    let files : Files := [(["p"], .file (textBytes text))]
    Accepted Host.console files ["p"] { source := .ofString "p" } ∧
      files.readSource (.ofString "p") = .ok text ∧
      (∃ d, .ok (.error d) ∈ lineResults text "p") ∧
      (Host.console.kjasm files ["p"]).exitCode = 3 := by
  intro text files
  have accepted := accepted_alone (textBytes text)
  obtain ⟨d, failed⟩ : ∃ d, parseLine (String.ofList "bogus".toList) 1 "p" = .ok (.error d) :=
    ⟨_, rfl⟩
  have unbroken : ∀ c ∈ "bogus".toList, isLineBreak c = false := by
    have plain : ("bogus".toList.all fun c => !isLineBreak c) = true := by decide
    intro c inside
    exact (Bool.not_eq_true' _).mp (List.all_eq_true.mp plain c inside)
  have unix : '\r' ∉ text.toList := by
    have zeros : '\r' ∉ List.replicate 4300 '0' := fun member =>
      absurd (List.eq_of_mem_replicate member) (by decide)
    rw [String.toList_ofList, List.mem_append, List.mem_append, List.mem_cons, not_or, not_or,
      not_or]
    exact ⟨⟨by decide, by decide⟩, by decide, zeros⟩
  have read : files.readSource (.ofString "p") = .ok text :=
    Files.readSource_of_text unix read_alone
  have unread : parseSource text "p" = .error ⟨4301⟩ :=
    parseSource_zeros unbroken failed (show decimalLimit ≤ 4300 by decide)
  have lines : text.toList = "bogus".toList ++ '\n' ::
      ("set R0, ".toList ++ '1' :: List.replicate 4300 '0') := by
    rw [String.toList_ofList, List.append_assoc]
    rfl
  have first : .ok (.error d) ∈ lineResults text "p" := by
    rw [lineResults, lines, splitLines_append unbroken, resultsFrom_cons]
    exact List.mem_cons.mpr (.inl failed.symm)
  rw [kjasm_of_accepted accepted]
  exact ⟨accepted, read, ⟨d, first⟩, runAssemble_unread rfl read unread⟩

end Command

end DeskComputer.Command
