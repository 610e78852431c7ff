import DeskComputer.Host.Tools
import DeskComputer.Proofs.Command.Files
import DeskComputer.Proofs.Program.ListedText
import DeskComputer.Proofs.Program.Sessions

/-!
# Products

What `kjasm` prints of a source file that assembles it saves when it is given a file. Two things set
them apart: without a word nothing is printed but a line feed is saved, and what a console prints of
an escape character in the name of a label is its own affair. Main statement:
`runAssemble_delivers`.
-/

namespace DeskComputer.Command

open Source Text

variable {c : Console} {files : Files} {source path : Path} {o : AssembleOptions} {a : Assembler}
  {words : List String}

/-! ### Assembled files -/

theorem assembleFile_ok :
    assembleFile files source = .ok a ↔ ∃ text program, files.readSource source = .ok text ∧
      ({} : Assembler).assemble text source.text = (.ok program, a) := by
  unfold assembleFile
  constructor
  · intro assembled
    obtain ⟨text, read, assembled⟩ := bind_ok.mp assembled
    split at assembled
    · cases assembled
    · rename_i program after answered
      obtain rfl := pure_ok.mp assembled
      exact ⟨text, program, read, answered⟩
  · rintro ⟨text, program, read, answered⟩
    refine bind_ok.mpr ⟨text, read, ?_⟩
    rw [answered]
    rfl

theorem assembleFile_of_read {bytes : List Nat} {chars : List Char} {text : String}
    {program : List Entry} (held : files.read source = .ok bytes)
    (decoded : decodeUtf8? bytes = .ok chars) (unified : String.ofList (unifyNewlines chars) = text)
    (answered : (({} : Assembler).assemble text source.text).1 = .ok program) :
    assembleFile files source = .ok (({} : Assembler).assemble text source.text).2 := by
  have read := Files.readSource_of_read held decoded
  rw [unified] at read
  exact assembleFile_ok.mpr ⟨text, program, read, Prod.ext answered rfl⟩

/-- A file without an error leaves the program that its text assembles to. -/
theorem assembleSource_of_file (assembled : assembleFile files source = .ok a)
    (clean : a.hasErrors = false) :
    ∃ text, files.readSource source = .ok text ∧
      assembleSource text source.text = .ok a.program := by
  obtain ⟨text, program, read, answered⟩ := assembleFile_ok.mp assembled
  refine ⟨text, read, ?_⟩
  have none : a.report.errors = [] := by
    by_contra some
    rw [Assembler.hasErrors, Report.hasErrors_iff.mpr some] at clean
    cases clean
  cases parsed : parseSource text source.text with
  | error numeral =>
    rw [Assembler.assemble_unread parsed] at answered
    cases answered
  | ok lines =>
    have run := Assembler.assemble_read (a := {}) parsed
    rw [answered] at run
    obtain ⟨-, -, -, accepted⟩ := run
    obtain ⟨same, -⟩ := accepted clean
    rw [assembleSource, answered]
    dsimp only
    rw [none]
    cases same
    rfl

/-- A file without an error has a word for each entry of its program, and a listing. -/
theorem views_of_file (assembled : assembleFile files source = .ok a)
    (clean : a.hasErrors = false) :
    ∃ words listing, a.words = .ok words ∧ a.listing = .ok listing ∧
      a.program.map Entry.encode = words.map (fun word => .ok (some word)) ∧
      (∀ word ∈ words, Word.Binary word) ∧
      ((∀ name ∈ a.labels.names, Unescaped name) → Unescaped listing) := by
  obtain ⟨text, -, accepted⟩ := assembleSource_of_file assembled clean
  have whole := assembled_of_assembleSource accepted
  obtain ⟨words, encoded, -⟩ := whole.views
  obtain ⟨listing, listed, plain⟩ := whole.listing a.labels
  have slots := encodeAll_slots encoded
  rw [whole.filter_takesSlot] at slots
  exact ⟨words, listing, encoded, listed, slots, encodeAll_binary encoded, plain⟩

/-! ### Printing and saving -/

theorem echo_singleton (text : String) : c.echoes [text] = c.echo text := by
  simp [Console.echoes]

theorem echoes_binary (binary : ∀ word ∈ words, Word.Binary word) :
    c.echoes words = inLines words := by
  have same : words.map c.echo = words.map (· ++ "\n") :=
    List.map_congr_left fun word member => c.echo_plain (binary word member).unescaped
  rw [Console.echoes, inLines, same]

/-- Lines are joined and ended as they are printed one by one, if there are any. -/
theorem ended_eq_inLines (some : words ≠ []) :
    "\n".intercalate words ++ "\n" = inLines words := by
  obtain ⟨front, last, rfl⟩ := (List.eq_nil_or_concat words).resolve_left some
  rw [List.concat_eq_append, intercalate_concat, inLines, List.map_append, String.join_append,
    String.append_assoc]
  rfl

section Delivery

variable {lines : List String} {bytes : List Nat} {note : Option String}

/-- Whether a tool failed and left everything as it was. -/
structure Refused (outcome : Outcome) (files : Files) : Prop where
  exit : outcome.exitCode ≠ 0
  silent : outcome.out = ""
  unchanged : outcome.files = files

theorem refused_failing (c : Console) (files : Files) (work err : String) (fault : Fault) :
    Refused (c.failing files work err fault) files := by
  have exit : (faultExit work fault).1 ≠ 0 := by
    unfold faultExit
    split
    · simp
    · split <;> simp
  exact ⟨exit, rfl, rfl⟩

/-- What comes of a delivery: a fault, what is printed, or what is saved. -/
theorem deliver_cases (c : Console) (files : Files) (o : AssembleOptions) (a : Assembler)
    (err : String) :
    let outcome := c.deliver files o a err
    Refused outcome files ∨
      (outcome.exitCode = 0 ∧ ∃ lines, productOf o a = .ok (.print lines) ∧
        outcome.out = c.echoes lines ∧ outcome.files = files) ∨
      (outcome.exitCode = 0 ∧ outcome.out = "" ∧ ∃ path bytes note,
        productOf o a = .ok (.save path bytes note) ∧
          files.write path bytes = .ok outcome.files) := by
  unfold Console.deliver
  cases productOf o a with
  | error fault => exact .inl (refused_failing ..)
  | ok product =>
    cases product with
    | print lines => exact .inr (.inl ⟨rfl, lines, rfl, rfl, rfl⟩)
    | save path bytes note =>
      dsimp only
      cases written : files.write path bytes with
      | error problem => exact .inl (refused_failing ..)
      | ok after => exact .inr (.inr ⟨rfl, rfl, path, bytes, note, rfl, written⟩)

/-- What comes of an assembly: a fault, or the delivery of a file without an error. -/
theorem runAssemble_cases (c : Console) (files : Files) (o : AssembleOptions) :
    Refused (c.runAssemble files o) files ∨
      (o.binary && o.listing) = false ∧ ∃ a err, assembleFile files o.source = .ok a ∧
        a.hasErrors = false ∧ c.runAssemble files o = c.deliver files o a err := by
  unfold Console.runAssemble
  split
  · exact .inl ⟨Nat.succ_ne_zero 1, rfl, rfl⟩
  · rename_i one
    dsimp only
    split
    · exact .inl (refused_failing ..)
    · rename_i a assembled
      split
      · exact .inl ⟨Nat.one_ne_zero, rfl, rfl⟩
      · rename_i clean
        exact .inr ⟨Bool.not_eq_true _ ▸ one, a, _, assembled, Bool.not_eq_true _ ▸ clean, rfl⟩

theorem runAssemble_clean (assembled : assembleFile files o.source = .ok a)
    (clean : a.hasErrors = false) (one : (o.binary && o.listing) = false) :
    ∃ err, c.runAssemble files o = c.deliver files o a err := by
  unfold Console.runAssemble
  rw [one, assembled]
  dsimp only
  rw [clean]
  exact ⟨_, rfl⟩

theorem runAssemble_prints (assembled : assembleFile files o.source = .ok a)
    (clean : a.hasErrors = false) (one : (o.binary && o.listing) = false)
    (product : productOf o a = .ok (.print lines)) :
    (c.runAssemble files o).exitCode = 0 ∧ (c.runAssemble files o).out = c.echoes lines := by
  obtain ⟨err, run⟩ := runAssemble_clean (c := c) assembled clean one
  rw [run, Console.deliver, product]
  exact ⟨rfl, rfl⟩

/-- Whether a tool ended well, printed nothing, and left a file with some bytes. -/
structure Saved (outcome : Outcome) (path : Path) (bytes : List Nat) : Prop where
  exit : outcome.exitCode = 0
  silent : outcome.out = ""
  content : outcome.files.read path = .ok bytes

theorem runAssemble_saves (assembled : assembleFile files o.source = .ok a)
    (clean : a.hasErrors = false) (one : (o.binary && o.listing) = false)
    (product : productOf o a = .ok (.save path bytes note)) (free : files.Writable path) :
    Saved (c.runAssemble files o) path bytes := by
  obtain ⟨err, run⟩ := runAssemble_clean (c := c) assembled clean one
  obtain ⟨after, written⟩ := free.write bytes
  rw [run, Console.deliver, product]
  dsimp only
  rw [written]
  exact ⟨rfl, rfl, Files.read_written written⟩

end Delivery

/-! ### A file alone -/

section Alone

variable {bytes : List Nat}

theorem read_alone : Files.read [(["p"], .file bytes)] (.ofString "p") = .ok bytes :=
  Files.read_ok.mpr ⟨["p"], Files.locate_ok.mpr ⟨by decide, by decide, by decide, rfl⟩, rfl⟩

theorem writable_beside : Files.Writable [(["p"], .file bytes)] (.ofString "q") := by
  have free : Files.node? [(["p"], .file bytes)] ["q"] = none := rfl
  refine ⟨["q"], Files.locate_ok.mpr ⟨by decide, by decide, by decide, rfl⟩, ?_⟩
  intro node standing
  cases free.symm.trans standing

end Alone

/-! ### Products -/

theorem code_of_words (encoded : a.words = .ok words) : a.code = .ok (words.map Word.toByte) := by
  rw [Assembler.code, encoded]
  rfl

theorem productOf_bytes (encoded : a.words = .ok words) (source : Path) (output : Option Path) :
    ∃ note, productOf { source, output, binary := true } a =
      .ok (.save (output.getD (source.withSuffix ".bin")) (words.map Word.toByte) note) := by
  rw [productOf, code_of_words encoded]
  exact ⟨_, rfl⟩

/-- What is saved of a source file without an error is what is printed of it. Without a word a line
feed is saved, and a listing is printed as it is unless the name of a label holds an escape
character. The bytes are the values of the words. -/
theorem runAssemble_delivers (c : Console) (assembled : assembleFile files source = .ok a)
    (clean : a.hasErrors = false) :
    ∃ (words : List String) (listing : String) (bytes : List Nat),
      a.program.map Entry.encode = words.map (fun word => .ok (some word)) ∧
      (∀ word ∈ words, Word.Binary word) ∧
      bytes.map .ok = words.map (fun word => Word.value (.text word)) ∧
      a.listing = .ok listing ∧
      let printed := c.runAssemble files { source }
      let listed := c.runAssemble files { source, listing := true }
      printed.exitCode = 0 ∧ printed.out = inLines words ∧
      listed.exitCode = 0 ∧ listed.out = c.echo listing ∧
      ((∀ name ∈ a.labels.names, Unescaped name) → listed.out = listing ++ "\n") ∧
      (∀ path, files.Writable path →
        Saved (c.runAssemble files { source, output := some path }) path
          (textBytes (if words = [] then "\n" else printed.out)) ∧
        Saved (c.runAssemble files { source, output := some path, listing := true }) path
          (textBytes (listing ++ "\n")) ∧
        Saved (c.runAssemble files { source, output := some path, binary := true }) path bytes) ∧
      (files.Writable (source.withSuffix ".bin") →
        Saved (c.runAssemble files { source, binary := true }) (source.withSuffix ".bin")
          bytes) := by
  obtain ⟨words, listing, encoded, listed, slots, binary, plain⟩ := views_of_file assembled clean
  have values : (words.map Word.toByte).map .ok =
      words.map (fun word => Word.value (.text word)) := by
    rw [List.map_map]
    exact List.map_congr_left fun word member =>
      (Word.value_text_of_binary (binary word member)).symm
  have printWords : productOf { source } a = .ok (.print words) := by
    rw [productOf, encoded]
    rfl
  have printListing : productOf { source, listing := true } a = .ok (.print [listing]) := by
    rw [productOf, listed]
    rfl
  obtain ⟨exit, out⟩ :=
    runAssemble_prints (c := c) (o := { source }) assembled clean rfl printWords
  obtain ⟨exit', out'⟩ :=
    runAssemble_prints (c := c) (o := { source, listing := true }) assembled clean rfl printListing
  rw [echoes_binary binary] at out
  rw [echo_singleton] at out'
  refine ⟨words, listing, words.map Word.toByte, slots, binary, values, listed, exit, out, exit',
    out', fun named => out'.trans (c.echo_plain (plain named)), ?_, ?_⟩
  · intro path free
    have text : "\n".intercalate words ++ "\n" =
        if words = [] then "\n" else (c.runAssemble files { source }).out := by
      split
      · rename_i none
        rw [none]
        rfl
      · rename_i some
        rw [out, ended_eq_inLines some]
    have saveWords : productOf { source, output := some path } a =
        .ok (.save path (textBytes ("\n".intercalate words ++ "\n")) none) := by
      rw [productOf, encoded]
      rfl
    have saveListing : productOf { source, output := some path, listing := true } a =
        .ok (.save path (textBytes (listing ++ "\n")) none) := by
      rw [productOf, listed]
      rfl
    obtain ⟨note, saveBytes⟩ := productOf_bytes encoded source (some path)
    rw [← text]
    exact ⟨runAssemble_saves assembled clean rfl saveWords free,
      runAssemble_saves assembled clean rfl saveListing free,
      runAssemble_saves assembled clean rfl saveBytes free⟩
  · intro free
    obtain ⟨note, saveBytes⟩ := productOf_bytes encoded source none
    exact runAssemble_saves assembled clean rfl saveBytes free

theorem runAssemble_delivers_nop :
    let files : Files := [(["p"], .file (textBytes "nop"))]
    let a := (({} : Assembler).assemble "nop" "p").2
    assembleFile files (.ofString "p") = .ok a ∧ a.hasErrors = false ∧
      (Host.console.runAssemble files { source := .ofString "p" }).out = "00000000\n" ∧
      Saved
        (Host.console.runAssemble files
          { source := .ofString "p", output := some (.ofString "q") })
        (.ofString "q") (textBytes "00000000\n") := by
  intro files a
  have decoded : decodeUtf8? (textBytes "nop") = .ok ['n', 'o', 'p'] := by rfl
  have answered : (({} : Assembler).assemble "nop" "p").1 = .ok [.code .nop] := by rfl
  have assembled : assembleFile files (.ofString "p") = .ok a :=
    assembleFile_of_read read_alone decoded (by rfl) answered
  have clean : a.hasErrors = false := by rfl
  obtain ⟨words, listing, bytes, slots, -, -, -, printed⟩ :=
    runAssemble_delivers Host.console assembled clean
  obtain ⟨-, out, -, -, -, saved, -⟩ := printed
  have one : words = ["00000000"] := by
    have program : a.program.map Entry.encode = [.ok (some "00000000")] := by rfl
    rw [program] at slots
    obtain ⟨word, one, same⟩ := List.map_eq_singleton_iff.mp slots.symm
    cases same
    exact one
  have kept := (saved (.ofString "q") writable_beside).1
  rw [out, one] at kept
  rw [one] at out
  exact ⟨assembled, clean, out, kept⟩

/-- Without a word nothing is printed, and a line feed is saved. -/
theorem runAssemble_delivers_nothing :
    let files : Files := [(["p"], .file [])]
    (Host.console.runAssemble files { source := .ofString "p" }).out = "" ∧
      Saved
        (Host.console.runAssemble files
          { source := .ofString "p", output := some (.ofString "q") })
        (.ofString "q") (textBytes "\n") := by
  intro files
  let a := (({} : Assembler).assemble "" "p").2
  have decoded : decodeUtf8? [] = .ok [] := by rfl
  have answered : (({} : Assembler).assemble "" "p").1 = .ok [] := by rfl
  have assembled : assembleFile files (.ofString "p") = .ok a :=
    assembleFile_of_read read_alone decoded (by rfl) answered
  have clean : a.hasErrors = false := by rfl
  have print : productOf { source := .ofString "p" } a = .ok (.print []) := by rfl
  have save : productOf { source := .ofString "p", output := some (.ofString "q") } a =
      .ok (.save (.ofString "q") (textBytes "\n") none) := by rfl
  obtain ⟨-, out⟩ := runAssemble_prints (c := Host.console) (o := { source := .ofString "p" })
    assembled clean rfl print
  exact ⟨out, runAssemble_saves assembled clean rfl save writable_beside⟩

end DeskComputer.Command
