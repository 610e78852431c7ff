import DeskComputer.Proofs.Command.Paths
import DeskComputer.Proofs.Command.Products

/-!
# Sources

`kjasm` writes one file at most: the one it is given, or the one beside the source with the suffix
`.bin`. The source is left as it is unless it is that file, by its name or through a link. Main
statement: `kjasm_keeps_source`.
-/

namespace DeskComputer.Command

open Text

variable {c : Console} {files : Files} {o : AssembleOptions} {a : Assembler}

/-! ### What is written -/

/-- Where the product of an assembly is saved, if it is. -/
def AssembleOptions.target? (o : AssembleOptions) : Option Path :=
  if o.binary then some (o.output.getD (o.source.withSuffix ".bin")) else o.output

theorem AssembleOptions.target?_eq_some {path : Path} :
    o.target? = some path ↔ o.output = some path ∨
      o.binary = true ∧ o.output = none ∧ o.source.withSuffix ".bin" = path := by
  unfold target?
  cases o.output <;> cases o.binary <;> simp

theorem productOf_save {path : Path} {bytes : List Nat} {note : Option String}
    (product : productOf o a = .ok (.save path bytes note)) :
    o.target? = some path ∧ (o.binary = true → a.code = .ok bytes) := by
  unfold productOf at product
  unfold AssembleOptions.target?
  split at product
  · rename_i binary
    obtain ⟨code, encoded, product⟩ := bind_ok.mp product
    rw [if_pos binary]
    cases product
    exact ⟨rfl, fun _ => encoded⟩
  · rename_i text
    have named : o.output = some path := by
      split at product
      all_goals
        obtain ⟨content, -, product⟩ := bind_ok.mp product
        split at product
        · rename_i named
          cases product
          exact named
        · cases product
    rw [if_neg text]
    exact ⟨named, fun binary => absurd binary text⟩

/-- An assembly changes nothing, or it writes its product to one file. -/
theorem runAssemble_writes (c : Console) (files : Files) (o : AssembleOptions) :
    (c.runAssemble files o).files = files ∨ (o.binary && o.listing) = false ∧
      ∃ a path bytes note, assembleFile files o.source = .ok a ∧ a.hasErrors = false ∧
        productOf o a = .ok (.save path bytes note) ∧
        files.write path bytes = .ok (c.runAssemble files o).files := by
  rcases runAssemble_cases c files o with refused | ⟨one, a, err, assembled, clean, run⟩
  · exact .inl refused.unchanged
  · rw [run]
    rcases deliver_cases c files o a err with refused | ⟨-, -, -, -, unchanged⟩ | saved
    · exact .inl refused.unchanged
    · exact .inl unchanged
    · obtain ⟨-, -, path, bytes, note, product, written⟩ := saved
      exact .inr ⟨one, a, path, bytes, note, assembled, clean, product, written⟩

/-- Whether a source was replaced with the bytes that it assembles to. The file beside it is the
source itself, by a name that ends in `.bin` or through a link. -/
structure Overwritten (files after : Files) (source : Path) : Prop where
  beside : files.locate (source.withSuffix ".bin").text = files.locate source.text
  same : (∃ front, front ≠ "" ∧ source.parts.getLast? = some (front ++ ".bin")) ∨
    files.NamesLink source.text ∨ files.NamesLink (source.withSuffix ".bin").text
  content : ∃ a bytes, assembleFile files source = .ok a ∧ a.hasErrors = false ∧
    a.code = .ok bytes ∧ after.read source = .ok bytes

/-- A source that the output does not lead to is kept, or replaced for want of an output. -/
theorem runAssemble_keeps {bytes : List Nat} (proper : o.source.Proper)
    (held : files.read o.source = .ok bytes)
    (unnamed : ∀ path, o.output = some path →
      files.locate path.text ≠ files.locate o.source.text) :
    (c.runAssemble files o).files.read o.source = .ok bytes ∨
      o.binary = true ∧ o.listing = false ∧ o.output = none ∧
        Overwritten files (c.runAssemble files o).files o.source := by
  rcases runAssemble_writes c files o with unchanged | ⟨one, a, target, code, note, saved⟩
  · rw [unchanged]
    exact .inl held
  · obtain ⟨assembled, clean, product, written⟩ := saved
    obtain ⟨targeted, coded⟩ := productOf_save product
    by_cases same : files.locate target.text = files.locate o.source.text
    · rcases AssembleOptions.target?_eq_some.mp targeted with named | ⟨binary, none, rfl⟩
      · exact absurd same (unnamed target named)
      · have after := Files.read_written_through written same
        have unlisted : o.listing = false := by
          rw [binary, Bool.true_and] at one
          exact one
        exact .inr ⟨binary, unlisted, none, same, proper.locate_withSuffix held same, a, code,
          assembled, clean, coded binary, after⟩
    · exact .inl (Files.read_unwritten written held same)

/-! ### The command -/

/-- `kjasm` leaves its source as it is, unless the option for an output leads to it. The exception
is a source that the default output leads to: if it is assembled to bytes without that option, it
holds the bytes. -/
theorem kjasm_keeps_source (c : Console) {args : List String} {source : String} {bytes : List Nat}
    (held : files.read (.ofString source) = .ok bytes)
    (asked : ∀ o, c.assembleOptions files args = .options o → o.source = .ofString source ∧
      ∀ path, o.output = some path →
        files.locate path.text ≠ files.locate (Path.ofString source).text) :
    (c.kjasm files args).files.read (.ofString source) = .ok bytes ∨
      ∃ o, c.assembleOptions files args = .options o ∧
        o.binary = true ∧ o.listing = false ∧ o.output = none ∧
        Overwritten files (c.kjasm files args).files (.ofString source) := by
  unfold Console.kjasm
  cases parsed : c.assembleOptions files args with
  | exit code out err => exact .inl held
  | options o =>
    dsimp only
    obtain ⟨given, unnamed⟩ := asked o parsed
    rw [← given] at held unnamed ⊢
    have proper : o.source.Proper := given ▸ Path.proper_ofString source
    rcases runAssemble_keeps (c := c) proper held unnamed with kept | overwritten
    · exact .inl kept
    · exact .inr ⟨o, rfl, overwritten⟩

/-! ### Runs on a console -/

section Host

open Host

/-- The options of arguments that name a source, and no output. -/
theorem console_options {args : List String} (arguments : Arguments) {source : String}
    {bytes : List Nat} (parsed : parseArguments assembleNames args = .ok arguments)
    (working : (arguments.uses.find? fun use => use.1 = .version || use.1 = .help) = none)
    (unnamed : arguments.last? .output = none) (operand : arguments.operands = [source])
    (visible : '\x00' ∉ source.toList) (standing : files.status source = .ok (.file bytes)) :
    console.assembleOptions files args = .options {
      source := .ofString source
      binary := arguments.has .binary
      listing := arguments.has .listing
      verbose := arguments.has .verbose } := by
  have looked : lookUp files source = .ok (some (.file bytes)) := by
    rw [lookUp, if_neg (mt Files.contains_iff_mem.mp visible), standing]
    rfl
  have given : readSourcePath files arguments.operands = .ok (.ofString source) := by
    rw [operand]
    exact bind_ok.mpr ⟨_, looked, rfl⟩
  have read : readAssembleOptions files arguments = .ok {
      source := .ofString source
      binary := arguments.has .binary
      listing := arguments.has .listing
      verbose := arguments.has .verbose } :=
    bind_ok.mpr ⟨none, by rw [unnamed]; rfl, bind_ok.mpr ⟨_, given, rfl⟩⟩
  have whole : Tool.assemble.parse (readAssembleOptions files) args = .ok (.options {
      source := .ofString source
      binary := arguments.has .binary
      listing := arguments.has .listing
      verbose := arguments.has .verbose }) := by
    refine bind_ok.mpr ⟨arguments, parsed, ?_⟩
    rw [working]
    exact bind_ok.mpr ⟨_, read, rfl⟩
  exact congrArg (Tool.answer .assemble) whole

theorem kjasm_keeps_source_beside :
    let files : Files := [(["p"], .file (textBytes "nop"))]
    files.read (.ofString "p") = .ok (textBytes "nop") ∧
      console.assembleOptions files ["p", "--binary"] =
        .options { source := .ofString "p", binary := true } ∧
      (console.kjasm files ["p", "--binary"]).files.read (.ofString "p") =
        .ok (textBytes "nop") := by
  intro files
  have held : files.read (.ofString "p") = .ok (textBytes "nop") := read_alone
  have parsed : console.assembleOptions files ["p", "--binary"] =
      .options { source := .ofString "p", binary := true } :=
    console_options { uses := [(.binary, "")], operands := ["p"] } (by rfl) rfl rfl rfl (by decide)
      (Files.read_eq_ok.mp held)
  refine ⟨held, parsed, ?_⟩
  have asked : ∀ o, console.assembleOptions files ["p", "--binary"] = .options o →
      o.source = .ofString "p" ∧ ∀ path, o.output = some path →
        files.locate path.text ≠ files.locate (Path.ofString "p").text := by
    intro o given
    cases parsed.symm.trans given
    exact ⟨rfl, by simp⟩
  rcases kjasm_keeps_source console held asked with kept | ⟨o, given, -, -, -, overwritten⟩
  · exact kept
  · -- The file beside the source is another, for it is not there.
    have elsewhere : files.locate ((Path.ofString "p").withSuffix ".bin").text = .ok ["p.bin"] :=
      Files.locate_ok.mpr ⟨by decide, by decide, by decide, rfl⟩
    have here : files.locate (Path.ofString "p").text = .ok ["p"] :=
      Files.locate_ok.mpr ⟨by decide, by decide, by decide, rfl⟩
    have same := overwritten.beside
    rw [elsewhere, here] at same
    simp at same

/-- A source whose name ends in `.bin` is overwritten with its bytes, unless told otherwise. -/
theorem kjasm_keeps_source_overwritten :
    let files : Files := [(["p.bin"], .file (textBytes "nop"))]
    let outcome := console.kjasm files ["p.bin", "--binary"]
    console.assembleOptions files ["p.bin", "--binary"] =
        .options { source := .ofString "p.bin", binary := true } ∧
      outcome.exitCode = 0 ∧ outcome.files.read (.ofString "p.bin") = .ok [0] := by
  intro files outcome
  let a := (({} : Assembler).assemble "nop" "p.bin").2
  have held : files.read (.ofString "p.bin") = .ok (textBytes "nop") :=
    Files.read_ok.mpr
      ⟨["p.bin"], Files.locate_ok.mpr ⟨by decide, by decide, by decide, rfl⟩, rfl⟩
  have parsed : console.assembleOptions files ["p.bin", "--binary"] =
      .options { source := .ofString "p.bin", binary := true } :=
    console_options { uses := [(.binary, "")], operands := ["p.bin"] } (by rfl) rfl rfl rfl
      (by decide) (Files.read_eq_ok.mp held)
  have decoded : decodeUtf8? (textBytes "nop") = .ok ['n', 'o', 'p'] := by rfl
  have answered : (({} : Assembler).assemble "nop" "p.bin").1 = .ok [.code .nop] := by rfl
  have assembled : assembleFile files (.ofString "p.bin") = .ok a :=
    assembleFile_of_read held decoded (by rfl) answered
  have clean : a.hasErrors = false := by rfl
  have encoded : a.words = .ok ["00000000"] := by rfl
  have suffixed : (Path.ofString "p.bin").parts.getLast? = some ("p" ++ ".bin") := by rfl
  obtain ⟨note, product⟩ := productOf_bytes encoded (.ofString "p.bin") none
  rw [Option.getD_none, Path.withSuffix_eq_self (by decide) suffixed] at product
  have saved : Saved (console.runAssemble files { source := .ofString "p.bin", binary := true })
      (.ofString "p.bin") [0] :=
    runAssemble_saves (o := { source := .ofString "p.bin", binary := true }) assembled clean rfl
      product (Files.writable_of_read held)
  have ran :
      outcome = console.runAssemble files { source := .ofString "p.bin", binary := true } := by
    unfold outcome
    rw [Console.kjasm, parsed]
  rw [ran]
  exact ⟨parsed, saved.exit, saved.content⟩

end Host

end DeskComputer.Command
