import DeskComputer.Proofs.Source.Addresses
import DeskComputer.Proofs.Source.Spelling

/-!
# Statements in free form

A statement has many spellings: mnemonics and names in any letter case, several names for a
register or a condition, leading zeros and a sign without meaning in an address, any quoted
character, and any layout. All of them are read as the same entries: `parseLine_spelling`. Only the
digits of an address count, since there is a limit to them.
-/

namespace DeskComputer.Source

open Text

/-- Tokens that spell an operation with its operands, and the entries that they stand for. The
number counts the digits of the address, if there is one. -/
inductive Spelling : Opcode → List (List Char) → List Entry → Nat → Prop where
  | nop : Spelling .nop [] [.code .nop] 0
  | set {r : Fin 4} {token : List Char} (c : Char) : NameOf registerNames r token →
      Spelling (.unary .set) [token, ['\'', c, '\'']]
        [.code (.unary .set r), .data (c.toNat % 256 : Int)] 0
  | unary {op : UnaryOp} {r : Fin 4} {token : List Char} :
      op ≠ .set → NameOf registerNames r token →
      Spelling (.unary op) [token] [.code (.unary op r)] 0
  | pair {op : PairOp} {r s : Fin 4} {token token' : List Char} :
      NameOf registerNames r token → NameOf registerNames s token' →
      Spelling (.pair op) [token, token'] [.code (.pair op r s)] 0
  | branch {op : BranchOp} {c r : Fin 4} {token token' : List Char} :
      NameOf conditionNames c token → NameOf registerNames r token' →
      Spelling (.branch op) [token, token'] [.code (.branch op c r)] 0
  | access {op : AccessOp} {r base offset : Fin 4} {token token' : List Char} {size : Nat} :
      NameOf registerNames r token → Address offset base token' size →
      Spelling (.access op) [token, token'] [.code (.access op r base offset)] size

theorem readImmediate_quoted (c : Char) :
    readImmediate ['\'', c, '\''] = .ok (.data (c.toNat % 256 : Int)) := rfl

namespace Spelling

variable {op : Opcode} {tokens : List (List Char)} {entries : List Entry} {size : Nat}

theorem whole (spelling : Spelling op tokens entries size) :
    ∀ t ∈ tokens, Whole t ∧ t.getLast? ≠ some ':' := by
  have plain : ∀ {token : List Char}, Plain token → Whole token ∧ token.getLast? ≠ some ':' :=
    fun plain => ⟨plain.whole, plain.unlabelled⟩
  cases spelling with
  | nop => simp
  | set c named =>
    simp only [List.forall_mem_cons, List.not_mem_nil, false_implies, implies_true, and_true]
    exact ⟨plain named.register.1, (Token.quoted c).whole, by simp⟩
  | unary _ named => simpa using plain named.register.1
  | pair named named' => simpa using ⟨plain named.register.1, plain named'.register.1⟩
  | branch named named' => simpa using ⟨plain named.condition.1, plain named'.register.1⟩
  | access named address => simpa using ⟨plain named.register.1, address.whole⟩

theorem read (spelling : Spelling op tokens entries size) :
    readStatement op tokens =
      if size ≤ decimalLimit then .ok entries else .error (.oversized ⟨size⟩) := by
  have free : 0 ≤ decimalLimit := Nat.zero_le _
  cases spelling with
  | nop => rfl
  | @set r token c named =>
    rw [readStatement, named.register.2.2, readImmediate_quoted, if_pos free]
    rfl
  | unary other named =>
    rw [readStatement, named.register.2.2, if_pos free]
    · rfl
    · exact other
  | pair named named' =>
    rw [readStatement, named.register.2.2, named'.register.2.2, if_pos free]
    rfl
  | branch named named' =>
    rw [readStatement, named.condition.2, named'.register.2.2, if_pos free]
    rfl
  | access named address =>
    rw [readStatement, address.read, named.register.2.2]
    split
    · rfl
    · rfl

end Spelling

section Lines

variable {op : Opcode} {word line : List Char} {tokens : List (List Char)} {entries : List Entry}
  {size : Nat}

theorem parseStatement_spelling (cased : word.map Char.toLower = op.mnemonic.toList)
    (spelling : Spelling op tokens entries size) (laid : LaidOut word tokens line) :
    parseStatement (trim line) =
      if size ≤ decimalLimit then .ok entries else .error (.oversized ⟨size⟩) := by
  obtain ⟨named, known⟩ := mnemonic_found op cased
  have whole := spelling.whole
  rw [parseStatement_laidOut named known laid (fun t member => (whole t member).1)
    fun t member => (whole t member).2, spelling.read]

/-- Every spelling of a statement in every layout is read as its entries, at any place of any file,
but for an address with more digits than are converted. -/
theorem parseLine_spelling (cased : word.map Char.toLower = op.mnemonic.toList)
    (spelling : Spelling op tokens entries size) (laid : LaidOut word tokens line)
    (number : Int) (file : String) :
    parseLine (String.ofList line) number file =
      if size ≤ decimalLimit then .ok (.ok entries) else .error ⟨size⟩ := by
  have statement := parseStatement_spelling cased spelling laid
  unfold parseLine
  rw [String.toList_ofList, statement]
  by_cases short : size ≤ decimalLimit
  · rw [if_pos short, if_pos short]
  · rw [if_neg short, if_neg short]

/-- Letters of both cases, stray commas and a comma between quotes. -/
theorem parseLine_spelling_mixed :
    LaidOut ['S', 'e', 'T'] [['s', 'P'], ['\'', ',', '\'']] "\tSeT ,sP, , ',' ".toList ∧
    parseLine "\tSeT ,sP, , ',' " 7 "late" = .ok (.ok [.code (.unary .set 3), .data 44]) := by
  have none : ∀ c ∈ ([] : List Char), isBlank c = true := List.forall_mem_nil _
  have space : ∀ c ∈ [' '], isBlank c = true := List.forall_mem_singleton.mpr (by decide)
  have tab : ∀ c ∈ ['\t'], isBlank c = true := List.forall_mem_singleton.mpr (by decide)
  have fields : Fields [[], [] ++ (['s', 'P'] ++ []), [' '], [' '] ++ (['\'', ',', '\''] ++ [])]
      [['s', 'P'], ['\'', ',', '\'']] :=
    .blank none (.token none none (.blank space (.token space none .nil)))
  have line : LaidOut ['S', 'e', 'T'] [['s', 'P'], ['\'', ',', '\'']] "\tSeT ,sP, , ',' ".toList :=
    .line tab space space (by simp) fields
  have stack : NameOf registerNames 3 ['s', 'P'] := ⟨"sp", by decide, by decide⟩
  have cased : ['S', 'e', 'T'].map Char.toLower = (Opcode.unary .set).mnemonic.toList := by decide
  exact ⟨line, parseLine_spelling cased (.set ',' stack) line 7 "late"⟩

/-- An offset of zero that is written with a zero too many for the conversion. -/
theorem parseLine_spelling_unread :
    let address := List.replicate 4301 '0' ++ ['[', 'r', '1', ']']
    let line := ['l', 'd', ' ', 'r', '0', ',', ' '] ++ address
    Spelling (.access .ld) [['r', '0'], address] [.code (.access .ld 0 1 0)] 4301 ∧
    LaidOut ['l', 'd'] [['r', '0'], address] line ∧
    parseLine (String.ofList line) 1 "late" = .error ⟨4301⟩ := by
  have spaced_out : ∀ address, spelled ['l', 'd'] [['r', '0'], address] =
      ['l', 'd', ' ', 'r', '0', ',', ' '] ++ address := by
    intro address
    rw [spelled, spaced, List.map_cons, List.intercalate_cons_cons, List.map_nil,
      List.intercalate_singleton]
    rfl
  intro address line
  have written : Address 0 1 address 4301 := address_zeros 4300
  have register : NameOf registerNames 0 ['r', '0'] := ⟨"r0", by decide, by decide⟩
  have spelling : Spelling (.access .ld) [['r', '0'], address] [.code (.access .ld 0 1 0)] 4301 :=
    .access register written
  have laid : LaidOut ['l', 'd'] [['r', '0'], address] line := by
    rw [← show spelled ['l', 'd'] [['r', '0'], address] = line from spaced_out address]
    exact laidOut_spelled
  refine ⟨spelling, laid, ?_⟩
  have refused := parseStatement_spelling (by decide) spelling laid
  rw [if_neg (by decide)] at refused
  rw [parseLine, String.toList_ofList, refused]

end Lines

end DeskComputer.Source
