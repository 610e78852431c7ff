/-!
# Terminal styling

What is printed of a text where the output is no terminal. A control sequence is an escape
character, an opening bracket, parameters and a final letter. `unstyled` is a text without its
control sequences. What is left is not searched again, so it may hold one.
-/

namespace DeskComputer.Host

/-- Whether a character may stand between the bracket and the final letter. -/
def isParameter (c : Char) : Bool := c = ';' || c = '?' || c.isDigit

/-- The length of the control sequence that a text starts with; zero if it starts with none. -/
def controlLength : List Char → Nat
  | '\x1b' :: '[' :: rest =>
    match rest.dropWhile isParameter with
    | c :: _ => if c.isAlpha then (rest.takeWhile isParameter).length + 3 else 0
    | [] => 0
  | _ => 0

/-- A text without its control sequences, after `skip` characters that belong to one. -/
def unstyledFrom (skip : Nat) : List Char → List Char
  | [] => []
  | c :: rest =>
    match skip with
    | skip + 1 => unstyledFrom skip rest
    | 0 =>
      match controlLength (c :: rest) with
      | 0 => c :: unstyledFrom 0 rest
      | more + 1 => unstyledFrom more rest

def unstyled (text : String) : String := String.ofList (unstyledFrom 0 text.toList)

theorem controlLength_plain {c : Char} {rest : List Char} (plain : c ≠ '\x1b') :
    controlLength (c :: rest) = 0 := by
  unfold controlLength
  split
  · rename_i same
    exact absurd (List.cons.inj same).1 plain
  · rfl

theorem unstyledFrom_plain {text : List Char} (plain : '\x1b' ∉ text) :
    unstyledFrom 0 text = text := by
  induction text with
  | nil => rfl
  | cons c text ih =>
    rw [List.mem_cons, not_or] at plain
    rw [unstyledFrom, controlLength_plain (Ne.symm plain.1)]
    dsimp only
    rw [ih plain.2]

theorem unstyled_plain {text : String} (plain : '\x1b' ∉ text.toList) : unstyled text = text := by
  rw [unstyled, unstyledFrom_plain plain, String.ofList_toList]

end DeskComputer.Host
