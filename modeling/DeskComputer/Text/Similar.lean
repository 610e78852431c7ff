/-!
# Similar names

How alike two texts are: twice the characters that they share in matching blocks over their total
length. The blocks are found by taking a longest common run, then doing the same on both sides of
it. In a long reference text the characters that are frequent in it start no run, though a run may
spread over them. `closeMatches` keeps the best few of the candidates that are alike enough.
-/

namespace DeskComputer.Text

/-- A reference character, and whether a run may start from it. -/
abbrev Marked := Char × Bool

/-- The length from which on frequent characters of the reference start no run. -/
def longReference : Nat := 200

def mark (reference : List Char) : List Marked :=
  let n := reference.length
  reference.map fun c => (c, n < longReference || reference.count c ≤ n / 100 + 1)

/-- A common run: where it starts in both texts, and its length. -/
structure Run where
  left : Nat
  right : Nat
  size : Nat
  deriving DecidableEq, Repr

/-- The lengths of the runs that end at a character and at each place of the reference, from those
that end at the character before it. `diagonal` is the entry before the first. -/
def nextRow (c : Char) (diagonal : Nat) : List Marked → List Nat → List Nat
  | [], _ => []
  | (r, mayStart) :: reference, row =>
    (if c = r && mayStart then diagonal + 1 else 0)
      :: nextRow c (row.headD 0) reference row.tail

/-- The first longest run, given that of the earlier places, in a row that ends at place `i`. -/
def bestInRow (i : Nat) : Nat → Run → List Nat → Run
  | _, best, [] => best
  | j, best, k :: row =>
    bestInRow i (j + 1) (if best.size < k then ⟨i + 1 - k, j + 1 - k, k⟩ else best) row

/-- The first longest run of marked characters. -/
def seedRun (reference : List Marked) : Nat → Run → List Nat → List Char → Run
  | _, best, _, [] => best
  | i, best, row, c :: text =>
    let row := nextRow c 0 reference row
    seedRun reference (i + 1) (bestInRow i 0 best row) row text

def commonStart : List Char → List Char → Nat
  | a :: as, b :: bs => if a = b then commonStart as bs + 1 else 0
  | _, _ => 0

/-- A longest run, spread as far as the texts agree on both sides of it. -/
def longestRun (text : List Char) (reference : List Marked) : Run :=
  let seed := seedRun reference 0 ⟨0, 0, 0⟩ [] text
  let plain := reference.map (·.1)
  let back := commonStart (text.take seed.left).reverse (plain.take seed.right).reverse
  let ahead := commonStart (text.drop (seed.left + seed.size)) (plain.drop (seed.right + seed.size))
  ⟨seed.left - back, seed.right - back, seed.size + back + ahead⟩

/-- The characters in the matching blocks of two texts; `fuel` bounds the length of the first. -/
def matched : Nat → List Char → List Marked → Nat
  | 0, _, _ => 0
  | fuel + 1, text, reference =>
    let run := longestRun text reference
    if run.size = 0 then 0
    else
      matched fuel (text.take run.left) (reference.take run.right) + run.size +
        matched fuel (text.drop (run.left + run.size)) (reference.drop (run.right + run.size))

/-- A likeness between 0 and 1, as a numerator and a positive denominator. -/
structure Likeness where
  num : Nat
  den : Nat
  deriving DecidableEq, Repr

/-- How alike a text is to a reference. Two empty texts are alike. -/
def likeness (text reference : List Char) : Likeness :=
  let total := text.length + reference.length
  if total = 0 then ⟨1, 1⟩ else ⟨2 * matched (text.length + 1) text (mark reference), total⟩

def Likeness.close (l : Likeness) : Bool := 3 * l.den ≤ 5 * l.num

/-- Whether one candidate goes before another: the more alike one, and of two equally alike ones
the later in the order of texts. -/
def goesBefore (a b : Likeness × String) : Bool :=
  let x := a.1.num * b.1.den
  let y := b.1.num * a.1.den
  y < x || x = y && b.2 ≤ a.2

/-- At most three candidates that are close to a reference, best first. -/
def closeMatches (reference : String) (candidates : List String) : List String :=
  let scored := candidates.map fun c => (likeness c.toList reference.toList, c)
  (((scored.filter (·.1.close)).mergeSort goesBefore).take 3).map (·.2)

end DeskComputer.Text
