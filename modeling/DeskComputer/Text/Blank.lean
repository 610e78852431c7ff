import DeskComputer.Text.Ranges

/-!
# Blanks

Blanks are the characters that separate words and that trimming removes: the Unicode white space
together with the four information separators. `trim`, `firstWord` and `afterWord` are the only
ways in which source text is cut at blanks.
-/

namespace DeskComputer.Text

def blankRanges : Ranges :=
  [(0x9, 0xD), (0x1C, 0x20), (0x85, 0x85), (0xA0, 0xA0), (0x1680, 0x1680), (0x2000, 0x200A),
   (0x2028, 0x2029), (0x202F, 0x202F), (0x205F, 0x205F), (0x3000, 0x3000)]

def isBlank (c : Char) : Bool := blankRanges.contains c

def trimStart (text : List Char) : List Char := text.dropWhile isBlank

def trimEnd (text : List Char) : List Char := (text.reverse.dropWhile isBlank).reverse

def trim (text : List Char) : List Char := trimEnd (trimStart text)

/-- What stands before the first blank. -/
def firstWord (text : List Char) : List Char := text.takeWhile (!isBlank ·)

/-- What stands after the first word and the blanks that follow it. -/
def afterWord (text : List Char) : List Char := trimStart (text.dropWhile (!isBlank ·))

end DeskComputer.Text
