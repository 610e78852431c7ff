import DeskComputer.Text.Numeral
import DeskComputer.Text.Printable

/-!
# Quoted text

`quote` writes a text on one line between quotes. The quotes are single unless the text holds a
single quote and no double one.
-/

namespace DeskComputer.Text

/-- The quote that a text is written between. -/
def quoteMark (text : List Char) : Char :=
  if text.contains '\'' && !text.contains '\"' then '\"' else '\''

/-- A character between quotes: the quote and the backslash are escaped, and characters that are
not printable are named by a letter or by their code point. -/
def escapeChar (mark c : Char) : List Char :=
  if c = mark || c = '\\' then ['\\', c]
  else if c = '\n' then ['\\', 'n']
  else if c = '\r' then ['\\', 'r']
  else if c = '\t' then ['\\', 't']
  else if isPrintable c then [c]
  else if c.toNat < 0x100 then '\\' :: 'x' :: (hex 2 c.toNat).toList
  else if c.toNat < 0x10000 then '\\' :: 'u' :: (hex 4 c.toNat).toList
  else '\\' :: 'U' :: (hex 8 c.toNat).toList

def quote (text : String) : String :=
  let mark := quoteMark text.toList
  String.ofList (mark :: text.toList.flatMap (escapeChar mark) ++ [mark])

end DeskComputer.Text
