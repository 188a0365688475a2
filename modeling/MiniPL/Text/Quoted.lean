import MiniPL.Text.Printable
/-!
# Quoted text

How a message shows a text that the program was given: between quotes, with everything that would not be
seen written as an escape.
-/

namespace MiniPL.Text

/-- The quote put around a text: a double one if only single ones occur in the text, otherwise a single
one. -/
def quoteFor (t : Text) : Char := if '\'' ∈ t ∧ '"' ∉ t then '"' else '\''

/-- A character as it stands between two quotes `quote`. What cannot be printed is written by its code
point, in two, four or eight digits, whichever is enough. -/
def escapeWithin (quote c : Char) : Text :=
  if c = quote ∨ c = '\\' then ['\\', c]
  else if c = '\n' then ['\\', 'n']
  else if c = '\r' then ['\\', 'r']
  else if c = '\t' then ['\\', 't']
  else if isPrintable c then [c]
  else if c.toNat < 0x100 then '\\' :: 'x' :: hex 2 c.toNat
  else if c.toNat < 0x10000 then '\\' :: 'u' :: hex 4 c.toNat
  else '\\' :: 'U' :: hex 8 c.toNat

/-- The text between quotes. -/
def quoted (t : Text) : Text :=
  quoteFor t :: t.flatMap (escapeWithin (quoteFor t)) ++ [quoteFor t]

end MiniPL.Text
