import MiniPL.Text.Basic
/-!
# Blank characters

The characters that separate tokens and that are cut off a line of input: every character that Unicode
gives a white-space or paragraph-separator direction or category, together with the four information
separators of ASCII.
-/

namespace MiniPL.Text

/-- The blank characters as ranges of code points, both ends included. -/
def blankRanges : List (Nat × Nat) :=
  [(0x09, 0x0D), (0x1C, 0x20), (0x85, 0x85), (0xA0, 0xA0), (0x1680, 0x1680), (0x2000, 0x200A),
   (0x2028, 0x2029), (0x202F, 0x202F), (0x205F, 0x205F), (0x3000, 0x3000)]

/-- Whether a character is blank. -/
def isBlank (c : Char) : Bool := blankRanges.any fun (lo, hi) => lo ≤ c.toNat && c.toNat ≤ hi

/-- The text without its blank beginning. -/
def stripLeft (t : Text) : Text := t.dropWhile isBlank

/-- The text without its blank end. -/
def stripRight (t : Text) : Text := (t.reverse.dropWhile isBlank).reverse

/-- The text without its blank beginning and end. -/
def strip (t : Text) : Text := stripRight (stripLeft t)

end MiniPL.Text
