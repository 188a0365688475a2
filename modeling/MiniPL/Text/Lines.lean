import MiniPL.Text.Basic
/-!
# Lines

Two notions of a line are in use. A console and a source file end a line at a line feed, once the other
two spellings of a line end have been replaced by it (`unifyLineEnds`). A message is broken at every
character that Unicode counts as a line boundary (`lines`).
-/

namespace MiniPL.Text

/-- A carriage return, alone or before a line feed, becomes a line feed. -/
def unifyLineEnds : Text → Text
  | '\r' :: '\n' :: rest => '\n' :: unifyLineEnds rest
  | '\r' :: rest => '\n' :: unifyLineEnds rest
  | c :: rest => c :: unifyLineEnds rest
  | [] => []

/-- The characters that end a line of a message. -/
def isLineBoundary (c : Char) : Bool :=
  (0x0A ≤ c.toNat && c.toNat ≤ 0x0D) || (0x1C ≤ c.toNat && c.toNat ≤ 0x1E) || c.toNat == 0x85 ||
    c.toNat == 0x2028 || c.toNat == 0x2029

/-- The lines of a text whose current line already reads `line`, backwards. -/
def linesFrom (line : Text) : Text → List Text
  | [] => if line.isEmpty then [] else [line.reverse]
  | '\r' :: '\n' :: rest => line.reverse :: linesFrom [] rest
  | c :: rest => if isLineBoundary c then line.reverse :: linesFrom [] rest else linesFrom (c :: line) rest

/-- The lines of a text, without what ends them. A text that ends with a line boundary has no further,
empty line after it. -/
def lines (t : Text) : List Text := linesFrom [] t

/-- The lines of a text whose current line already reads `line`, backwards, where only a line feed ends
a line. -/
def feedLinesFrom (line : Text) : Text → List Text
  | [] => if line.isEmpty then [] else [line.reverse]
  | c :: rest => if c = '\n' then line.reverse :: feedLinesFrom [] rest else feedLinesFrom (c :: line) rest

/-- The lines of a text, each ended by a line feed; a last line without one counts too. -/
def feedLines (t : Text) : List Text := feedLinesFrom [] t

end MiniPL.Text
