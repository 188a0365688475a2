import MiniPL.Text.Basic
/-!
# A window on a text

The two lines under a message that show where in a text something went wrong: a stretch of the text
around a position and, below it, a caret under that position. The position may lie beyond the text.
-/

namespace MiniPL.Text

/-- A stretch of a text and the line that points into it. -/
structure Window where
  shown : Text
  caret : Text
  deriving DecidableEq

/-- A line feed or a tab would move the caret away from its place, so either is shown as a space. -/
def flatten (c : Char) : Char := if c = '\n' ∨ c = '\t' then ' ' else c

/-- Three dots where the text goes on. -/
def ellipsis (cut : Bool) : Text := if cut then "..." else []

/-- The window that reaches `context` characters to either side of `index`. -/
def windowAt (t : Text) (index context : Nat) : Window :=
  let start := index - context
  let stop := min t.length (index + context)
  { shown :=
      ellipsis (0 < start) ++ ((t.take stop).drop start).map flatten ++ ellipsis (stop < t.length)
    caret := List.replicate (index - start + (ellipsis (0 < start)).length) ' ' ++ ['^'] }

/-- The two lines of a window. -/
def Window.lines (w : Window) : List Text := [w.shown, w.caret]

end MiniPL.Text
