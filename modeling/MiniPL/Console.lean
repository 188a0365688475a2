import MiniPL.Fault
import MiniPL.Text.Lines
/-!
# The console

What `read` takes its lines from: the lines still to come, and what happens after the last one.
-/

namespace MiniPL

/-- The lines still to come, and the reason that the console gives for having no more, if it is not simply
at its end. -/
structure Console where
  lines : List Text
  failure : Option Text
  deriving DecidableEq

namespace Console

/-- The console that holds a text. -/
def ofText (t : Text) : Console := { lines := t.feedLines, failure := none }

/-- Why the console has no line. -/
def exhausted (c : Console) : Fault :=
  match c.failure with
  | some reason => .consoleFailure reason
  | none => .endOfInput

/-- The next line, and the console after it. -/
def takeLine (c : Console) : Except Fault (Text × Console) :=
  match c.lines with
  | line :: rest => .ok (line, { c with lines := rest })
  | [] => .error c.exhausted

end Console

end MiniPL
