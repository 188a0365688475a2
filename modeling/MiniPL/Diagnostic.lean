import MiniPL.Fault
import MiniPL.Text.Lines
/-!
# Diagnostics

What is written when something goes wrong, and with which code the program exits. A failure of the language
is reported as it is; anything else is reported as internal, under the name of its kind. The first line
can be coloured, the others never are.
-/

namespace MiniPL.Diagnostic

/-- Something that a piece of work can end with. -/
inductive Raised where
  /-- A failure of the language, with its report. -/
  | report (text : Text)
  /-- The user wants to stop. -/
  | interrupt
  /-- The program is to exit with a code. -/
  | leave (code : Int)
  /-- A failure of the program itself: its kind and message. -/
  | foreign (kind message : Text)
  deriving DecidableEq

/-- How diagnostics are handled: whether the program exits after one, and whether there are colours. The
exit code is that of the last diagnostic. -/
structure Handler where
  fatal : Bool
  colored : Bool
  exitCode : Int
  deriving DecidableEq

/-- A handler that has seen nothing. -/
def Handler.fresh (fatal colored : Bool) : Handler := { fatal, colored, exitCode := 0 }

/-- What becomes of a piece of work: the handler after it, the code with which the program exits, if it
does, and what was written. -/
structure Handled where
  handler : Handler
  exit : Option Int
  written : Text
  deriving DecidableEq

/-- Bold and red, if there are colours. -/
def paint (colored : Bool) (line : Text) : Text :=
  if colored then "\x1b[1m\x1b[31m" ++ line ++ "\x1b[0m" else line

/-- Lines as they stand below one another. -/
def stacked : List Text → Text
  | [] => []
  | line :: rest => line ++ "\n" ++ stacked rest

/-- Lines as they are written. -/
def written (colored : Bool) : List Text → Text
  | [] => []
  | first :: rest => stacked (paint colored first :: rest)

/-- The lines of a message, which is `blank` if it has none. -/
def linesOr (blank message : Text) : List Text :=
  match message.lines with
  | [] => [blank]
  | lines => lines

/-- Puts a text before the first line. -/
def mark (text : Text) : List Text → List Text
  | [] => []
  | first :: rest => (text ++ first) :: rest

/-- The lines of a failure of the program itself. -/
def internalLines (kind message : Text) : List Text :=
  mark ("[internal] " ++ kind ++ ": ") (linesOr kind message)

namespace Handler

/-- Writes lines and takes over a code. -/
def throw (h : Handler) (lines : List Text) (code : Int) : Handled :=
  { handler := { h with exitCode := code }
    exit := if h.fatal then some code else none
    written := Diagnostic.written h.colored lines }

/-- Handles the end of a piece of work. -/
def handle (h : Handler) : Option Raised → Handled
  | none => { handler := h, exit := none, written := [] }
  | some (.leave code) => { handler := h, exit := some code, written := [] }
  | some .interrupt => h.throw [Fault.report "keyboard interrupt"] 130
  | some (.report text) => h.throw text.lines 1
  | some (.foreign kind message) => h.throw (internalLines kind message) 1

end Handler

end MiniPL.Diagnostic
