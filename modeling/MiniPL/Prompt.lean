import MiniPL.Session
/-!
# The prompt

A conversation on one console: a prompt, a line of program, what it prints, and why it failed if it did.
A `read` in a program line takes its own line off the same console. The conversation ends where the
console has no line at a prompt.
-/

namespace MiniPL

namespace Prompt

/-- A line of program and what became of it. -/
structure Exchange where
  line : Text
  outcome : Machine.Outcome

/-- The mark that asks for a line. -/
def mark : Text := "> "

/-- What an exchange shows. -/
def Exchange.text (e : Exchange) : Text :=
  let complaint : Text := match e.outcome.failure with
    | some f => f.render ++ "\n"
    | none => []
  mark ++ e.outcome.machine.output ++ complaint

/-- The exchanges on a machine, of which there are at most `bound`. -/
def exchangesWithin : (bound : Nat) → Machine → List Exchange
  | 0, _ => []
  | bound + 1, m => match m.console.takeLine with
    | .error _ => []
    | .ok (line, console) =>
      let outcome := { m.clear with console }.submit line
      { line, outcome } :: exchangesWithin bound outcome.machine

/-- The exchanges on a machine. Each takes a line, so there are no more of them than lines. -/
def exchanges (m : Machine) : List Exchange := exchangesWithin m.console.lines.length m

/-- Everything that a conversation on a console shows. -/
def transcript (console : Console) : Text :=
  (exchanges (Machine.fresh console)).flatMap Exchange.text ++ mark

end Prompt

end MiniPL
