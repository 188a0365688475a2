import MiniPL.Machine
import MiniPL.Program.Reader
import MiniPL.Scanner
/-!
# Texts on a machine

A text goes through three stages, each of which can fail: it is scanned, read as a program, and run. Texts
that are submitted one after another share one machine, so declarations stay.
-/

namespace MiniPL

/-- Why a text was not run to its end. -/
inductive Failure where
  | scan (code : Text) (f : Scanner.Fault)
  | read (ts : List Token) (f : Reader.Fault)
  | run (f : Fault)
  deriving DecidableEq

namespace Failure

/-- The failure as it is reported. -/
def render : Failure → Text
  | .scan code f => f.render code
  | .read ts (.refused f) => f.render ts
  | .read _ (.unknownOperator e) => e.text
  | .run f => f.render

end Failure

/-- The tokens of a text. -/
def Token.ofText (code : Text) : Except Failure (List Token) := (Token.scan code).mapError (.scan code)

/-- The program of some tokens. -/
def Program.ofScanned (ts : List Token) : Except Failure Program := (Program.ofTokens ts).mapError (.read ts)

/-- The program that a text spells. -/
def Program.ofText (code : Text) : Except Failure Program := do Program.ofScanned (← Token.ofText code)

namespace Machine

/-- What became of a text: why it was not run to its end, if it was not, and the machine it left. -/
structure Outcome where
  failure : Option Failure
  machine : Machine
  deriving DecidableEq

/-- Scans, reads and runs a text. -/
def submit (m : Machine) (code : Text) : Outcome :=
  match Token.ofText code with
  | .error f => { failure := some f, machine := m }
  | .ok ts =>
    let m := { m with events := .scanned code.length ts.length :: m.events }
    match Program.ofScanned ts with
    | .error f => { failure := some f, machine := m }
    | .ok p =>
      let ended := { m with events := .parsed p.length :: m.events }.run p
      { failure := ended.fault.map .run, machine := ended.machine }

/-- Forgets what was printed. -/
def clear (m : Machine) : Machine := { m with printed := [] }

/-- What becomes of texts that are submitted one after another; each outcome has that text's output
alone. -/
def session (m : Machine) : List Text → List Outcome
  | [] => []
  | code :: rest =>
    let outcome := m.clear.submit code
    outcome :: session outcome.machine rest

end Machine

end MiniPL
