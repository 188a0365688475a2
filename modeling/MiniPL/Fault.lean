import MiniPL.Operator
import MiniPL.Text.Quoted
import MiniPL.Value
/-!
# Faults of a running program

Everything that can go wrong while a program runs, as a cause. The wording is `Fault.text`, and nothing
else in the library looks at it.
-/

namespace MiniPL

/-- Why a run stopped. -/
inductive Fault where
  /-- A value of type `wanted` was needed and one of type `found` was there. -/
  | mismatch (wanted found : Ty)
  /-- The left operand of an addition has no sum. -/
  | notAddable (found : Ty)
  /-- A name was declared with a value of another type. -/
  | badInitializer (name : Text) (declared : Ty) (value : Value)
  /-- A value was assigned to a name of another type. -/
  | badAssignment (name : Text) (declared found : Ty)
  /-- What was asserted has no truth value. -/
  | badAssertion (found : Ty)
  /-- A loop or a `read` names a variable that is not there. -/
  | notInitialized (name : Text)
  | usedBeforeDeclaration (name : Text)
  | usedBeforeAssignment (name : Text)
  | divisionByZero
  /-- A result has no place in 32 bits. -/
  | overflow (n : Int)
  | assertionFailed
  /-- A line of input does not read as a value of the type. -/
  | malformedInput (wanted : Ty) (line : Text)
  | inputOutOfRange (line : Text)
  | endOfInput
  /-- The console gave a reason instead of a line. -/
  | consoleFailure (reason : Text)
  /-- An operator that takes one operand stands between two. -/
  | notBinary (op : Operator)
  /-- An operator that takes two operands stands before one. -/
  | notUnary (op : Operator)
  deriving DecidableEq

namespace Fault

def text : Fault → Text
  | .mismatch wanted found => "Expected " ++ wanted.noun ++ ", got " ++ found.noun
  | .notAddable found => "Expected integer or string, got " ++ found.noun
  | .badInitializer name declared value =>
    "Type " ++ declared.keyword ++ " does not match value " ++ value.display.quoted ++ " of " ++ name
  | .badAssignment name declared found =>
    "Cannot assign " ++ found.noun ++ " to " ++ name ++ " declared as " ++ declared.keyword
  | .badAssertion found => "Assert expected boolean argument, got " ++ found.noun
  | .notInitialized name => "Identifier " ++ name ++ " not initialized"
  | .usedBeforeDeclaration name => "Identifier " ++ name ++ " used before declaration"
  | .usedBeforeAssignment name => "Identifier " ++ name ++ " used before assignment"
  | .divisionByZero => "Division by zero"
  | .overflow n => "Integer overflow: " ++ Text.ofInt n ++ " does not fit in 32 bits"
  | .assertionFailed => "Assertion failed"
  | .malformedInput wanted line => "Invalid " ++ wanted.noun ++ " input: " ++ line.quoted
  | .inputOutOfRange line => "Integer input out of range: " ++ line.quoted
  | .endOfInput => "IO error: end of input"
  | .consoleFailure reason => "IO error: " ++ reason
  | .notBinary op => op.symbol ++ " is a unary operator"
  | .notUnary op => op.symbol ++ " is not a unary operator"

/-- The line that reports the text of a fault. -/
def report (text : Text) : Text := "[Runtime error] " ++ text

/-- The fault as it is reported. -/
def render (f : Fault) : Text := report f.text

end Fault

end MiniPL
