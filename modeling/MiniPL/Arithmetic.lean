import MiniPL.Session
import MiniPL.Value.Input
/-!
# Arithmetic by itself and by a program

The four operations on integers twice: computed directly, and computed by a program that prints the result.
A negative operand has no literal and is written as a difference.
-/

namespace MiniPL.Arithmetic

/-- An operation on integers. -/
inductive Operation where
  | add
  | sub
  | mul
  | div
  deriving DecidableEq

def Operation.operator : Operation → Operator
  | .add => .add
  | .sub => .sub
  | .mul => .mul
  | .div => .div

/-- The magnitude of the first number divided by that of the second, negative if exactly one of them is. -/
def quotient (a b : Int) : Int :=
  let q : Int := a.natAbs / b.natAbs
  if decide (a < 0) != decide (b < 0) then -q else q

/-- The result of an operation, before it has to fit. -/
def exact (op : Operation) (a b : Int) : Int :=
  match op with
  | .add => a + b
  | .sub => a - b
  | .mul => a * b
  | .div => quotient a b

/-- The result of an operation, or what is wrong with it. -/
def direct (op : Operation) (a b : Int) : Except Text Int :=
  if op = .div ∧ b = 0 then .error "Division by zero"
  else if Value.InRange (exact op a b) then .ok (exact op a b)
  else .error "Integer overflow"

/-- A number as an operand of a program. -/
def operand (n : Int) : Text := if 0 ≤ n then Text.ofInt n else "(0 - " ++ Text.ofInt (-n) ++ ")"

/-- The program that prints the result of an operation. -/
def question (op : Operation) (a b : Int) : Text :=
  "print " ++ operand a ++ " " ++ op.operator.symbol ++ " " ++ operand b ++ ";"

/-- The number that the program prints, or the failure it ends with. -/
def byProgram (op : Operation) (a b : Int) : Except Text Int :=
  let outcome := (Machine.fresh (.ofText [])).submit (question op a b)
  match outcome.failure with
  | some f => .error f.render
  | none => match Value.signed? outcome.machine.output with
    | some n => .ok n
    | none => .error outcome.machine.output

end MiniPL.Arithmetic
