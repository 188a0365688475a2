import MiniPL.Value.Conversion
/-!
# The table of operators

What each operator makes of its operands. An operator looks at the types first, from left to right, and
computes only if they fit.
-/

namespace MiniPL.Operator

/-- A sum of numbers or a concatenation of strings; the left operand decides which. -/
def sum (l r : Value) : Except Fault Value :=
  match l with
  | .int a => do Value.checked (a + (← r.toInt))
  | .string s => do return .string (s ++ (← r.toText))
  | .bool _ => .error (.notAddable .bool)

/-- The quotient of two numbers, cut off toward zero. -/
def quotient (l r : Value) : Except Fault Value := do
  let a ← l.toInt
  let b ← r.toInt
  if b = 0 then throw .divisionByZero
  Value.checked (a.tdiv b)

theorem quotient_eq_checked {a b : Int} (hb : b ≠ 0) : quotient (.int a) (.int b) = Value.checked (a.tdiv b) := by
  simp only [quotient, Value.toInt, bind, Except.bind, if_neg hb]

/-- The order of numbers, of texts by code point, and of truth values, where false comes first. -/
def lessThan (l r : Value) : Except Fault Value :=
  match l with
  | .int a => do return .bool (decide (a < (← r.toInt)))
  | .string s => do return .bool (decide (s < (← r.toText)))
  | .bool p => do return .bool (!p && (← r.toBool))

/-- The value of an operator between two operands. -/
def apply (op : Operator) (l r : Value) : Except Fault Value :=
  match op with
  | .add => sum l r
  | .sub => do Value.checked ((← l.toInt) - (← r.toInt))
  | .mul => do Value.checked ((← l.toInt) * (← r.toInt))
  | .div => quotient l r
  | .and => do
    let p ← l.toBool
    let q ← r.toBool
    return .bool (p && q)
  | .equal => .ok (.bool (decide (l = r)))
  | .less => lessThan l r
  | .not => .error (.notBinary .not)

/-- The value of an operator before its only operand. -/
def applyUnary (op : Operator) (v : Value) : Except Fault Value :=
  match op with
  | .not => do return .bool (!(← v.toBool))
  | op => .error (.notUnary op)

end MiniPL.Operator
