import MiniPL.Fault
/-!
# What a value is taken for

A value is never converted: it is taken for what it is, or the run stops. An integer result is taken if
it has a place in 32 bits.
-/

namespace MiniPL.Value

def toInt : Value → Except Fault Int
  | .int n => .ok n
  | v => .error (.mismatch .int v.ty)

def toText : Value → Except Fault Text
  | .string s => .ok s
  | v => .error (.mismatch .string v.ty)

def toBool : Value → Except Fault Bool
  | .bool b => .ok b
  | v => .error (.mismatch .bool v.ty)

/-- The integer as a value, if it has a place in 32 bits. -/
def checked (n : Int) : Except Fault Value :=
  if InRange n then .ok (.int n) else .error (.overflow n)

end MiniPL.Value
