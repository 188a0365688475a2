import MiniPL.Text.Blank
import MiniPL.Value.Conversion
/-!
# A line of input as a value

The line is stripped of blanks first. An integer is then an optional sign and one or more digits, a truth
value one of its two words, and a string whatever is left.
-/

namespace MiniPL.Value

/-- The digits of a text that holds nothing else, and at least one. -/
def digits? (t : Text) : Option Text :=
  if !t.isEmpty && t.all Text.isDigit then some t else none

/-- The integer that a text of an optional sign and one or more digits writes. -/
def signed? : Text → Option Int
  | '+' :: t => (digits? t).map fun ds => (Text.toNat ds : Int)
  | '-' :: t => (digits? t).map fun ds => -(Text.toNat ds : Int)
  | t => (digits? t).map fun ds => (Text.toNat ds : Int)

/-- The value that a stripped line stands for. -/
def ofStripped (wanted : Ty) (t : Text) : Except Fault Value :=
  match wanted with
  | .string => .ok (.string t)
  | .bool =>
    if t = boolWord true then .ok (.bool true)
    else if t = boolWord false then .ok (.bool false)
    else .error (.malformedInput .bool t)
  | .int => match signed? t with
    | none => .error (.malformedInput .int t)
    | some n => if InRange n then .ok (.int n) else .error (.inputOutOfRange t)

/-- The value of type `wanted` that a line of input stands for. -/
def ofLine (wanted : Ty) (line : Text) : Except Fault Value := ofStripped wanted line.strip

end MiniPL.Value
