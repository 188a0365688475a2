import MiniPL.Text.Basic
/-!
# Values

The three types of the language, the values of each, and how a value is shown.
-/

namespace MiniPL

/-- The type of a variable or a value. -/
inductive Ty where
  | int
  | string
  | bool
  deriving DecidableEq

/-- The word that a program writes for the type. -/
def Ty.keyword : Ty → Text
  | .int => "int"
  | .string => "string"
  | .bool => "bool"

/-- The word that a message uses for a value of the type. -/
def Ty.noun : Ty → Text
  | .int => "integer"
  | .string => "string"
  | .bool => "boolean"

/-- A value. It never changes into a value of another type. -/
inductive Value where
  | int (n : Int)
  | string (s : Text)
  | bool (b : Bool)
  deriving DecidableEq

namespace Value

def ty : Value → Ty
  | .int _ => .int
  | .string _ => .string
  | .bool _ => .bool

/-- The word that a program writes for a truth value. -/
def boolWord : Bool → Text
  | true => "true"
  | false => "false"

/-- What `print` writes: a number in decimal, a string as it is, a truth value as its word. -/
def display : Value → Text
  | .int n => Text.ofInt n
  | .string s => s
  | .bool b => boolWord b

/-- The value of a variable that is declared without one. -/
def default : Ty → Value
  | .int => .int 0
  | .string => .string []
  | .bool => .bool false

@[simp] theorem ty_default (t : Ty) : (default t).ty = t := by cases t <;> rfl

/-- The least integer of the language. -/
def minInt : Int := -2147483648

/-- The greatest integer of the language. -/
def maxInt : Int := 2147483647

/-- Whether an integer has a place in 32 bits. -/
def InRange (n : Int) : Prop := minInt ≤ n ∧ n ≤ maxInt

instance (n : Int) : Decidable (InRange n) := inferInstanceAs (Decidable (_ ∧ _))

end Value

end MiniPL
