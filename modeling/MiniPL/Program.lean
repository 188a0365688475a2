import MiniPL.Operator
import MiniPL.Value
/-!
# Programs

A program is a list of statements. An expression is an operand, an operator before an operand, or an
operator between two; there is no precedence, so anything deeper is in parentheses, and parentheses are
part of the tree.
-/

namespace MiniPL

mutual

/-- An expression. -/
inductive Expr where
  | simple (operand : Operand)
  | unary (op : Operator) (operand : Operand)
  | binary (left : Operand) (op : Operator) (right : Operand)

/-- What an operator applies to. -/
inductive Operand where
  | literal (v : Value)
  | variable (name : Text)
  /-- An expression in parentheses. -/
  | group (e : Expr)

end

deriving instance DecidableEq for Expr, Operand

/-- A statement. -/
inductive Stmt where
  /-- `var name : ty := value;`, where the value may be missing. -/
  | declare (name : Text) (ty : Ty) (value : Option Expr)
  | assign (name : Text) (value : Expr)
  /-- `for name in first..last do body end for;` -/
  | loop (name : Text) (first last : Expr) (body : List Stmt)
  | read (name : Text)
  | print (value : Expr)
  | assert (condition : Expr)
  | empty

/-- A program. -/
abbrev Program := List Stmt

/-! ## Statements have a decidable equality -/

mutual

/-- Whether two statements are the same. -/
def Stmt.same : Stmt → Stmt → Bool
  | .declare x t v, .declare y u w => x == y && t == u && v == w
  | .assign x v, .assign y w => x == y && v == w
  | .loop x a b body, .loop y c d body' => x == y && a == c && b == d && sameBlock body body'
  | .read x, .read y => x == y
  | .print v, .print w => v == w
  | .assert v, .assert w => v == w
  | .empty, .empty => true
  | _, _ => false

/-- Whether two lists of statements are the same. -/
def Stmt.sameBlock : List Stmt → List Stmt → Bool
  | [], [] => true
  | s :: rest, t :: rest' => s.same t && sameBlock rest rest'
  | _, _ => false

end

mutual

theorem Stmt.same_iff (s t : Stmt) : s.same t = true ↔ s = t := by
  cases s <;> cases t <;> simp [Stmt.same, Stmt.sameBlock_iff, and_assoc]

theorem Stmt.sameBlock_iff (b c : List Stmt) : Stmt.sameBlock b c = true ↔ b = c := by
  match b, c with
  | [], [] => simp [Stmt.sameBlock]
  | [], _ :: _ => simp [Stmt.sameBlock]
  | _ :: _, [] => simp [Stmt.sameBlock]
  | s :: b, t :: c => simp [Stmt.sameBlock, Stmt.same_iff s t, Stmt.sameBlock_iff b c]

end

instance : DecidableEq Stmt := fun s t => decidable_of_iff _ (Stmt.same_iff s t)

end MiniPL
