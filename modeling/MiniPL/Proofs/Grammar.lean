import MiniPL.Program
import MiniPL.Token
/-!
# The grammar

Which kinds of tokens, in a row, spell which tree. Lexemes play no part. Every tree is spelled by some tokens,
of the kinds `Program.kinds`.
-/

namespace MiniPL

open Token (Kind)

mutual

/-- `Expr ::= OP Operand | Operand | Operand OP Operand` -/
inductive Expr.Spelled : Expr → List Kind → Prop
  | simple {a ks} : a.Spelled ks → (Expr.simple a).Spelled ks
  | unary {op a ks} : a.Spelled ks → (Expr.unary op a).Spelled (.operator op.symbol :: ks)
  | binary {op a b ks ls} : a.Spelled ks → b.Spelled ls →
      (Expr.binary a op b).Spelled (ks ++ .operator op.symbol :: ls)

/-- `Operand ::= INTEGER | STRING | BOOLEAN | IDENT | '(' Expr ')'` -/
inductive Operand.Spelled : Operand → List Kind → Prop
  | integer (n : Int) : (Operand.literal (.int n)).Spelled [.integer n]
  | string (s : Text) : (Operand.literal (.string s)).Spelled [.string s]
  | boolean (b : Bool) : (Operand.literal (.bool b)).Spelled [.boolean b]
  | variable (x : Text) : (Operand.variable x).Spelled [.identifier x]
  | group {e ks} : e.Spelled ks → (Operand.group e).Spelled (.bracketOpen :: (ks ++ [.bracketClose]))

end

mutual

/-- One production for each form of statement. -/
inductive Stmt.Spelled : Stmt → List Kind → Prop
  | empty : Stmt.empty.Spelled [.statementEnd]
  | assign {x e ks} : e.Spelled ks →
      (Stmt.assign x e).Spelled (.identifier x :: .assignment :: (ks ++ [.statementEnd]))
  | declare (x : Text) (ty : Ty) : (Stmt.declare x ty none).Spelled
      [.keyword .var, .identifier x, .typeMark, .keyword (.type ty), .statementEnd]
  | declareTo {x ty e ks} : e.Spelled ks → (Stmt.declare x ty (some e)).Spelled
      (.keyword .var :: .identifier x :: .typeMark :: .keyword (.type ty) :: .assignment ::
        (ks ++ [.statementEnd]))
  | loop {x a b body ks ls ms} : a.Spelled ks → b.Spelled ls → Stmt.BlockSpelled body ms →
      (Stmt.loop x a b body).Spelled
        (.keyword .forWord :: .identifier x :: .keyword .inWord :: (ks ++ .range :: (ls ++ .keyword .doWord ::
          (ms ++ [.keyword .endWord, .keyword .forWord, .statementEnd]))))
  | read (x : Text) : (Stmt.read x).Spelled [.keyword .read, .identifier x, .statementEnd]
  | print {e ks} : e.Spelled ks → (Stmt.print e).Spelled (.keyword .print :: (ks ++ [.statementEnd]))
  | assert {e ks} : e.Spelled ks → (Stmt.assert e).Spelled
      (.keyword .assert :: .bracketOpen :: (ks ++ [.bracketClose, .statementEnd]))

/-- Statements one after another. -/
inductive Stmt.BlockSpelled : List Stmt → List Kind → Prop
  | nil : Stmt.BlockSpelled [] []
  | cons {s body ks ls} : s.Spelled ks → Stmt.BlockSpelled body ls → Stmt.BlockSpelled (s :: body) (ks ++ ls)

end

/-- `Program ::= Stmt*` -/
def Program.Spelled (p : Program) (ts : List Token) : Prop := Stmt.BlockSpelled p (ts.map Token.kind)

/-! ## A spelling of a tree -/

/-- The kind of the token that stands for a value. -/
def Value.kind : Value → Kind
  | .int n => .integer n
  | .string s => .string s
  | .bool b => .boolean b

mutual

def Expr.kinds : Expr → List Kind
  | .simple a => a.kinds
  | .unary op a => .operator op.symbol :: a.kinds
  | .binary a op b => a.kinds ++ .operator op.symbol :: b.kinds

def Operand.kinds : Operand → List Kind
  | .literal v => [v.kind]
  | .variable x => [.identifier x]
  | .group e => .bracketOpen :: (e.kinds ++ [.bracketClose])

end

mutual

def Stmt.kinds : Stmt → List Kind
  | .declare x ty none => [.keyword .var, .identifier x, .typeMark, .keyword (.type ty), .statementEnd]
  | .declare x ty (some e) => .keyword .var :: .identifier x :: .typeMark :: .keyword (.type ty) :: .assignment ::
      (e.kinds ++ [.statementEnd])
  | .assign x e => .identifier x :: .assignment :: (e.kinds ++ [.statementEnd])
  | .loop x a b body => .keyword .forWord :: .identifier x :: .keyword .inWord :: (a.kinds ++ .range ::
      (b.kinds ++ .keyword .doWord ::
        (Stmt.blockKinds body ++ [.keyword .endWord, .keyword .forWord, .statementEnd])))
  | .read x => [.keyword .read, .identifier x, .statementEnd]
  | .print e => .keyword .print :: (e.kinds ++ [.statementEnd])
  | .assert e => .keyword .assert :: .bracketOpen :: (e.kinds ++ [.bracketClose, .statementEnd])
  | .empty => [.statementEnd]

def Stmt.blockKinds : List Stmt → List Kind
  | [] => []
  | s :: body => s.kinds ++ Stmt.blockKinds body

end

mutual

theorem Expr.spelled (e : Expr) : e.Spelled e.kinds := by
  cases e with
  | simple a => exact .simple a.spelled
  | unary op a => exact .unary a.spelled
  | binary a op b => exact .binary a.spelled b.spelled

theorem Operand.spelled (a : Operand) : a.Spelled a.kinds := by
  cases a with
  | literal v => cases v <;> constructor
  | «variable» x => exact .variable x
  | group e => exact .group e.spelled

end

mutual

theorem Stmt.spelled (s : Stmt) : s.Spelled s.kinds := by
  cases s with
  | declare x ty e =>
    cases e with
    | none => exact .declare x ty
    | some e => exact .declareTo e.spelled
  | assign x e => exact .assign e.spelled
  | loop x a b body => exact .loop a.spelled b.spelled (Stmt.blockSpelled body)
  | read x => exact .read x
  | print e => exact .print e.spelled
  | assert e => exact .assert e.spelled
  | empty => exact .empty

theorem Stmt.blockSpelled (body : List Stmt) : Stmt.BlockSpelled body (Stmt.blockKinds body) := by
  cases body with
  | nil => exact .nil
  | cons s body => exact .cons s.spelled (Stmt.blockSpelled body)

end

end MiniPL
