import MiniPL.Program
/-!
# A program as source

One statement a line, the body of a loop four spaces further in, and a space on either side of every
operator that stands between two operands. A string literal is escaped so that it reads back.
-/

namespace MiniPL

/-- A character as it stands in a string literal. -/
def Value.escape : Char → Text
  | '\\' => ['\\', '\\']
  | '"' => ['\\', '"']
  | '\n' => ['\\', 'n']
  | c => [c]

/-- A value as a program writes it. A negative number has no literal of its own and is written with its
sign. -/
def Value.literal : Value → Text
  | .string s => '"' :: s.flatMap escape ++ ['"']
  | v => v.display

mutual

def Expr.source : Expr → Text
  | .simple operand => operand.source
  | .unary op operand => op.symbol ++ operand.source
  | .binary left op right => left.source ++ " " ++ op.symbol ++ " " ++ right.source

def Operand.source : Operand → Text
  | .literal v => v.literal
  | .variable name => name
  | .group e => "(" ++ e.source ++ ")"

end

mutual

/-- A statement as source, without a line feed at its end. -/
def Stmt.source (indent : Text) : Stmt → Text
  | .declare name ty none => indent ++ "var " ++ name ++ " : " ++ ty.keyword ++ ";"
  | .declare name ty (some e) => indent ++ "var " ++ name ++ " : " ++ ty.keyword ++ " := " ++ e.source ++ ";"
  | .assign name e => indent ++ name ++ " := " ++ e.source ++ ";"
  | .loop name first last body =>
    indent ++ "for " ++ name ++ " in " ++ first.source ++ ".." ++ last.source ++ " do\n" ++
      Stmt.blockSource (indent ++ "    ") body ++ indent ++ "end for;"
  | .read name => indent ++ "read " ++ name ++ ";"
  | .print e => indent ++ "print " ++ e.source ++ ";"
  | .assert e => indent ++ "assert (" ++ e.source ++ ");"
  | .empty => indent ++ ";"

/-- Statements as source, each with a line feed at its end. -/
def Stmt.blockSource (indent : Text) : List Stmt → Text
  | [] => []
  | s :: rest => s.source indent ++ "\n" ++ Stmt.blockSource indent rest

end

/-- A program as source. -/
def Program.source (p : Program) : Text := Stmt.blockSource [] p

end MiniPL
