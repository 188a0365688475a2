import MiniPL.Cursor
import MiniPL.Program
/-!
# Tokens to a program

A descent along the grammar with one token of lookahead. An expression ends at the first token that cannot
belong to it; that token has been read by then and is put back for whoever comes next.

Nesting is bounded by the number of unread tokens: an inner expression or block begins only after a token
has been read for it. The functions whose name ends in `Within` take the bound as an argument, and the
ones that are meant to be used compute it.
-/

namespace MiniPL

namespace Reader

/-- Why tokens cannot be read as a program: they do not follow the grammar, or one of them is an operator
that the language does not have. -/
inductive Fault where
  | refused (f : Cursor.Fault)
  | unknownOperator (e : Operator.Unknown)
  deriving DecidableEq

end Reader

/-- Reading something from a cursor. -/
abbrev Reader := EStateM Reader.Fault Cursor

namespace Reader

/-! ## Tokens -/

/-- Refuses the token that was taken last. -/
def refuse {α : Type} (cause : Cursor.Cause) : Reader α := fun c =>
  .error (.refused { cause, index := c.taken - 1 }) c

/-- Refuses the end of the tokens. -/
def refuseEnd {α : Type} (expected : Text) : Reader α := fun c =>
  .error (.refused { cause := .unexpectedEnd expected, index := c.taken + c.rest.length }) c

/-- The next token. -/
def next (expected : Text) : Reader Token := fun c =>
  match c.slot, c.rest with
  | some t, _ => .ok t { c with slot := none }
  | none, t :: rest => .ok t { taken := c.taken + 1, slot := none, rest }
  | none, [] => refuseEnd expected c

/-- Refuses a slot that is taken. -/
def needSlot : Reader Unit := fun c =>
  match c.slot with
  | some _ => refuse .slotTaken c
  | none => .ok () c

/-- Puts a token back; there is room for one. -/
def putBack (t : Token) : Reader Unit := do
  needSlot
  modify fun c => { c with slot := some t }

/-- Whether no token is left. -/
def atEnd : Reader Bool := fun c => .ok c.atEnd c

/-- What `read?` makes of the next token; it is refused if that is nothing. -/
def take {α : Type} (read? : Token → Option α) (expected : Text) : Reader α := do
  let t ← next expected
  match read? t with
  | some a => return a
  | none => refuse (.unexpected expected t)

/-- The next token, which must be of the category. -/
def expect (category : Token.Category) (expected : Text) : Reader Token :=
  take (fun t => if t.category = category then some t else none) expected

/-- The next token must be the keyword. -/
def expectKeyword (k : Keyword) : Reader Unit :=
  take (fun t => if t.kind = .keyword k then some () else none) ("'" ++ k.word ++ "'")

/-- The next token must be a name. -/
def expectName : Reader Text := take Token.name? "identifier"

/-- The next token must end the statement. -/
def expectEnd : Reader Unit := do
  let _ ← expect .statementEnd "';'"

/-- The operator of a token with this symbol. -/
def operator (symbol : Text) : Reader Operator := fun c =>
  match Operator.named symbol with
  | .ok op => .ok op c
  | .error e => .error (.unknownOperator e) c

/-! ## Expressions -/

/-- The operand that begins with the token, `inner` reading what is in parentheses. -/
def operandWith (inner : Reader Expr) (t : Token) : Reader Operand :=
  match t.kind with
  | .integer n => return .literal (.int n)
  | .string s => return .literal (.string s)
  | .boolean b => return .literal (.bool b)
  | .identifier name => return .variable name
  | .bracketOpen => do
    let e ← inner
    let _ ← expect .bracketClose "')'"
    return .group e
  | _ => refuse (.unexpected "operand" t)

/-- Refuses a second operator, and puts back any other token. -/
def refuseChain : Reader Unit := do
  if ← atEnd then return
  let t ← next "operator"
  if t.category = .operator then refuse .chainedOperator
  putBack t

/-- What may follow a left operand: an operator with its right operand, or nothing. -/
def expressionFrom (inner : Reader Expr) (left : Operand) : Reader Expr := do
  if ← atEnd then return .simple left
  let t ← next "operator"
  match t.symbol? with
  | none =>
    putBack t
    return .simple left
  | some symbol =>
    let right ← operandWith inner (← next "operand")
    refuseChain
    return .binary left (← operator symbol) right

/-- An expression, `inner` reading what is in parentheses. -/
def expressionWith (inner : Reader Expr) : Reader Expr := do
  let t ← next "expression"
  match t.symbol? with
  | some symbol =>
    let operand ← operandWith inner (← next "operand")
    return .unary (← operator symbol) operand
  | none => expressionFrom inner (← operandWith inner t)

/-- An expression in which parentheses are nested less than `bound` deep. -/
def expressionWithin : Nat → Reader Expr
  | 0 => refuseEnd "expression"
  | bound + 1 => expressionWith (expressionWithin bound)

/-- What is in parentheses: an expression, whose depth is bounded by the tokens there are. -/
def inner : Reader Expr := fun c => expressionWithin (c.unread + 1) c

/-- An expression. The tokens are counted only where a parenthesis opens. -/
def expression : Reader Expr := expressionWith inner

/-- The operand that begins with the token. -/
def operand (t : Token) : Reader Operand := operandWith inner t

/-! ## Statements -/

/-- A declaration, after `var`. -/
def declaration : Reader Stmt := do
  let name ← expectName
  let _ ← expect .typeMark "':'"
  let ty ← take Token.type? "type"
  let t ← next "';' or ':='"
  match t.kind with
  | .statementEnd => return .declare name ty none
  | .assignment =>
    let e ← expression
    expectEnd
    return .declare name ty (some e)
  | _ => refuse (.unexpected "';' or ':='" t)

/-- An assignment, after the name. -/
def assignment (name : Text) : Reader Stmt := do
  let _ ← expect .assignment "':='"
  let e ← expression
  expectEnd
  return .assign name e

/-- A loop, after the first `for`; `body` reads its statements and the `end` after them. -/
def loopWith (body : Reader (List Stmt)) : Reader Stmt := do
  let name ← expectName
  expectKeyword .inWord
  let first ← expression
  let _ ← expect .range "'..'"
  let last ← expression
  expectKeyword .doWord
  let statements ← body
  expectKeyword .forWord
  expectEnd
  return .loop name first last statements

/-- A `read`, after its keyword. -/
def input : Reader Stmt := do
  let name ← expectName
  expectEnd
  return .read name

/-- A `print`, after its keyword. -/
def output : Reader Stmt := do
  let e ← expression
  expectEnd
  return .print e

/-- An `assert`, after its keyword. -/
def assertion : Reader Stmt := do
  let _ ← expect .bracketOpen "'('"
  let e ← expression
  let _ ← expect .bracketClose "')'"
  expectEnd
  return .assert e

/-- The statement that begins with the token, `body` reading the statements of a loop. -/
def statementWith (body : Reader (List Stmt)) (t : Token) : Reader Stmt :=
  match t.kind with
  | .identifier name => assignment name
  | .statementEnd => return .empty
  | .keyword .var => declaration
  | .keyword .forWord => loopWith body
  | .keyword .read => input
  | .keyword .print => output
  | .keyword .assert => assertion
  | _ => refuse (.unexpected "statement" t)

/-- The statements up to `end`, fewer than `bound` of them and nested less deep. -/
def blockWithin : Nat → Reader (List Stmt)
  | 0 => refuseEnd "'end'"
  | bound + 1 => do
    let t ← next "'end'"
    if t.kind = .keyword .endWord then return []
    let s ← statementWith (blockWithin bound) t
    return s :: (← blockWithin bound)

/-- The statements up to `end`. -/
def block : Reader (List Stmt) := fun c => blockWithin (c.unread + 1) c

/-- The statement that begins with the token. -/
def statement (t : Token) : Reader Stmt := statementWith block t

/-- The statements up to the last token, fewer than `bound` of them. -/
def programWithin : Nat → Reader Program
  | 0 => refuseEnd "statement"
  | bound + 1 => do
    if ← atEnd then return []
    let s ← statement (← next "statement")
    return s :: (← programWithin bound)

/-- The statements up to the last token. -/
def program : Reader Program := fun c => programWithin (c.unread + 1) c

/-- What a reader makes of some tokens from the first one on. -/
def runOn {α : Type} (r : Reader α) (ts : List Token) : Except Fault α :=
  match r.run (Cursor.start ts) with
  | .ok a _ => .ok a
  | .error f _ => .error f

end Reader

/-- The program that the tokens spell. -/
def Program.ofTokens (ts : List Token) : Except Reader.Fault Program := Reader.program.runOn ts

end MiniPL
