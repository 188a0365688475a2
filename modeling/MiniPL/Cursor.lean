import MiniPL.Text.Window
import MiniPL.Text.Quoted
import MiniPL.Token
/-!
# A cursor on tokens

Reading tokens one after another, with a slot for one token that was read too early. A token that is put
back into the slot is the next one handed out. A fault leaves the cursor where it was reached, and reading
can go on from there.
-/

namespace MiniPL

/-- A place among tokens: how many were taken from the list, the token that was put back, and the tokens
not taken yet. -/
structure Cursor where
  taken : Nat
  slot : Option Token
  rest : List Token
  deriving DecidableEq

namespace Cursor

/-- The cursor before the first token. -/
def start (ts : List Token) : Cursor := { taken := 0, slot := none, rest := ts }

/-- Whether no token is left, in the slot or behind it. -/
def atEnd (c : Cursor) : Bool := c.slot.isNone && c.rest.isEmpty

/-- How many tokens can still be handed out. -/
def unread (c : Cursor) : Nat := c.slot.toList.length + c.rest.length

/-- Why tokens are no program. -/
inductive Cause where
  | unexpectedEnd (expected : Text)
  | unexpected (expected : Text) (found : Token)
  /-- An expression would have two operators. -/
  | chainedOperator
  /-- A second token was put back. -/
  | slotTaken
  deriving DecidableEq

def Cause.text : Cause → Text
  | .unexpectedEnd expected => "Unexpected end of input, expected " ++ expected
  | .unexpected expected found =>
    "Expected " ++ expected ++ ", found " ++ found.category.label ++ " " ++ found.lexeme.quoted
  | .chainedOperator => "Only one operator is allowed per expression, use parentheses"
  | .slotTaken => "Internal error, lookahead slot is already taken"

/-- A cause and the index of the token it is about, which is the number of tokens if they end too
early. -/
structure Fault where
  cause : Cause
  index : Nat
  deriving DecidableEq

/-- Where the token with this index begins in the source of the tokens, or where the source ends. -/
def column (ts : List Token) (index : Nat) : Nat :=
  match ts[index]? with
  | some t => (Token.source (ts.take (index + 1))).length - t.lexeme.length
  | none => (Token.source ts).length

/-- The fault as it is reported: its cause, and where it is in the source of the tokens. -/
def Fault.render (ts : List Token) (f : Fault) : Text :=
  Text.join "\n" (("[Syntax error] " ++ f.cause.text) :: ((Token.source ts).windowAt (column ts f.index) 30).lines)

end Cursor

end MiniPL
