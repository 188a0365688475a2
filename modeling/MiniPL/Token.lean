import MiniPL.Value
/-!
# Tokens

A token is what the scanner makes of one lexeme: its kind, with the value the lexeme stands for, and the
lexeme itself. The grammar looks at kinds alone; messages and `Token.source` show lexemes.

`Token.source` writes tokens as one line of source. It puts a space between any two tokens, except before
`;` and `)` and after `(`.
-/

namespace MiniPL

/-- A reserved word. -/
inductive Keyword where
  | var
  | forWord
  | inWord
  | doWord
  | endWord
  | read
  | print
  | assert
  | type (ty : Ty)
  deriving DecidableEq

namespace Keyword

/-- The word as a program writes it. -/
def word : Keyword → Text
  | .var => "var"
  | .forWord => "for"
  | .inWord => "in"
  | .doWord => "do"
  | .endWord => "end"
  | .read => "read"
  | .print => "print"
  | .assert => "assert"
  | .type ty => ty.keyword

/-- Every reserved word. -/
def all : List Keyword :=
  [.var, .forWord, .endWord, .inWord, .doWord, .read, .print, .assert, .type .int, .type .string, .type .bool]

theorem mem_all (k : Keyword) : k ∈ all := by
  cases k with
  | type ty => cases ty <;> decide
  | _ => decide

/-- The reserved word that is written so, if there is one. -/
def ofWord? (t : Text) : Option Keyword := all.find? fun k => k.word = t

end Keyword

namespace Token

/-- What sort of token it is, its value apart. -/
inductive Category where
  | keyword
  | identifier
  | integer
  | string
  | boolean
  | operator
  | bracketOpen
  | bracketClose
  | assignment
  | typeMark
  | range
  | dot
  | statementEnd
  deriving DecidableEq

/-- The name of the category in messages and listings. -/
def Category.label : Category → Text
  | .keyword => "KEYWORD"
  | .identifier => "IDENTIFIER"
  | .integer => "INTEGER"
  | .string => "STRING"
  | .boolean => "BOOLEAN"
  | .operator => "OPERATOR"
  | .bracketOpen => "BRACKET_OPEN"
  | .bracketClose => "BRACKET_CLOSE"
  | .assignment => "ASSIGNMENT"
  | .typeMark => "TYPE_DECL"
  | .range => "RANGE"
  | .dot => "DOT"
  | .statementEnd => "STATEMENT_END"

/-- A category with the value that a token of it has. An operator token has a symbol, which need not be
one of the language. -/
inductive Kind where
  | keyword (k : Keyword)
  | identifier (name : Text)
  | integer (n : Int)
  | string (s : Text)
  | boolean (b : Bool)
  | operator (symbol : Text)
  | bracketOpen
  | bracketClose
  | assignment
  | typeMark
  | range
  | dot
  | statementEnd
  deriving DecidableEq

def Kind.category : Kind → Category
  | .keyword _ => .keyword
  | .identifier _ => .identifier
  | .integer _ => .integer
  | .string _ => .string
  | .boolean _ => .boolean
  | .operator _ => .operator
  | .bracketOpen => .bracketOpen
  | .bracketClose => .bracketClose
  | .assignment => .assignment
  | .typeMark => .typeMark
  | .range => .range
  | .dot => .dot
  | .statementEnd => .statementEnd

end Token

/-- A token. -/
structure Token where
  kind : Token.Kind
  lexeme : Text
  deriving DecidableEq

namespace Token

def category (t : Token) : Category := t.kind.category

/-- The name that an identifier stands for. -/
def name? (t : Token) : Option Text :=
  match t.kind with
  | .identifier name => some name
  | _ => none

/-- The type that a keyword stands for. -/
def type? (t : Token) : Option Ty :=
  match t.kind with
  | .keyword (.type ty) => some ty
  | _ => none

/-- The symbol of an operator. -/
def symbol? (t : Token) : Option Text :=
  match t.kind with
  | .operator symbol => some symbol
  | _ => none

/-! ## Tokens as text -/

/-- A token as a listing shows it. -/
def listed (t : Token) : Text := "<" ++ t.category.label ++ ">" ++ t.lexeme

/-- The listing of some tokens, on one line. -/
def listing (ts : List Token) : Text := Text.join " " (ts.map listed)

/-- What stands between two neighbours in a line of source. -/
def gap (before after : Token) : Text :=
  if after.kind = .statementEnd ∨ after.kind = .bracketClose ∨ before.kind = .bracketOpen then []
  else " "

/-- The source of some tokens that follow the token `before`. -/
def sourceAfter (before : Token) : List Token → Text
  | [] => []
  | t :: ts => gap before t ++ t.lexeme ++ sourceAfter t ts

/-- The tokens as one line of source. -/
def source : List Token → Text
  | [] => []
  | t :: ts => t.lexeme ++ sourceAfter t ts

end Token

end MiniPL
