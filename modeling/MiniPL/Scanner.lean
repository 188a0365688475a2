import MiniPL.Text.Blank
import MiniPL.Text.Quoted
import MiniPL.Text.Window
import MiniPL.Token
/-!
# The scanner

A machine that is fed one character after another and emits tokens. It never looks ahead: a word, a
number and a lone `:`, `.` or `/` are emitted when the character after them arrives, and that character is
then taken up as the beginning of something new. So one step can emit two tokens, and it can emit one and
fail. The machine has a next state also after a step that failed.

`Token.scan` feeds a whole text and stops at the first fault. Where the text ends, no lexeme may be
unfinished; only a line comment may.
-/

namespace MiniPL

namespace Text

/-- Whether a character can stand in a word: an ASCII letter, a digit or an underscore. -/
def isWordChar (c : Char) : Bool :=
  isDigit c || ('a' ≤ c && c ≤ 'z') || ('A' ≤ c && c ≤ 'Z') || c == '_'

end Text

namespace Scanner

/-! ## Faults -/

/-- A character that is a token of its own, unless the next one belongs to it. -/
inductive Lead where
  | colon
  | dot
  | slash
  deriving DecidableEq

def Lead.char : Lead → Char
  | .colon => ':'
  | .dot => '.'
  | .slash => '/'

/-- The kind of the lead as a token of its own. -/
def Lead.kind : Lead → Token.Kind
  | .colon => .typeMark
  | .dot => .dot
  | .slash => .operator ['/']

/-- A lexeme or comment that the end of the text cuts off. -/
inductive Unfinished where
  | string
  | integer
  | word
  | comment
  deriving DecidableEq

def Unfinished.text : Unfinished → Text
  | .string => "string literal"
  | .integer => "integer literal"
  | .word => "identifier"
  | .comment => "comment"

/-- Why a text is no sequence of tokens. -/
inductive Cause where
  | illegal (c : Char)
  | outOfRange (digits : Text)
  | endAfter (lead : Lead)
  | unterminated (what : Unfinished)
  deriving DecidableEq

def Cause.text : Cause → Text
  | .illegal c => "Illegal character: " ++ Text.quoted [c]
  | .outOfRange digits => "Integer literal " ++ digits ++ " does not fit in 32 bits"
  | .endAfter lead => "Unexpected end of input after " ++ Text.quoted [lead.char]
  | .unterminated what => "Unterminated " ++ what.text

/-- A cause and the index of the character it is about. -/
structure Fault where
  cause : Cause
  index : Nat
  deriving DecidableEq

/-- The fault as it is reported: its cause, and where it is in the text `code`. -/
def Fault.render (code : Text) (f : Fault) : Text :=
  Text.join "\n" (("[Lexical error] " ++ f.cause.text) :: (code.windowAt f.index 10).lines)

/-! ## States -/

/-- What the scanner is in the middle of. The texts collected so far stand backwards, so that a character
is added in front. -/
inductive Mode where
  /-- Between two tokens. -/
  | idle
  | lineComment
  | blockComment
  /-- In a block comment, after a star. -/
  | blockCommentStar
  /-- After a character that may begin a longer token or a comment. -/
  | lead (l : Lead)
  /-- In a string: what is written after the quote, and the text it stands for. -/
  | string (body value : Text)
  /-- In a string, after a backslash that is in neither text yet. -/
  | escape (body value : Text)
  | integer (digits : Text)
  | word (letters : Text)
  deriving DecidableEq

/-- The name of the mode in a record of a scan. -/
def Mode.label : Mode → Text
  | .idle => "IDLE"
  | .lineComment => "LINE_COMMENT"
  | .blockComment => "BLOCK_COMMENT"
  | .blockCommentStar => "BLOCK_COMMENT_STAR"
  | .lead _ => "AMBIGUOUS"
  | .string .. => "STRING"
  | .escape .. => "STRING_ESCAPE"
  | .integer _ => "INTEGER"
  | .word _ => "WORD"

/-- The text collected for the token in the making. -/
def Mode.buffer : Mode → Text
  | .lead l => [l.char]
  | .string _ value => value.reverse
  | .escape _ value => value.reverse
  | .integer digits => digits.reverse
  | .word letters => letters.reverse
  | _ => []

end Scanner

/-- A scanner: its mode, the index of the last character it took up as a beginning, and how many
characters it has read. -/
structure Scanner where
  mode : Scanner.Mode
  start : Nat
  position : Nat
  deriving DecidableEq

namespace Scanner

/-- The scanner before any character. -/
def fresh : Scanner := { mode := .idle, start := 0, position := 0 }

/-- What one character does: the scanner after it, the tokens it completes, and the fault it is. -/
structure Step where
  next : Scanner
  emitted : List Token
  fault : Option Fault
  deriving DecidableEq

/-! ## Steps -/

/-- The scanner goes on in another mode. -/
def enter (s : Scanner) (mode : Mode) : Step :=
  { next := { s with mode, position := s.position + 1 }, emitted := [], fault := none }

/-- The character completes a token. -/
def complete (s : Scanner) (kind : Token.Kind) (lexeme : Text) : Step :=
  { next := { s with mode := .idle, position := s.position + 1 }, emitted := [{ kind, lexeme }], fault := none }

/-- The character stops the scanner, whose mode stays. -/
def fail (s : Scanner) (cause : Cause) : Step :=
  { next := { s with position := s.position + 1 }, emitted := [], fault := some { cause, index := s.start } }

/-- The lead that a character is. -/
def Lead.ofChar? : Char → Option Lead
  | ':' => some .colon
  | '.' => some .dot
  | '/' => some .slash
  | _ => none

/-- The kind of a token that is this one character, whatever comes next. -/
def single? : Char → Option Token.Kind
  | '(' => some .bracketOpen
  | ')' => some .bracketClose
  | ';' => some .statementEnd
  | '+' => some (.operator ['+'])
  | '-' => some (.operator ['-'])
  | '*' => some (.operator ['*'])
  | '&' => some (.operator ['&'])
  | '!' => some (.operator ['!'])
  | '=' => some (.operator ['='])
  | '<' => some (.operator ['<'])
  | _ => none

/-- The character is taken up as the beginning of something new. -/
def begin (s : Scanner) (c : Char) : Step :=
  let s : Scanner := { mode := .idle, start := s.position, position := s.position }
  if Text.isBlank c then s.enter .idle
  else if c = '"' then s.enter (.string [] [])
  else if Text.isDigit c then s.enter (.integer [c])
  else if Text.isWordChar c then s.enter (.word [c])
  else match Lead.ofChar? c, single? c with
    | some l, _ => s.enter (.lead l)
    | none, some kind => s.complete kind [c]
    | none, none => s.fail (.illegal c)

/-- A token ends before the character, which begins something new. -/
def completeBefore (s : Scanner) (c : Char) (kind : Token.Kind) (lexeme : Text) : Step :=
  let step := s.begin c
  { step with emitted := { kind, lexeme } :: step.emitted }

/-- A number ends before the character, if it has a place in 32 bits. -/
def completeInteger (s : Scanner) (c : Char) (digits : Text) : Step :=
  if (Text.toNat digits : Int) ≤ Value.maxInt then
    s.completeBefore c (.integer (Text.toNat digits)) digits
  else s.fail (.outOfRange digits)

/-- What a word stands for: a reserved word, a truth value, or a name. -/
def wordKind (letters : Text) : Token.Kind :=
  match Keyword.ofWord? letters with
  | some k => .keyword k
  | none =>
    if letters = Value.boolWord true then .boolean true
    else if letters = Value.boolWord false then .boolean false
    else .identifier letters

/-- What a character after a backslash stands for. A pair that means nothing stands as written. -/
def unescape : Char → Text
  | '"' => ['"']
  | '\\' => ['\\']
  | 'n' => ['\n']
  | c => ['\\', c]

/-- What a character does after a lead. -/
def resolve (s : Scanner) (l : Lead) (c : Char) : Step :=
  match l, c with
  | .colon, '=' => s.complete .assignment ":="
  | .dot, '.' => s.complete .range ".."
  | .slash, '/' => s.enter .lineComment
  | .slash, '*' => s.enter .blockComment
  | l, c => s.completeBefore c l.kind [l.char]

/-- What a character does. -/
def step (s : Scanner) (c : Char) : Step :=
  match s.mode with
  | .idle => s.begin c
  | .lineComment => s.enter (if c = '\n' then .idle else .lineComment)
  | .blockComment => s.enter (if c = '*' then .blockCommentStar else .blockComment)
  | .blockCommentStar =>
    s.enter (if c = '/' then .idle else if c = '*' then .blockCommentStar else .blockComment)
  | .lead l => s.resolve l c
  | .string body value =>
    if c = '"' then s.complete (.string value.reverse) ('"' :: (c :: body).reverse)
    else if c = '\\' then s.enter (.escape body value)
    else s.enter (.string (c :: body) (c :: value))
  | .escape body value => s.enter (.string (c :: '\\' :: body) ((unescape c).reverse ++ value))
  | .integer digits =>
    if Text.isDigit c then s.enter (.integer (c :: digits))
    else s.completeInteger c digits.reverse
  | .word letters =>
    if Text.isWordChar c then s.enter (.word (c :: letters))
    else s.completeBefore c (wordKind letters.reverse) letters.reverse

/-- What it is that the end of the text would cut off. -/
def pending : Mode → Option Cause
  | .idle => none
  | .lineComment => none
  | .blockComment => some (.unterminated .comment)
  | .blockCommentStar => some (.unterminated .comment)
  | .lead l => some (.endAfter l)
  | .string .. => some (.unterminated .string)
  | .escape .. => some (.unterminated .string)
  | .integer _ => some (.unterminated .integer)
  | .word _ => some (.unterminated .word)

/-- The end of the text: a fault if something is unfinished. -/
def finish (s : Scanner) : Except Fault Unit :=
  match pending s.mode with
  | none => .ok ()
  | some cause => .error { cause, index := s.start }

/-! ## Texts -/

/-- The steps of a scanner over a text, which no fault stops. -/
def feed (s : Scanner) : Text → List Step
  | [] => []
  | c :: rest => s.step c :: feed (s.step c).next rest

/-- The tokens of a text, up to its end or the first fault. -/
def scan (s : Scanner) : Text → Except Fault (List Token)
  | [] => do
    s.finish
    return []
  | c :: rest =>
    let step := s.step c
    match step.fault with
    | some f => .error f
    | none => (step.emitted ++ ·) <$> scan step.next rest

end Scanner

/-- The tokens of a text. -/
def Token.scan (code : Text) : Except Scanner.Fault (List Token) := Scanner.fresh.scan code

end MiniPL
