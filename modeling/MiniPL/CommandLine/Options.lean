import MiniPL.Text.DecimalDigit
import MiniPL.Text.Quoted
/-!
# Arguments

What the arguments of a command line ask for. Flags and the file may come in any order. A long flag may be
shortened as long as no other flag begins the same way, short flags may be run together, and after `--`
everything is a file. An argument that looks like a negative number, or that has a space in it and begins
like no flag, is a file as well.

All arguments up to `--` are looked at first; then they are taken from left to right, and `-h` is answered
where it stands. What is missing or too much is noticed at the end.
-/

namespace MiniPL.CommandLine

/-- A flag. -/
inductive Flag where
  | help
  | tokens
  | ast
  | noColor
  | verbose
  deriving DecidableEq

namespace Flag

/-- The flags in the order in which they are listed. -/
def all : List Flag := [.help, .tokens, .ast, .noColor, .verbose]

/-- The flag's name after two dashes. -/
def long : Flag → Text
  | .help => "help"
  | .tokens => "tokens"
  | .ast => "ast"
  | .noColor => "no-color"
  | .verbose => "verbose"

/-- The flag's letter after one dash. -/
def short? : Flag → Option Char
  | .help => some 'h'
  | .verbose => some 'v'
  | _ => none

/-- The flag with this letter. -/
def ofShort? (c : Char) : Option Flag := all.find? fun f => f.short? = some c

/-- The flags whose names begin so. -/
def beginning (name : Text) : List Flag := all.filter fun f => name.isPrefixOf f.long

/-- The flag with both its names, as messages give it. -/
def label (f : Flag) : Text :=
  match f.short? with
  | some c => ['-', c] ++ "/--" ++ f.long
  | none => "--" ++ f.long

end Flag

/-! ## What an argument is -/

/-- What an argument is. -/
inductive Word where
  /-- A file. -/
  | plain (t : Text)
  /-- Two dashes, after which everything is plain. -/
  | divider
  /-- A flag by its long name; flags take no value, but one may be there. -/
  | long (f : Flag) (value : Option Text)
  /-- A flag by its letter, with what follows it in the same argument. -/
  | short (f : Flag) (tail : Option Text)
  /-- It begins like a flag and is none. -/
  | unknown (t : Text)
  deriving DecidableEq

/-- Whether a text is a minus sign and a decimal number. A line feed may follow it. -/
def looksNegative : Text → Bool
  | '-' :: t =>
    let t := if t.getLast? = some '\n' then t.dropLast else t
    let whole := t.takeWhile Text.isDecimalDigit
    match t.dropWhile Text.isDecimalDigit with
    | [] => !whole.isEmpty
    | '.' :: part => !part.isEmpty && part.all Text.isDecimalDigit
    | _ => false
  | _ => false

/-- An argument that names no flag. -/
def Word.ofOther (t : Text) : Word :=
  if looksNegative t ∨ ' ' ∈ t then .plain t else .unknown t

/-- The part of a text before the first `=`, and the part after it if there is one. -/
def splitValue (t : Text) : Text × Option Text :=
  match t.dropWhile (· != '=') with
  | [] => (t, none)
  | _ :: value => (t.takeWhile (· != '='), some value)

/-- A long flag that may be shortened. Where it could be several flags, these are the error. -/
def Word.ofLong (t : Text) : Except (List Flag) Word :=
  let (name, value) := splitValue t
  match Flag.all.find? (fun f => f.long = t), Flag.all.find? (fun f => f.long = name) with
  | some f, _ => .ok (.long f none)
  | none, some f => .ok (.long f value)
  | none, none => match Flag.beginning name with
    | [] => .ok (.ofOther ("--" ++ t))
    | [f] => .ok (.long f value)
    | fs => .error fs

/-- A short flag with what follows it. One `=` may stand in between. -/
def Word.ofShort (c : Char) (rest : Text) : Word :=
  match Flag.ofShort? c, rest with
  | none, _ => .ofOther ('-' :: c :: rest)
  | some f, [] => .short f none
  | some f, '=' :: rest => .short f (some rest)
  | some f, rest => .short f (some rest)

/-- What an argument before `--` is. -/
def Word.ofArgument : Text → Except (List Flag) Word
  | ['-'] => .ok (.plain ['-'])
  | '-' :: '-' :: t => Word.ofLong t
  | '-' :: c :: rest => .ok (Word.ofShort c rest)
  | t => .ok (.plain t)

/-- The complaint about an argument that could be several flags. -/
def ambiguous (argument : Text) (fs : List Flag) : Text :=
  "ambiguous option: " ++ argument ++ " could match " ++
    Text.join ", " (fs.map fun f => ("--" : Text) ++ f.long)

/-- What the arguments are. -/
def words : List Text → Except Text (List Word)
  | [] => .ok []
  | t :: rest =>
    if t = ['-', '-'] then .ok (.divider :: rest.map .plain)
    else match Word.ofArgument t with
      | .error fs => .error (ambiguous t fs)
      | .ok w => (w :: ·) <$> words rest

/-! ## What the arguments ask for -/

/-- What to do with a file. -/
structure Options where
  file : Text
  tokens : Bool
  ast : Bool
  color : Bool
  verbose : Bool
  deriving DecidableEq

/-- What a command line asks for. -/
inductive Request where
  | run (o : Options)
  | help
  | misuse (complaint : Text)
  deriving DecidableEq

/-- The complaint about a value that a flag cannot take. -/
def ignored (f : Flag) (value : Text) : Text :=
  "argument " ++ f.label ++ ": ignored explicit argument " ++ value.quoted

/-- Short flags that are run together, the first one apart. A letter that is no flag is taken for the value
of the flag before it. -/
def cluster (f : Flag) : Text → Except Text (List Flag)
  | [] => .ok [f]
  | c :: rest => match Flag.ofShort? c with
    | none => .error (ignored f (c :: rest))
    | some g => (f :: ·) <$> cluster g rest

/-- The flags of a short argument. If anything follows the first one, it is at least one letter. -/
def shortFlags (f : Flag) : Option Text → Except Text (List Flag)
  | none => .ok [f]
  | some [] => .error (ignored f [])
  | some letters => cluster f letters

/-- What was found so far: the file, the flags, and what has no place. -/
structure Found where
  file : Option Text
  flags : List Flag
  extras : List Text
  deriving DecidableEq

namespace Found

def addFlags (found : Found) (fs : List Flag) : Found := { found with flags := found.flags ++ fs }

def addExtras (found : Found) (ts : List Text) : Found := { found with extras := found.extras ++ ts }

/-- The request when no argument is left. -/
def request (found : Found) : Request :=
  match found.file, found.extras with
  | none, _ => .misuse "the following arguments are required: file"
  | some _, first :: rest => .misuse ("unrecognized arguments: " ++ Text.join " " (first :: rest))
  | some file, [] =>
    .run
      { file, tokens := .tokens ∈ found.flags, ast := .ast ∈ found.flags, color := .noColor ∉ found.flags
        verbose := .verbose ∈ found.flags }

end Found

/-- Takes the arguments from left to right. The file takes a `--` beside it along. -/
def requestFrom (found : Found) : List Word → Request
  | [] => found.request
  | .plain t :: .divider :: rest => match found.file with
    | none => requestFrom { found with file := some t } rest
    | some _ => requestFrom (found.addExtras [t]) (.divider :: rest)
  | .plain t :: rest => match found.file with
    | none => requestFrom { found with file := some t } rest
    | some _ => requestFrom (found.addExtras [t]) rest
  | .divider :: .plain t :: rest => match found.file with
    | none => requestFrom { found with file := some t } rest
    | some _ => requestFrom (found.addExtras [['-', '-']]) (.plain t :: rest)
  | .divider :: rest => requestFrom (found.addExtras [['-', '-']]) rest
  | .long f (some value) :: _ => .misuse (ignored f value)
  | .long .help none :: _ => .help
  | .long f none :: rest => requestFrom (found.addFlags [f]) rest
  | .short f tail :: rest => match shortFlags f tail with
    | .error complaint => .misuse complaint
    | .ok fs => if .help ∈ fs then .help else requestFrom (found.addFlags fs) rest
  | .unknown t :: rest => requestFrom (found.addExtras [t]) rest

/-- What the arguments ask for. -/
def request (arguments : List Text) : Request :=
  match words arguments with
  | .error complaint => .misuse complaint
  | .ok ws => requestFrom { file := none, flags := [], extras := [] } ws

/-! ## Usage -/

/-- The line that shows how the command is used. -/
def usage : Text := "usage: plint [-h] [--tokens] [--ast] [--no-color] [-v] file\n"

/-- The answer to `-h`. -/
def manual : Text :=
  usage ++
    "\nRun a Mini-PL program\n\npositional arguments:\n  file           program source file\n\noptions:\n  -h, --help     show this help message and exit\n  --tokens       print the token stream before running\n  --ast          print the parsed program before running\n  --no-color     do not color error messages\n  -v, --verbose  enable debug logging\n"

/-- The answer to a command line that cannot be used. -/
def complaint (text : Text) : Text := usage ++ "plint: error: " ++ text ++ "\n"

end MiniPL.CommandLine
