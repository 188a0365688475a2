import MiniPL.Value
/-!
# Events

What a run records of itself, for whoever asks for a detailed account.
-/

namespace MiniPL

/-- Something that happened. -/
inductive Event where
  | fileRead (characters : Nat) (name : Text)
  | scanned (characters tokens : Nat)
  | parsed (statements : Nat)
  | redeclared (name : Text) (ty : Ty)
  | looped (name : Text) (first last : Int)
  deriving DecidableEq

/-- The stage that an event belongs to. -/
def Event.stage : Event → Text
  | .fileRead .. => "cli"
  | .scanned .. => "tokenizer"
  | .parsed _ => "parser"
  | .redeclared .. => "runtime"
  | .looped .. => "runtime"

def Event.text : Event → Text
  | .fileRead characters name => "Read " ++ Text.ofNat characters ++ " characters from " ++ name
  | .scanned characters tokens =>
    "Tokenized " ++ Text.ofNat characters ++ " characters into " ++ Text.ofNat tokens ++ " tokens"
  | .parsed statements => "Parsed " ++ Text.ofNat statements ++ " statements"
  | .redeclared name ty => "Redeclaring " ++ name ++ " as " ++ ty.keyword
  | .looped name first last =>
    "Loop over " ++ name ++ " in " ++ Text.ofInt first ++ ".." ++ Text.ofInt last

/-- The event as a line of the account. -/
def Event.line (e : Event) : Text := "DEBUG minipl." ++ e.stage ++ ": " ++ e.text

end MiniPL
