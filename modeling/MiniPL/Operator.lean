import MiniPL.Text.Quoted
/-!
# Operators

The eight operators and the symbols that a program writes for them. `Operator.ofSymbol?` undoes
`Operator.symbol` and knows no other symbol (`ofSymbol?_eq_some_iff`).
-/

namespace MiniPL

inductive Operator where
  | add
  | sub
  | mul
  | div
  | and
  | equal
  | less
  | not
  deriving DecidableEq

namespace Operator

/-- The character that stands for the operator. -/
def char : Operator → Char
  | .add => '+'
  | .sub => '-'
  | .mul => '*'
  | .div => '/'
  | .and => '&'
  | .equal => '='
  | .less => '<'
  | .not => '!'

/-- The operator's symbol: its character alone. -/
def symbol (op : Operator) : Text := [op.char]

/-- The operator that a character stands for. -/
def ofChar? : Char → Option Operator
  | '+' => some .add
  | '-' => some .sub
  | '*' => some .mul
  | '/' => some .div
  | '&' => some .and
  | '=' => some .equal
  | '<' => some .less
  | '!' => some .not
  | _ => none

/-- The operator that has this symbol, if there is one. -/
def ofSymbol? : Text → Option Operator
  | [c] => ofChar? c
  | _ => none

/-- A symbol that no operator has. -/
structure Unknown where
  symbol : Text
  deriving DecidableEq

def Unknown.text (e : Unknown) : Text := e.symbol.quoted ++ " is not a valid Operator"

/-- The operator that has this symbol. -/
def named (symbol : Text) : Except Unknown Operator :=
  match ofSymbol? symbol with
  | some op => .ok op
  | none => .error { symbol }

@[simp] theorem ofChar?_char (op : Operator) : ofChar? op.char = some op := by cases op <;> rfl

theorem char_of_ofChar? {c : Char} {op : Operator} (h : ofChar? c = some op) : op.char = c := by
  unfold ofChar? at h
  split at h <;> cases h <;> rfl

theorem ofSymbol?_eq_some_iff {t : Text} {op : Operator} : ofSymbol? t = some op ↔ t = op.symbol := by
  constructor
  · intro h
    match t, h with
    | [c], h => rw [symbol, char_of_ofChar? h]
  · rintro rfl
    exact ofChar?_char op

theorem symbol_inj {op op' : Operator} (h : op.symbol = op'.symbol) : op = op' :=
  Option.some.inj ((ofSymbol?_eq_some_iff.2 rfl).symm.trans (ofSymbol?_eq_some_iff.2 h))

end Operator

end MiniPL
