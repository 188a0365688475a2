/-!
# Text

A text is a list of code points: every index and every length in this library counts code points, and
two texts compare by code point.
-/

namespace MiniPL

/-- A text, as the list of its code points. -/
abbrev Text := List Char

/-- A literal stands for its code points. -/
instance : Coe String Text := ⟨String.toList⟩

namespace Text

/-- The decimal form of an integer, with a minus sign before a negative one. -/
def ofInt : Int → Text
  | .ofNat n => Nat.toDigits 10 n
  | .negSucc n => '-' :: Nat.toDigits 10 (n + 1)

/-- The decimal form of a natural number. -/
def ofNat (n : Nat) : Text := Nat.toDigits 10 n

/-- The lower-case hexadecimal form of a number, filled up with zeros to at least `width` digits. -/
def hex (width n : Nat) : Text :=
  let digits := Nat.toDigits 16 n
  List.replicate (width - digits.length) '0' ++ digits

/-- The pieces with `sep` between any two neighbours. -/
def join (sep : Text) (pieces : List Text) : Text := sep.intercalate pieces

/-- Whether a character is one of `0` to `9`. No other digit of Unicode counts. -/
def isDigit (c : Char) : Bool := '0' ≤ c && c ≤ '9'

/-- The number that a run of digits writes in decimal. -/
def toNat (digits : Text) : Nat :=
  digits.foldl (fun n c => 10 * n + (c.toNat - '0'.toNat)) 0

@[simp] theorem toNat_concat (digits : Text) (c : Char) :
    toNat (digits ++ [c]) = 10 * toNat digits + (c.toNat - '0'.toNat) :=
  List.foldl_append

end Text

end MiniPL
