/-!
Decimal numerals as lists of characters: writing a number, reading one back, padding.

`digits` writes the shortest numeral of a number and `value?` reads any non-empty run of digits, so
reading undoes writing, and writing undoes reading up to leading zeros.
-/

namespace OrderlyExit.Decimal

/-- The digit of weight one of `n`. -/
def lastDigit (n : Nat) : Char := Char.ofNat (48 + n % 10)

/-- The value of one digit. -/
def digitValue (c : Char) : Nat := c.toNat - 48

/-- The shortest numeral of `n`. -/
def digits (n : Nat) : List Char :=
  if n < 10 then [lastDigit n] else digits (n / 10) ++ [lastDigit n]
termination_by n
decreasing_by omega

/-- The number that a run of digits denotes; leading zeros change nothing. -/
def value (cs : List Char) : Nat := cs.foldl (fun n c => n * 10 + digitValue c) 0

/-- Reads a non-empty run of digits and nothing else. -/
def value? (cs : List Char) : Option Nat :=
  if cs ≠ [] ∧ cs.all Char.isDigit then some (value cs) else none

/-- The numeral of `n` with zeros in front, up to `width` characters. -/
def zeroPadded (width n : Nat) : List Char :=
  List.replicate (width - (digits n).length) '0' ++ digits n

/-- The numeral of `n` with blanks in front, up to `width` characters. -/
def blankPadded (width n : Nat) : List Char :=
  List.replicate (width - (digits n).length) ' ' ++ digits n

/-- The numeral of `n` as a string. -/
def text (n : Nat) : String := String.ofList (digits n)

/-- The numeral of an integer: a minus sign in front of a negative one. -/
def signedText : Int → String
  | .ofNat n => text n
  | .negSucc n => "-" ++ text (n + 1)

end OrderlyExit.Decimal
