import OrderlyExit.Text.Unprintable

/-!
Quoted text: a string between double quotes in which every character can be told apart.

Five characters have a short escape, the backslash and the double quote are escaped by a backslash,
and a character that extends its neighbour or does not print is written by its number.
-/

namespace OrderlyExit.Quoted

/-- A hexadecimal digit in lower case. -/
def hexDigit (n : Nat) : Char := if n < 10 then Char.ofNat (48 + n) else Char.ofNat (87 + n)

/-- The hexadecimal numeral of `n`, without leading zeros. -/
def hex (n : Nat) : List Char :=
  if n < 16 then [hexDigit n] else hex (n / 16) ++ [hexDigit (n % 16)]
termination_by n
decreasing_by omega

/-- The written form of one character. -/
def escape (c : Char) : List Char :=
  if c = '\x00' then ['\\', '0']
  else if c = '\t' then ['\\', 't']
  else if c = '\r' then ['\\', 'r']
  else if c = '\n' then ['\\', 'n']
  else if c = '\\' then ['\\', '\\']
  else if c = '"' then ['\\', '"']
  else if Unprintable.byNumber c then ['\\', 'u', '{'] ++ hex c.toNat ++ ['}']
  else [c]

/-- The written form of a text, with its quotes. -/
def chars (cs : List Char) : List Char := '"' :: cs.flatMap escape ++ ['"']

/-- The written form of a string, with its quotes. -/
def text (s : String) : String := String.ofList (chars s.toList)

end OrderlyExit.Quoted
