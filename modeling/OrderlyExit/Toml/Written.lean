import OrderlyExit.Text.Quoted
import OrderlyExit.Toml.Lexical

/-!
Writing parts of a TOML document: a text as a basic string, and a table with one key.
-/

namespace OrderlyExit.Toml

/-- The lowest four hexadecimal digits of a number. -/
def fourDigits (n : Nat) : List Char :=
  [n / 4096 % 16, n / 256 % 16, n / 16 % 16, n % 16].map Quoted.hexDigit

/-- A character of a basic string: as it is, behind a backslash, or by its number. -/
def writeChar (c : Char) : List Char :=
  if c = '"' ∨ c = '\\' then ['\\', c]
  else if isBasic c then [c]
  else '\\' :: 'u' :: fourDigits c.toNat

/-- A text as a basic string. -/
def writeString (cs : List Char) : List Char := '"' :: cs.flatMap writeChar ++ ['"']

/-- A table with one key, whose value is given as it is written. -/
def writeTable (name key value : List Char) : List Char :=
  '[' :: name ++ [']', '\n'] ++ key ++ [' ', '=', ' '] ++ value ++ ['\n']

end OrderlyExit.Toml
