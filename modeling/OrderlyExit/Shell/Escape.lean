import OrderlyExit.Text.ByteText
import OrderlyExit.Text.Utf8

/-!
Backslash escapes in texts. Which escapes there are depends on where a text stands, so the reader of escapes
takes their rules as a value. An escape that the rules do not know stands for itself. Texts are bytes, each
one as the character of its number, and a character that an escape gives by its number is written in UTF-8.
-/

namespace OrderlyExit.Shell.Escape

/-- How octal numbers are written. -/
inductive OctalForm
  /-- Up to three digits. -/
  | short
  /-- A zero and up to three digits. -/
  | afterZero
  /-- Either; a zero does not count as one of the three digits. -/
  | either
  deriving DecidableEq, Repr

/-- Which escapes there are besides those of single letters. -/
structure Rules where
  octal : OctalForm := .either
  /-- `\x` with up to two digits. -/
  hex : Bool := false
  /-- `\u` with up to four digits and `\U` with up to eight. -/
  unicode : Bool := false
  /-- `\c` ends everything. -/
  stops : Bool := false
  /-- `\c` and a letter are a control character. -/
  control : Bool := false
  /-- `\E` is the same as `\e`. -/
  capital : Bool := false
  /-- Quotation marks, which stand for themselves. -/
  marks : List Char := []
  deriving Repr

def isOctal (c : Char) : Bool := '0' ≤ c && c ≤ '7'

def isHex (c : Char) : Bool := c.isDigit || ('a' ≤ c && c ≤ 'f') || ('A' ≤ c && c ≤ 'F')

def digitValue (c : Char) : Nat :=
  if c.isDigit then c.toNat - 48 else if 'a' ≤ c then c.toNat - 87 else c.toNat - 55

/-- The number that digits of a base denote. -/
def value (base : Nat) (digits : List Char) : Nat := digits.foldl (fun n c => n * base + digitValue c) 0

/-- The byte with a number. -/
def byte (n : Nat) : Char := Char.ofNat (n % 256)

/-- The character that a backslash and a letter stand for. -/
def letter? (c : Char) : Option Char :=
  if c = 'a' then some '\x07'
  else if c = 'b' then some '\x08'
  else if c = 'e' then some '\x1b'
  else if c = 'f' then some '\x0c'
  else if c = 'n' then some '\n'
  else if c = 'r' then some '\r'
  else if c = 't' then some '\t'
  else if c = 'v' then some '\x0b'
  else if c = '\\' then some '\\'
  else none

/-- What an escape comes to. -/
inductive Reading
  /-- It stands for a text, and a rest follows it. -/
  | text (cs : List Char) (rest : List Char)
  /-- Everything ends here. -/
  | stop
  deriving Repr

/-- A number of at most `most` digits at the front of a text. -/
def number (base most : Nat) (isDigit : Char → Bool) (s : List Char) : Option (Nat × List Char) :=
  let digits := (s.take most).takeWhile isDigit
  if digits = [] then none else some (value base digits, s.drop digits.length)

/-- The octal number at the front of a text. -/
def octal? (form : OctalForm) (s : List Char) : Option (Nat × List Char) :=
  match form, s with
  | .short, s => number 8 3 isOctal s
  | .afterZero, '0' :: rest => (number 8 3 isOctal rest).or (some (0, rest))
  | .afterZero, _ => none
  | .either, '0' :: rest => (number 8 3 isOctal rest).or (some (0, rest))
  | .either, s => number 8 3 isOctal s

/-- The bytes of the character with a number. -/
def encoded (n : Nat) : List Char := ByteText.ofBytes (Utf8.encode [Char.ofNat n])

/-- Reads what follows a backslash. -/
def read (r : Rules) (s : List Char) : Reading :=
  match s with
  | [] => .text ['\\'] []
  | c :: rest =>
    let asIs : Reading := .text ['\\', c] rest
    match octal? r.octal s with
    | some (n, rest) => .text [byte n] rest
    | none =>
      match letter? c with
      | some d => .text [d] rest
      | none =>
        if r.marks.contains c then .text [c] rest
        else if c = 'E' && r.capital then .text ['\x1b'] rest
        else if c = 'c' && r.stops then .stop
        else if c = 'c' && r.control then
          match rest with
          | d :: rest => .text [byte (d.toUpper.toNat % 32)] rest
          | [] => asIs
        else if c = 'x' && r.hex then
          match number 16 2 isHex rest with
          | some (n, rest) => .text [byte n] rest
          | none => asIs
        else if (c = 'u' || c = 'U') && r.unicode then
          match number 16 (if c = 'u' then 4 else 8) isHex rest with
          | some (n, rest) => .text (encoded n) rest
          | none => asIs
        else asIs

/-- Resolves the escapes in a text; returns also whether everything ends there. Each call takes at least
one character. -/
def resolveWith (fuel : Nat) (r : Rules) (s : List Char) : List Char × Bool :=
  match fuel, s with
  | 0, _ | _, [] => ([], false)
  | fuel + 1, c :: rest =>
    if c ≠ '\\' then
      let (cs, stop) := resolveWith fuel r rest
      (c :: cs, stop)
    else
      match read r rest with
      | .stop => ([], true)
      | .text ds rest =>
        let (cs, stop) := resolveWith fuel r rest
        (ds ++ cs, stop)

def resolve (r : Rules) (s : List Char) : List Char × Bool := resolveWith s.length r s

/-- The escapes between `$'` and `'`. -/
def quotedRules : Rules :=
  { octal := .short, hex := true, unicode := true, control := true, capital := true, marks := ['\'', '"', '?'] }

end OrderlyExit.Shell.Escape
