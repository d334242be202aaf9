import OrderlyExit.Text.ByteText
import OrderlyExit.Text.Decimal

/-!
Permissions of files: who may read, write and run them. They are three octal digits, for the user, the
group and others, with a fourth one in front for special bits; letters say how to change them.
-/

namespace OrderlyExit.Host.Permissions

/-- The bits of `a` that are not in `b`. -/
def without (a b : Nat) : Nat := a - (a &&& b)

/-- All bits. -/
def all : Nat := 0o7777

/-- The bits of those that a letter names. -/
def bitsOfWho (c : Char) : Option Nat :=
  if c = 'u' then some 0o4700
  else if c = 'g' then some 0o2070
  else if c = 'o' then some 0o1007
  else if c = 'a' then some all
  else none

/-- One digit for each of the three. -/
def forEach (digit : Nat) : Nat := digit * 0o111

/-- The bits that a letter grants, to everybody; some letters copy what is granted at present. -/
def bitsOfLetter (isDirectory : Bool) (old : Nat) (c : Char) : Option Nat :=
  if c = 'r' then some (forEach 4)
  else if c = 'w' then some (forEach 2)
  else if c = 'x' then some (forEach 1)
  else if c = 'X' then some (if isDirectory || old &&& forEach 1 ≠ 0 then forEach 1 else 0)
  else if c = 's' then some 0o6000
  else if c = 't' then some 0o1000
  else if c = 'u' then some (forEach (old / 64 % 8))
  else if c = 'g' then some (forEach (old / 8 % 8))
  else if c = 'o' then some (forEach (old % 8))
  else none

def isSign (c : Char) : Bool := c == '+' || c == '-' || c == '='

/-- Where in a change by letters the reader is. -/
inductive Stage
  /-- In the letters for those it is about, with their bits. -/
  | who (bits : Nat)
  /-- Behind a sign, with the bits to be granted. -/
  | what (who : Nat) (sign : Char) (bits : Nat)

/-- Permissions after a sign and its letters. Where nobody is named everybody is meant, except for the mask. -/
def settle (mask old who : Nat) (sign : Char) (bits : Nat) : Nat :=
  let bits := if who = 0 then without bits mask else bits &&& who
  if sign = '+' then old ||| bits
  else if sign = '-' then without old bits
  else without old (if who = 0 then all else who) ||| bits

/-- Changes permissions as letters say, with commas between changes. -/
def changeFrom (isDirectory : Bool) (mask : Nat) (old : Nat) : Stage → List Char → Option Nat
  | .who _, [] => some old
  | .what who sign bits, [] => some (settle mask old who sign bits)
  | .who bits, c :: rest =>
    match bitsOfWho c with
    | some more => changeFrom isDirectory mask old (.who (bits ||| more)) rest
    | none => if isSign c then changeFrom isDirectory mask old (.what bits c 0) rest else none
  | .what who sign bits, c :: rest =>
    if c = ',' then changeFrom isDirectory mask (settle mask old who sign bits) (.who 0) rest
    else if isSign c then changeFrom isDirectory mask (settle mask old who sign bits) (.what who c 0) rest
    else
      match bitsOfLetter isDirectory old c with
      | some more => changeFrom isDirectory mask old (.what who sign (bits ||| more)) rest
      | none => none

/-- Permissions after a change that is written in letters. -/
def change? (isDirectory : Bool) (mask old : Nat) (text : List Char) : Option Nat :=
  changeFrom isDirectory mask old (.who 0) text

end OrderlyExit.Host.Permissions
