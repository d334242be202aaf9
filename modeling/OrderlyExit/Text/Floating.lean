import OrderlyExit.Text.Decimal

/-!
Numbers with a fraction as texts: reading one, rounding it to so many binary digits, and writing it with
so many decimal places, with an exponent, or in the shorter of the two forms. All is done on exact
quotients; a tie goes to the even neighbour.
-/

namespace OrderlyExit

/-- The size of a number without its sign. -/
inductive Magnitude
  | finite (num den : Nat)
  | infinite
  | notANumber
  deriving DecidableEq, Repr

structure Floating where
  negative : Bool := false
  magnitude : Magnitude
  deriving DecidableEq, Repr

namespace Floating

def zero : Floating := { magnitude := .finite 0 1 }

/-- The whole number nearest to a quotient. -/
def nearest (num den : Nat) : Nat :=
  let q := num / den
  let twice := 2 * (num % den)
  if twice < den then q
  else if den < twice then q + 1
  else if q % 2 = 0 then q else q + 1

/-- How many binary digits of a number count, the least power of two that a digit stands for, and the
power of two that is too large. -/
structure Precision where
  bits : Nat
  least : Int
  limit : Nat

def Precision.double : Precision := ⟨53, -1074, 1024⟩

def Precision.extended : Precision := ⟨64, -16445, 16384⟩

/-- A quotient rounded to the precision. -/
def round (p : Precision) (num den : Nat) : Magnitude :=
  if num = 0 ∨ den = 0 then .finite 0 1
  else
    let guess : Int := (Nat.log2 num : Int) - Nat.log2 den - p.bits
    let scaled (e : Int) : Nat × Nat :=
      if 0 ≤ e then (num, den * Nat.pow 2 e.toNat) else (num * Nat.pow 2 (-e).toNat, den)
    let whole (e : Int) : Nat := let (n, d) := scaled e; n / d
    let e := if whole guess < Nat.pow 2 p.bits then guess else guess + 1
    let e := max e p.least
    let (n, d) := scaled e
    let q := nearest n d
    if 0 ≤ e then
      if Nat.pow 2 p.limit ≤ q * Nat.pow 2 e.toNat then .infinite else .finite (q * Nat.pow 2 e.toNat) 1
    else .finite q (Nat.pow 2 (-e).toNat)

/-! ### Reading -/

def isHexDigit (c : Char) : Bool := c.isDigit || ('a' ≤ c && c ≤ 'f') || ('A' ≤ c && c ≤ 'F')

def hexValue (c : Char) : Nat := if c.isDigit then c.toNat - 48 else if 'a' ≤ c then c.toNat - 87 else c.toNat - 55

/-- The digits, and those behind a point, at the front of a text, with the number of the latter. -/
def mantissa (isDigit : Char → Bool) (s : List Char) : List Char × Nat × List Char :=
  let whole := s.takeWhile isDigit
  match s.drop whole.length with
  | '.' :: rest =>
    let places := rest.takeWhile isDigit
    if whole = [] && places = [] then ([], 0, s) else (whole ++ places, places.length, rest.drop places.length)
  | rest => (whole, 0, rest)

/-- An exponent behind one of two letters; without digits there is none. -/
def exponent (lower upper : Char) (s : List Char) : Int × List Char :=
  match s with
  | c :: rest =>
    if c = lower ∨ c = upper then
      let signed := rest.head? = some '-' || rest.head? = some '+'
      let body := if signed then rest.drop 1 else rest
      let digits := body.takeWhile Char.isDigit
      if digits = [] then (0, s)
      else (if rest.head? = some '-' then -(Decimal.value digits : Int) else Decimal.value digits, body.drop digits.length)
    else (0, s)
  | [] => (0, [])

/-- Exponents beyond this count as this. -/
def maxExponent : Nat := 20000

/-- A quotient times a power. -/
def scale (base : Nat) (num den : Nat) (e : Int) : Nat × Nat :=
  let size := min e.natAbs maxExponent
  if 0 ≤ e then (num * Nat.pow base size, den) else (num, den * Nat.pow base size)

/-- Whether a text begins with letters, in either case. -/
def beginsWith (word : String) (s : List Char) : Bool := word.toList.isPrefixOf (s.map Char.toLower)

/-- Reads a number at the front of a text as it is written, not rounded; nothing if there is none. -/
def numeral? (s : List Char) : Option (Floating × List Char) :=
  let negative := s.head? = some '-'
  let body := if negative || s.head? = some '+' then s.drop 1 else s
  if beginsWith "infinity" body then some (⟨negative, .infinite⟩, body.drop 8)
  else if beginsWith "inf" body then some (⟨negative, .infinite⟩, body.drop 3)
  else if beginsWith "nan" body then some (⟨negative, .notANumber⟩, body.drop 3)
  else
    let hex := beginsWith "0x" body && ((body.drop 2).head?.any fun c => isHexDigit c || c = '.')
    if hex then
      let (digits, places, rest) := mantissa isHexDigit (body.drop 2)
      if digits = [] then none
      else
        let (e, rest) := exponent 'p' 'P' rest
        let (num, den) := scale 2 (digits.foldl (fun n c => n * 16 + hexValue c) 0) 1 (e - 4 * places)
        some (⟨negative, .finite num den⟩, rest)
    else
      let (digits, places, rest) := mantissa Char.isDigit body
      if digits = [] then none
      else
        let (e, rest) := exponent 'e' 'E' rest
        let (num, den) := scale 10 (Decimal.value digits) 1 (e - places)
        some (⟨negative, .finite num den⟩, rest)

/-- A number rounded to the precision. -/
def rounded (p : Precision) (f : Floating) : Floating :=
  match f.magnitude with
  | .finite num den => { f with magnitude := round p num den }
  | _ => f

/-- Whether rounding to the precision loses a number: it becomes infinite, or so small that digits go. -/
def exceeds (p : Precision) (f : Floating) : Bool :=
  match f.magnitude with
  | .finite num den =>
    match round p num den with
    | .finite n d => num ≠ 0 && n * Nat.pow 2 (-(p.least + p.bits - 1)).toNat < d && n * den ≠ num * d
    | _ => true
  | _ => false

/-- Reads a number at the front of a text, rounded. -/
def read? (p : Precision) (s : List Char) : Option (Floating × List Char) :=
  (numeral? s).map fun (f, rest) => (f.rounded p, rest)

/-! ### Writing -/

/-- How a number is written. -/
structure Form where
  /-- Digits behind the point. -/
  places : Nat := 6
  /-- The point stands even if nothing follows it, and zeros at the end stay. -/
  point : Bool := false

/-- Digits with a point in front of the last `places` of them. -/
def pointed (f : Form) (digits : List Char) : List Char :=
  let digits := List.replicate (f.places + 1 - digits.length) '0' ++ digits
  let whole := digits.take (digits.length - f.places)
  whole ++ if f.places = 0 then (if f.point then ['.'] else []) else '.' :: digits.drop (digits.length - f.places)

/-- With a number of decimal places. -/
def fixed (f : Form) (num den : Nat) : List Char :=
  pointed f (Decimal.digits (nearest (num * Nat.pow 10 f.places) den))

/-- The power of ten of the first digit of a quotient. -/
def order (num den : Nat) : Int :=
  if num = 0 then 0
  else
    let guess : Int := ((Decimal.digits num).length : Int) - (Decimal.digits den).length
    let (n, d) := scale 10 num den (-guess)
    if n < d then guess - 1 else guess

/-- The digits of a quotient with one digit in front of the point, and the exponent. -/
def significant (places : Nat) (num den : Nat) : Nat × Int :=
  let e := order num den
  let (n, d) := scale 10 num den (places - e)
  let digits := nearest n d
  if Nat.pow 10 (places + 1) ≤ digits then (digits / 10, e + 1) else (digits, e)

/-- An exponent with a sign and at least two digits. -/
def exponentText (e : Int) : List Char := (if e < 0 then '-' else '+') :: Decimal.zeroPadded 2 e.natAbs

/-- With an exponent behind a letter. -/
def scientific (f : Form) (letter : Char) (num den : Nat) : List Char :=
  let (digits, e) := significant f.places num den
  pointed f (Decimal.digits digits) ++ letter :: exponentText e

/-- A text without the zeros at the end of its fraction. -/
def trimmed (cs : List Char) : List Char :=
  if cs.contains '.' then
    let cs := (cs.reverse.dropWhile (· = '0')).reverse
    if cs.getLast? = some '.' then cs.dropLast else cs
  else cs

/-- With so many digits that count, in the shorter form. -/
def general (f : Form) (letter : Char) (num den : Nat) : List Char :=
  let count := max 1 f.places
  let (digits, e) := significant (count - 1) num den
  let trim (cs : List Char) : List Char := if f.point then cs else trimmed cs
  if -4 ≤ e ∧ e < count then trim (fixed { f with places := (count - 1 - e).toNat } num den)
  else trim (pointed { f with places := count - 1 } (Decimal.digits digits)) ++ letter :: exponentText e

/-- How the digits of a number stand in its hexadecimal form: so many bits of it make the digit in front of the
point, and so many digits stand behind it. -/
structure HexShape where
  lead : Nat
  places : Nat
  /-- The least exponent; smaller numbers have a zero in front of the point. -/
  least : Int

def HexShape.double : HexShape := ⟨1, 13, -1022⟩

def HexShape.extended : HexShape := ⟨4, 15, -16385⟩

/-- The hexadecimal digits of `n`, so many of them. -/
def hexDigits (count n : Nat) : List Char :=
  (List.range count).reverse.map fun i =>
    let d := n / Nat.pow 16 i % 16
    Char.ofNat (if d < 10 then 48 + d else 87 + d)

/-- The hexadecimal form behind its mark, with an exponent of two. Without a number of places, as many digits
stand as count. -/
def hexadecimal (shape : HexShape) (places : Option Nat) (point : Bool) (num den : Nat) : List Char :=
  let guess : Int := (Nat.log2 num : Int) - Nat.log2 den
  let (n, d) := scale 2 num den (-guess)
  let order := if n < d then guess - 1 else guess
  let e := if num = 0 then 0 else max (order - (shape.lead - 1 : Nat)) shape.least
  let (n, d) := scale 2 num den (4 * shape.places - e)
  let digits := n / d
  let count := places.getD shape.places
  let kept := if count < shape.places then nearest digits (Nat.pow 16 (shape.places - count))
    else digits * Nat.pow 16 (count - shape.places)
  let front := kept / Nat.pow 16 count
  let behind := hexDigits count kept
  let behind := if places.isNone then (behind.reverse.dropWhile (· = '0')).reverse else behind
  let (front, e) := if front = 16 then (1, e + 4) else (front, e)
  hexDigits 1 front ++ (if behind = [] && !point then [] else '.' :: behind) ++
    'p' :: (if e < 0 then '-' else '+') :: Decimal.digits e.natAbs

/-- The text of a number without its sign; `kind` is the letter of the form. -/
def text (f : Form) (kind : Char) (m : Magnitude) : List Char :=
  let recase (s : String) : List Char := if kind.isUpper then s.toList.map Char.toUpper else s.toList
  match m with
  | .infinite => recase "inf"
  | .notANumber => recase "nan"
  | .finite num den =>
    if kind = 'f' ∨ kind = 'F' then fixed f num den
    else if kind = 'e' then scientific f 'e' num den
    else if kind = 'E' then scientific f 'E' num den
    else if kind.isUpper then general f 'E' num den
    else general f 'e' num den

end Floating

end OrderlyExit
