import OrderlyExit.Text.Decimal
import OrderlyExit.Toml.Lexical
import OrderlyExit.Toml.Value

/-!
Numbers, dates and times in a TOML document.

Integers fit into a signed 64-bit word. A number that is not whole must not exceed all finite numbers,
unless it is written `inf`; one below all of them passes as an infinity. Dates and times are checked and
not kept.
-/

namespace OrderlyExit.Toml

/-! ### Runs of digits -/

/-- A run of digits with single underscores between them; `isDigit` says what counts as a digit. -/
def readDigits? (isDigit : Char → Bool) : List Char → Option (List Char × List Char)
  | [] => none
  | c :: rest =>
    if isDigit c then
      match readDigits? isDigit (if rest.head? = some '_' then rest.drop 1 else rest) with
      | some (cs, after) => some (c :: cs, after)
      | none => if rest.head? = some '_' then none else some ([c], rest)
    else none
termination_by s => s.length
decreasing_by
  split <;> simp only [List.length_drop, List.length_cons] <;> omega

/-- A sign, if there is one: whether it is a minus, and what follows. -/
def readSign (s : List Char) : Bool × List Char :=
  match s with
  | [] => (false, [])
  | c :: rest => if c = '-' then (true, rest) else if c = '+' then (false, rest) else (false, s)

/-- The value of digits in a base. -/
def valueIn (base : Nat) (cs : List Char) : Nat := cs.foldl (fun n c => n * base + (hexValue? c).getD 0) 0

/-! ### Integers -/

/-- Whether an integer fits into a signed 64-bit word. -/
def fits64 (n : Int) : Bool := Int64.minValue.toInt ≤ n && n ≤ Int64.maxValue.toInt

/-- A decimal integer: its sign, and its digits without leading zeros. -/
def readWhole? (s : List Char) : Option (Bool × List Char × List Char) :=
  let (negative, s) := readSign s
  if s.head? = some '0' then some (negative, ['0'], s.drop 1)
  else (readDigits? Char.isDigit s).map fun (cs, rest) => (negative, cs, rest)

def readDecimal? (s : List Char) : Option (Int × List Char) :=
  match readWhole? s with
  | none => none
  | some (negative, cs, rest) =>
    let n : Int := if negative then -(valueIn 10 cs : Nat) else (valueIn 10 cs : Nat)
    if fits64 n then some (n, rest) else none

/-- A number in a base that a letter after a zero names. -/
def readBased? (letter : Char) (base : Nat) (s : List Char) : Option (Int × List Char) :=
  match ['0', letter].isPrefixOf? s with
  | none => none
  | some digits =>
    match readDigits? (fun c => (hexValue? c).any (· < base)) digits with
    | none => none
    | some (cs, rest) => if fits64 (valueIn base cs) then some (valueIn base cs, rest) else none

def readInteger? (s : List Char) : Option (Int × List Char) :=
  readBased? 'x' 16 s <|> readBased? 'o' 8 s <|> readBased? 'b' 2 s <|> readDecimal? s

/-! ### Numbers that are not whole -/

/-- The least number that rounds to no finite number of 64 bits. -/
def floatLimit : Nat := (Nat.pow 2 54 - 1) * Nat.pow 2 970

/-- Whether `digits` times ten to the power of `exponent` rounds to a finite number of 64 bits. -/
def isFinite (digits : List Char) (exponent : Int) : Bool :=
  let m := valueIn 10 digits
  if m = 0 then true
  else if exponent > 400 then false
  else if 0 ≤ exponent then m * Nat.pow 10 exponent.toNat < floatLimit
  else if -exponent > digits.length then true
  else m < floatLimit * Nat.pow 10 (-exponent).toNat

/-- A fraction, if a point follows; nothing when no digit follows the point. -/
def readFraction? (s : List Char) : Option (List Char × List Char) :=
  if s.head? = some '.' then readDigits? Char.isDigit (s.drop 1) else some ([], s)

/-- An exponent, if its letter follows; nothing when no digit follows the letter. -/
def readExponent? (s : List Char) : Option (Int × List Char) :=
  if s.head? = some 'e' ∨ s.head? = some 'E' then
    let (negative, s) := readSign (s.drop 1)
    (readDigits? Char.isDigit s).map fun (cs, rest) =>
      (if negative then -(valueIn 10 cs : Nat) else (valueIn 10 cs : Nat), rest)
  else some (0, s)

/-- A number with a fraction, an exponent, or both. -/
def readPointed? (s : List Char) : Option (List Char) := do
  let (negative, whole, afterWhole) ← readWhole? s
  let (fraction, afterFraction) ← readFraction? afterWhole
  let (exponent, rest) ← readExponent? afterFraction
  if rest.length < afterWhole.length ∧
      (negative = true ∨ isFinite (whole ++ fraction) (exponent - fraction.length) = true) then
    some rest
  else none

/-- An infinity or no number at all, by name. -/
def readSpecial? (s : List Char) : Option (List Char) :=
  let s := (readSign s).2
  ['i', 'n', 'f'].isPrefixOf? s <|> ['n', 'a', 'n'].isPrefixOf? s

def readFloat? (s : List Char) : Option (List Char) := readPointed? s <|> readSpecial? s

/-! ### Dates and times -/

/-- A number of exactly `count` digits. -/
def readCount? (count : Nat) (s : List Char) : Option (Nat × List Char) :=
  match Decimal.value? (s.take count) with
  | some n => if (s.take count).length = count then some (n, s.drop count) else none
  | none => none

def readChar? (c : Char) (s : List Char) : Option (List Char) := [c].isPrefixOf? s

def isLeap (year : Nat) : Bool := year % 4 = 0 && (year % 100 ≠ 0 || year % 400 = 0)

def daysIn (year month : Nat) : Nat :=
  if month = 2 then if isLeap year then 29 else 28
  else if month = 4 ∨ month = 6 ∨ month = 9 ∨ month = 11 then 30
  else 31

def readDate? (s : List Char) : Option (List Char) := do
  let (year, s) ← readCount? 4 s
  let s ← readChar? '-' s
  let (month, s) ← readCount? 2 s
  let s ← readChar? '-' s
  let (day, s) ← readCount? 2 s
  if 1 ≤ month ∧ month ≤ 12 ∧ 1 ≤ day ∧ day ≤ daysIn year month then some s else none

/-- The fraction of a second, if there is one. -/
def skipSecondFraction (s : List Char) : List Char :=
  match readChar? '.' s with
  | none => s
  | some digits => if (digits.head?.map Char.isDigit).getD false then digits.dropWhile Char.isDigit else s

def readTime? (s : List Char) : Option (List Char) := do
  let (hour, s) ← readCount? 2 s
  let s ← readChar? ':' s
  let (minute, s) ← readCount? 2 s
  let s ← readChar? ':' s
  let (second, s) ← readCount? 2 s
  if hour ≤ 23 ∧ minute ≤ 59 ∧ second ≤ 60 then some (skipSecondFraction s) else none

/-- The distance from universal time: `Z`, or hours and minutes. -/
def readOffset? (s : List Char) : Option (List Char) :=
  match s with
  | [] => none
  | c :: rest =>
    if c = 'Z' ∨ c = 'z' then some rest
    else if c = '+' ∨ c = '-' then do
      let (hour, s) ← readCount? 2 rest
      let s ← readChar? ':' s
      let (minute, s) ← readCount? 2 s
      if hour ≤ 23 ∧ minute ≤ 59 then some s else none
    else none

/-- What follows the time and the offset behind a date, as far as they are there. -/
def skipTimeOfDay (s : List Char) : List Char :=
  match s with
  | [] => []
  | c :: rest =>
    if c = 'T' ∨ c = 't' ∨ c = ' ' then
      match readTime? rest with
      | some rest => (readOffset? rest).getD rest
      | none => s
    else s

/-- A date, a time, or both. -/
def readDateTime? (s : List Char) : Option (List Char) :=
  (readDate? s).map skipTimeOfDay <|> readTime? s

/-! ### All of them -/

/-- A date or time, a number that is not whole, or an integer. -/
def readNumeric? (s : List Char) : Option (Value × List Char) :=
  (readDateTime? s).map (Value.datetime, ·) <|>
  (readFloat? s).map (Value.float, ·) <|>
  (readInteger? s).map fun (n, rest) => (Value.integer n, rest)

end OrderlyExit.Toml
