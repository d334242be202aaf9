import OrderlyExit.Shell.Command
import OrderlyExit.Text.Decimal

/-!
Braces in words of the extended form: several texts between them, or the ends of a sequence, stand for
several words.
-/

namespace OrderlyExit.Shell.Braces

/-- The pieces up to the brace that closes, cut at the commas between, and what follows. -/
def parts (depth : Nat) (current : Word) : Word → Option (List Word × Word)
  | [] => none
  | p :: rest =>
    if p = .char '{' false then parts (depth + 1) (current ++ [p]) rest
    else if p = .char '}' false then
      if depth = 0 then some ([current], rest) else parts (depth - 1) (current ++ [p]) rest
    else if p = .char ',' false ∧ depth = 0 then
      (parts 0 [] rest).map fun (ws, rest) => (current :: ws, rest)
    else parts depth (current ++ [p]) rest

/-- A whole number with a sign. -/
def integer? (cs : List Char) : Option Int :=
  let digits := if cs.head? = some '-' || cs.head? = some '+' then cs.drop 1 else cs
  if digits ≠ [] && digits.all Char.isDigit then
    some (if cs.head? = some '-' then -(Escape.value 10 digits : Int) else Escape.value 10 digits)
  else none

/-- Cuts a text at the first two dots. -/
def cutDots : List Char → Option (List Char × List Char)
  | '.' :: '.' :: rest => some ([], rest)
  | [] => none
  | c :: rest => (cutDots rest).map fun (a, b) => (c :: a, b)

/-- The numbers from one to another in steps. -/
def numbers (a b : Int) (step : Nat) : List Int :=
  (List.range ((b - a).natAbs / step + 1)).map fun (i : Nat) =>
    if a ≤ b then a + (i * step : Nat) else a - (i * step : Nat)

/-- A number with zeros in front, up to a width that counts its sign. -/
def padded (width : Nat) (n : Int) : List Char :=
  let digits := Decimal.digits n.natAbs
  let sign := if n < 0 then ['-'] else []
  sign ++ List.replicate (width - sign.length - digits.length) '0' ++ digits

/-- How wide the numbers of a sequence are when one of its ends has a zero in front. -/
def width (a b : List Char) : Nat :=
  let zeros (cs : List Char) : Bool :=
    let digits := if cs.head? = some '-' then cs.drop 1 else cs
    digits.length > 1 && digits.head? = some '0'
  if zeros a || zeros b then max a.length b.length else 0

/-- The texts of a sequence. -/
def sequence? (text : List Char) : Option (List (List Char)) := do
  let (a, rest) ← cutDots text
  let (b, step) := match cutDots rest with
    | some (b, step) => (b, step)
    | none => (rest, ['1'])
  let step := max 1 (← integer? step).natAbs
  match integer? a, integer? b with
  | some x, some y => some ((numbers x y step).map (padded (width a b)))
  | _, _ =>
    match a, b with
    | [x], [y] =>
      if x.isAlpha && y.isAlpha then
        some ((numbers x.toNat y.toNat step).map fun n => [Char.ofNat n.toNat])
      else none
    | _, _ => none

/-- The words that a word stands for. Each call has less fuel than its caller. -/
def expandWith (fuel : Nat) (w : Word) : List Word :=
  match fuel with
  | 0 => [w]
  | fuel + 1 =>
    let before := w.takeWhile (· ≠ .char '{' false)
    match w.drop before.length with
    | [] => [w]
    | brace :: rest =>
      let plain : List Word := (expandWith fuel rest).map fun tail => before ++ brace :: tail
      match parts 0 [] rest with
      | none => plain
      | some ([inside], after) =>
        match (Command.bareText? inside).bind sequence? with
        | some texts =>
          texts.flatMap fun text =>
            (expandWith fuel after).map fun tail => before ++ text.map (Piece.char · false) ++ tail
        | none => plain
      | some (ws, after) =>
        (ws.flatMap (expandWith fuel)).flatMap fun inside =>
          (expandWith fuel after).map fun tail => before ++ inside ++ tail

/-- The words that a word stands for. -/
def expand (w : Word) : List Word := expandWith (w.length + 1) w

end OrderlyExit.Shell.Braces
