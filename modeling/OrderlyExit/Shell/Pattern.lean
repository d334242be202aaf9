import OrderlyExit.Shell.Token
import OrderlyExit.Text.Alphanumeric
import OrderlyExit.Text.LetterCase

/-!
Patterns for texts: a star for any text, a question mark for any character, brackets for a set of characters,
and, in the extended form, alternatives in parentheses. A quoted character stands for itself.
-/

namespace OrderlyExit.Shell

/-- A character of an expanded word. -/
structure Letter where
  char : Char
  /-- It stands for itself. -/
  quoted : Bool
  /-- It came from a value, so that fields may end at it. -/
  splits : Bool := false
  deriving DecidableEq, Repr

namespace Pattern

/-- A member of a set of characters. -/
inductive Member
  | range (first last : Char)
  /-- A class; with `wide` the letters of all scripts belong to the classes. -/
  | named (name : List Char) (wide : Bool)
  deriving DecidableEq, Repr

/-- How often an alternative may occur. -/
inductive Repetition
  | once
  | optional
  | many
  | some
  /-- None of the alternatives occurs. -/
  | never
  deriving DecidableEq, Repr

inductive Item
  | char (c : Char)
  | any
  | many
  | set (negated : Bool) (members : List Member)
  | group (r : Repetition) (alternatives : List (List Item))

/-- The names of the classes of characters. -/
def classNames : List String :=
  ["alpha", "digit", "alnum", "upper", "lower", "space", "blank", "punct", "print", "graph", "cntrl", "xdigit"]

/-- The classes of characters by name. -/
def isOfClass (name : List Char) (c : Char) : Bool :=
  match String.ofList name with
  | "alpha" => c.isAlpha
  | "digit" => c.isDigit
  | "alnum" => c.isAlphanum
  | "upper" => c.isUpper
  | "lower" => c.isLower
  | "space" => c == ' ' || ('\t' ≤ c && c ≤ '\r')
  | "blank" => c == ' ' || c == '\t'
  | "punct" => '!' ≤ c && c ≤ '~' && !c.isAlphanum
  | "print" => ' ' ≤ c && c ≤ '~'
  | "graph" => '!' ≤ c && c ≤ '~'
  | "cntrl" => c < ' ' || c == '\x7f'
  | "xdigit" => Escape.isHex c
  | _ => false

/-- The classes of characters outside of ASCII. -/
def isOfWideClass (name : List Char) (c : Char) : Bool :=
  let isAlphanumeric := Alphanumeric.contains c
  match String.ofList name with
  | "alpha" | "alnum" => isAlphanumeric
  | "upper" => LetterCase.isCapital c
  | "lower" => LetterCase.isSmall c
  | "space" | "blank" =>
    c.toNat = 0x1680 || (0x2000 ≤ c.toNat && c.toNat ≤ 0x200A && c.toNat ≠ 0x2007) || c.toNat = 0x205F || c.toNat = 0x3000
  | "print" | "graph" => 0xA0 ≤ c.toNat && c.toNat < Utf8.byteMark
  | "punct" => 0xA0 ≤ c.toNat && c.toNat < Utf8.byteMark && !isAlphanumeric
  | "cntrl" => c.toNat < 0xA0
  | _ => false

def Member.contains (m : Member) (c : Char) : Bool :=
  match m with
  | .range first last => first ≤ c && c ≤ last
  | .named name wide => if c.toNat < 0x80 then isOfClass name c else wide && isOfWideClass name c

/-- Whether an unquoted character stands at the front. -/
def startsWith (c : Char) (ls : List Letter) : Bool := ls.head?.any fun l => l.char = c && !l.quoted

/-- A character between dots or equals signs and before a closing bracket, and what follows that. -/
def named? (ls : List Letter) : Option (Char × List Letter) :=
  match ls with
  | a :: l :: b :: close :: rest =>
    if (a.char = '.' || a.char = '=') && b.char = a.char && close.char = ']' then some (l.char, rest) else none
  | _ => none

/-- The members of a set up to its closing bracket, and what follows that. In the plain form an unknown class
is none. -/
def members (d : Dialect) (first : Bool) (fuel : Nat) (ls : List Letter) : Option (List Member × List Letter) :=
  match fuel, ls with
  | 0, _ | _, [] => none
  | fuel + 1, l :: rest =>
    if l.char = ']' && !l.quoted && !first then some ([], rest)
    else if l.char = '[' && !l.quoted && startsWith ':' rest && (rest.drop 1).any (fun l => l.char = ':') then
      let name := ((rest.drop 1).takeWhile (·.char ≠ ':')).map (·.char)
      let after := (rest.drop (name.length + 1)).drop 1
      if startsWith ']' after && (d = .extended || classNames.any (·.toList = name)) then
        (members d false fuel (after.drop 1)).map fun (ms, rest) => (.named name (d = .extended) :: ms, rest)
      else (members d false fuel rest).map fun (ms, rest) => (.range '[' '[' :: ms, rest)
    else if d = .extended && l.char = '[' && !l.quoted && (named? rest).isSome then
      match named? rest with
      | some (c, rest) => (members d false fuel rest).map fun (ms, rest) => (.range c c :: ms, rest)
      | none => none
    else
      match rest with
      | dash :: last :: more =>
        if dash.char = '-' && !dash.quoted && !(last.char = ']' && !last.quoted) then
          (members d false fuel more).map fun (ms, rest) => (.range l.char last.char :: ms, rest)
        else (members d false fuel rest).map fun (ms, rest) => (.range l.char l.char :: ms, rest)
      | rest => (members d false fuel rest).map fun (ms, rest) => (.range l.char l.char :: ms, rest)

/-- How the letter in front of a parenthesis has alternatives repeated. -/
def repetition? (c : Char) : Option Repetition :=
  if c = '@' then some .once
  else if c = '?' then some .optional
  else if c = '*' then some .many
  else if c = '+' then some .some
  else if c = '!' then some .never
  else none

/-- The alternatives between parentheses, up to the closing one, and what follows that. -/
def alternatives (depth : Nat) (sofar : List Letter) : List Letter → Option (List (List Letter) × List Letter)
  | [] => none
  | l :: rest =>
    if l.quoted then alternatives depth (l :: sofar) rest
    else if l.char = ')' then
      if depth = 0 then some ([sofar.reverse], rest) else alternatives (depth - 1) (l :: sofar) rest
    else if l.char = '(' then alternatives (depth + 1) (l :: sofar) rest
    else if l.char = '|' && depth = 0 then
      (alternatives 0 [] rest).map fun (alts, rest) => (sofar.reverse :: alts, rest)
    else alternatives depth (l :: sofar) rest

/-- The items of a pattern. The fuel has to be at least the length of the pattern. -/
def ofLetters (d : Dialect) (fuel : Nat) (ls : List Letter) : List Item :=
  match fuel, ls with
  | 0, _ | _, [] => []
  | fuel + 1, l :: rest =>
    if l.quoted then .char l.char :: ofLetters d fuel rest
    else
      match if d = .extended && startsWith '(' rest then repetition? l.char else none with
      | some r =>
        match alternatives 0 [] (rest.drop 1) with
        | some (alts, rest) => .group r (alts.map (ofLetters d fuel)) :: ofLetters d fuel rest
        | none => .char l.char :: ofLetters d fuel rest
      | none =>
        if l.char = '*' then .many :: ofLetters d fuel rest
        else if l.char = '?' then .any :: ofLetters d fuel rest
        else if l.char = '[' then
          let negated := startsWith '!' rest || (d = .extended && startsWith '^' rest)
          match members d true (rest.length + 1) (if negated then rest.drop 1 else rest) with
          | some (ms, rest) => .set negated ms :: ofLetters d fuel rest
          | none => .char '[' :: ofLetters d fuel rest
        else .char l.char :: ofLetters d fuel rest

/-- The ways to split a text in two. -/
def splits (s : List Char) : List (List Char × List Char) :=
  (List.range (s.length + 1)).map fun n => (s.take n, s.drop n)

/-- Whether a pattern matches a whole text. Each call has less fuel than its caller. -/
def matchesWith (fuel : Nat) (items : List Item) (s : List Char) : Bool :=
  match fuel with
  | 0 => false
  | fuel + 1 =>
    match items, s with
    | [], s => s.isEmpty
    | .char c :: items, d :: rest => c = d && matchesWith fuel items rest
    | .any :: items, _ :: rest => matchesWith fuel items rest
    | .set negated ms :: items, d :: rest => (ms.any (·.contains d)) != negated && matchesWith fuel items rest
    | .many :: items, s => matchesWith fuel items s || (!s.isEmpty && matchesWith fuel (.many :: items) (s.drop 1))
    | .group r alts :: items, s =>
      let one (text : List Char) : Bool := alts.any (matchesWith fuel · text)
      match r with
      | .once => (splits s).any fun (a, b) => one a && matchesWith fuel items b
      | .optional => matchesWith fuel items s || (splits s).any fun (a, b) => one a && matchesWith fuel items b
      | .never => (splits s).any fun (a, b) => !one a && matchesWith fuel items b
      | .many | .some =>
        (r = .many && matchesWith fuel items s) ||
          (splits s).any fun (a, b) => one a &&
            (matchesWith fuel items b || (!a.isEmpty && matchesWith fuel (.group .many alts :: items) b))
    | _, _ => false

/-- The letters of a pattern without the backslashes in values: what follows one stands for itself, and so does
one at the end. -/
def unescaped : List Letter → List Letter
  | [] => []
  | [l] => [{ l with quoted := l.quoted || l.char = '\\' }]
  | l :: next :: rest =>
    if l.char = '\\' && !l.quoted then { next with quoted := true } :: unescaped rest else l :: unescaped (next :: rest)

/-- Whether a pattern matches a whole text. -/
def isMatch (d : Dialect) (pattern : List Letter) (s : List Char) : Bool :=
  let items := ofLetters d (pattern.length + 1) (unescaped pattern)
  matchesWith (2 * (pattern.length + s.length) + 8) items s

/-- Whether a word has characters in it that make it a pattern. -/
def isPattern (d : Dialect) (ls : List Letter) : Bool :=
  (unescaped ls).any fun l => !l.quoted && (l.char = '*' || l.char = '?' || l.char = '[' || (d = .extended && l.char = '('))

/-- The text without the shortest, or the longest, piece in front that a pattern matches. -/
def trimFront (d : Dialect) (longest : Bool) (pattern : List Letter) (s : List Char) : List Char :=
  let lengths := List.range (s.length + 1)
  match (if longest then lengths.reverse else lengths).find? fun n => isMatch d pattern (s.take n) with
  | some n => s.drop n
  | none => s

/-- The text without the shortest, or the longest, piece behind that a pattern matches. -/
def trimBack (d : Dialect) (longest : Bool) (pattern : List Letter) (s : List Char) : List Char :=
  let lengths := List.range (s.length + 1)
  match (if longest then lengths.reverse else lengths).find? fun n => isMatch d pattern (s.drop (s.length - n)) with
  | some n => s.take (s.length - n)
  | none => s

/-- The length of the longest piece in front that a pattern matches, if it matches one. -/
def longestFront (d : Dialect) (pattern : List Letter) (s : List Char) : Option Nat :=
  (List.range (s.length + 1)).reverse.find? fun n => isMatch d pattern (s.take n)

/-- Replaces the first piece that a pattern matches, or all of them. A match of nothing is none. -/
def replaceWith (fuel : Nat) (d : Dialect) (all : Bool) (pattern : List Letter) (substitute : List Char) (s : List Char) :
    List Char :=
  match fuel, s with
  | 0, s => s
  | _, [] => []
  | fuel + 1, c :: rest =>
    match (longestFront d pattern (c :: rest)).filter (· ≠ 0) with
    | some n =>
      substitute ++ (if all then replaceWith fuel d all pattern substitute ((c :: rest).drop n) else (c :: rest).drop n)
    | none => c :: replaceWith fuel d all pattern substitute rest

end Pattern

end OrderlyExit.Shell
