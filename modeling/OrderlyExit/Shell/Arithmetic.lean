import OrderlyExit.Shell.Token
import OrderlyExit.Text.Decimal

/-!
Arithmetic in a shell: expressions over whole numbers of 64 bits that wrap around, with parameters that may
be assigned to. The extended form has more operators, and takes a parameter's value as an expression.
-/

namespace OrderlyExit.Shell.Arithmetic

/-! ### Numbers -/

/-- A number brought into 64 bits with a sign. -/
def wrap (n : Int) : Int := Int.bmod n UInt64.size

/-- The number of 64 bits without a sign that stands for `n`. -/
def word (n : Int) : Nat := (n % (UInt64.size : Int)).toNat

/-- A power with a natural exponent, brought into 64 bits. -/
def power (a : Int) (n : Nat) : Int := wrap (Int.pow a n)

/-! ### Tokens -/

inductive Token
  | number (n : Int)
  | name (cs : List Char) (subscript : Option (List Char))
  | op (cs : List Char)
  /-- A character that cannot stand there. -/
  | bad (c : Char)
  deriving DecidableEq, Repr

/-- The operators, longer ones before their beginnings. -/
def operators (d : Dialect) : List (List Char) :=
  (if d = .extended then ["**".toList, "++".toList, "--".toList, [',']] else []) ++
  ["<<=".toList, ">>=".toList, "<<".toList, ">>".toList, "<=".toList, ">=".toList, "==".toList, "!=".toList,
   "&&".toList, "||".toList, "+=".toList, "-=".toList, "*=".toList, "/=".toList, "%=".toList, "&=".toList,
   "^=".toList, "|=".toList, ['+'], ['-'], ['*'], ['/'], ['%'], ['<'], ['>'], ['='], ['!'], ['~'], ['&'], ['|'],
   ['^'], ['?'], [':'], ['('], [')']]

/-- The value of a digit in a base up to 64. -/
def digit64 (base : Nat) (c : Char) : Nat :=
  if c.isDigit then c.toNat - 48
  else if c.isLower then c.toNat - 87
  else if c.isUpper then if base ≤ 36 then c.toNat - 55 else c.toNat - 29
  else if c = '@' then 62
  else 63

def isDigit64 (c : Char) : Bool := c.isAlphanum || c == '@' || c == '_'

/-- A number in base ten, eight or sixteen at the front of a text. -/
def number (s : List Char) : Nat × List Char :=
  match s with
  | '0' :: x :: rest =>
    if (x = 'x' || x = 'X') && rest.head?.any Escape.isHex then
      let digits := rest.takeWhile Escape.isHex
      (Escape.value 16 digits, rest.drop digits.length)
    else
      let digits := (x :: rest).takeWhile Escape.isOctal
      (Escape.value 8 digits, (x :: rest).drop digits.length)
  | s =>
    let digits := s.takeWhile Char.isDigit
    (Decimal.value digits, s.drop digits.length)

/-- The text up to a closing bracket, and what follows that. -/
def subscript? (depth : Nat) (sofar : List Char) : List Char → Option (List Char × List Char)
  | [] => none
  | c :: rest =>
    if c = ']' then if depth = 0 then some (sofar.reverse, rest) else subscript? (depth - 1) (c :: sofar) rest
    else subscript? (if c = '[' then depth + 1 else depth) (c :: sofar) rest

def isSpace (c : Char) : Bool := c == ' ' || ('\t' ≤ c && c ≤ '\r')

/-- The tokens of an expression. Each call takes at least one character. -/
def tokens (d : Dialect) (fuel : Nat) (s : List Char) : List Token :=
  match fuel, s with
  | 0, _ | _, [] => []
  | fuel + 1, c :: rest =>
    if isSpace c then tokens d fuel rest
    else if c.isDigit then
      let (n, after) := number (c :: rest)
      match d, after with
      | .extended, '#' :: more =>
        let digits := more.takeWhile isDigit64
        .number (wrap (digits.foldl (fun m c => m * n + digit64 n c) 0)) :: tokens d fuel (more.drop digits.length)
      | _, after => .number (if d = .plain then min n (UInt64.size / 2 - 1) else wrap n) :: tokens d fuel after
    else if Token.isNameStart c then
      let name := (c :: rest).takeWhile Token.isName
      match d, (c :: rest).drop name.length with
      | .extended, '[' :: more =>
        match subscript? 0 [] more with
        | some (inside, after) => .name name (some inside) :: tokens d fuel after
        | none => .name name none :: .bad '[' :: []
      | _, after => .name name none :: tokens d fuel after
    else
      match (operators d).find? (·.isPrefixOf (c :: rest)) with
      | some op => .op op :: tokens d fuel ((c :: rest).drop op.length)
      | none => [.bad c]

/-! ### Expressions -/

/-- A parameter, or an element of one. -/
structure Place where
  name : List Char
  subscript : Option (List Char)
  deriving DecidableEq, Repr

/-- What is wrong with an expression. -/
inductive Fault
  | expectingPrimary
  | expectingParen
  | expectingColon
  | expectingEnd
  | divisionByZero
  | negativeExponent
  /-- A parameter's value is no number. -/
  | badNumber (text : List Char)
  | unset (name : List Char)
  | tooDeep
  deriving DecidableEq, Repr

inductive Expr
  | number (n : Int)
  | place (p : Place)
  | unary (op : List Char) (e : Expr)
  | binary (op : List Char) (a b : Expr)
  | choice (condition yes no : Expr)
  /-- Puts a value, or the outcome of an operator on the present value and it, into a place. -/
  | assign (p : Place) (op : List Char) (e : Expr)
  /-- Adds one, or takes it away; the value is that from before with `late`. -/
  | bump (p : Place) (up late : Bool)
  /-- The plain form takes values while it reads, so what cannot be read is a fault of the value. -/
  | broken (f : Fault)
  deriving Repr, Inhabited

/-- The first fault of an expression whose value is not taken. -/
def Expr.fault? : Expr → Option Fault
  | .broken f => some f
  | .unary _ e | .assign _ _ e => e.fault?
  | .binary _ a b => a.fault?.or b.fault?
  | .choice c yes no => (c.fault?.or yes.fault?).or no.fault?
  | .number _ | .place _ | .bump .. => none

def Fault.message : Fault → String
  | .expectingPrimary => "expecting primary"
  | .expectingParen => "expecting ')'"
  | .expectingColon => "expecting ':'"
  | .expectingEnd => "expecting EOF"
  | .divisionByZero => "division by zero"
  | .negativeExponent => "exponent less than 0"
  | .badNumber text => "Illegal number: " ++ String.ofList text
  | .unset name => String.ofList name ++ ": parameter not set"
  | .tooDeep => "expression recursion level exceeded"

/-- How tightly an operator between two expressions binds; higher ones bind tighter. -/
def precedence? (op : List Char) : Option Nat :=
  match String.ofList op with
  | "||" => some 1
  | "&&" => some 2
  | "|" => some 3
  | "^" => some 4
  | "&" => some 5
  | "==" | "!=" => some 6
  | "<" | ">" | "<=" | ">=" => some 7
  | "<<" | ">>" => some 8
  | "+" | "-" => some 9
  | "*" | "/" | "%" => some 10
  | "**" => some 11
  | _ => none

/-- The operator that an assignment carries out, nothing for a plain one. -/
def assignment? (op : List Char) : Option (List Char) :=
  if op = ['='] then some []
  else if op.getLast? = some '=' && !(["==".toList, "!=".toList, "<=".toList, ">=".toList].contains op) then
    some op.dropLast
  else none

/-- What comes of an expression that cannot be read on. -/
def refuse (d : Dialect) (f : Fault) (sofar : Expr → Expr) : Except Fault (Expr × List Token) :=
  if d = .plain then .ok (sofar (.broken f), []) else .error f

mutual

/-- An expression with commas. -/
def readAll (d : Dialect) (fuel : Nat) (ts : List Token) : Except Fault (Expr × List Token) :=
  match fuel with
  | 0 => .error .tooDeep
  | fuel + 1 => do
    let (first, rest) ← readAssignment d fuel ts
    match rest with
    | .op [','] :: rest => do
      let (second, rest) ← readAll d fuel rest
      .ok (.binary [','] first second, rest)
    | rest => .ok (first, rest)

def readAssignment (d : Dialect) (fuel : Nat) (ts : List Token) : Except Fault (Expr × List Token) :=
  match fuel with
  | 0 => .error .tooDeep
  | fuel + 1 =>
    match ts with
    | .name name subscript :: .op op :: rest =>
      match assignment? op with
      | some op => do
        let (value, rest) ← readAssignment d fuel rest
        .ok (.assign ⟨name, subscript⟩ op value, rest)
      | none => readChoice d fuel ts
    | ts => readChoice d fuel ts

def readChoice (d : Dialect) (fuel : Nat) (ts : List Token) : Except Fault (Expr × List Token) :=
  match fuel with
  | 0 => .error .tooDeep
  | fuel + 1 => do
    let (first, rest) ← readBinary d fuel 1 ts
    match rest with
    | .op ['?'] :: rest => do
      let (yes, rest) ← readAssignment d fuel rest
      match rest with
      | .op [':'] :: rest => do
        let (no, rest) ← readChoice d fuel rest
        .ok (.choice first yes no, rest)
      | _ => refuse d .expectingColon (.choice first yes)
    | rest => .ok (first, rest)

/-- Operators that bind at least as tightly as a level. -/
def readBinary (d : Dialect) (fuel : Nat) (level : Nat) (ts : List Token) : Except Fault (Expr × List Token) :=
  match fuel with
  | 0 => .error .tooDeep
  | fuel + 1 => do
    let (first, rest) ← readUnary d fuel ts
    readMore d fuel level first rest

def readMore (d : Dialect) (fuel : Nat) (level : Nat) (first : Expr) (ts : List Token) :
    Except Fault (Expr × List Token) :=
  match fuel with
  | 0 => .error .tooDeep
  | fuel + 1 =>
    match ts with
    | .op op :: rest =>
      match (precedence? op).filter (level ≤ ·) with
      | some p => do
        -- A power binds what is on its right, the other operators what is on their left.
        let (second, rest) ← readBinary d fuel (if p = 11 then p else p + 1) rest
        readMore d fuel level (.binary op first second) rest
      | none => .ok (first, ts)
    | ts => .ok (first, ts)

def readUnary (d : Dialect) (fuel : Nat) (ts : List Token) : Except Fault (Expr × List Token) :=
  match fuel with
  | 0 => .error .tooDeep
  | fuel + 1 =>
    match ts with
    | .op op :: .name name subscript :: rest =>
      if op = "++".toList || op = "--".toList then .ok (.bump ⟨name, subscript⟩ (op = "++".toList) false, rest)
      else readSigned d fuel op (.name name subscript :: rest)
    | .op op :: rest => readSigned d fuel op rest
    | ts => readPrimary d ts

/-- What follows an operator in front. -/
def readSigned (d : Dialect) (fuel : Nat) (op : List Char) (ts : List Token) : Except Fault (Expr × List Token) :=
  match fuel with
  | 0 => .error .tooDeep
  | fuel + 1 =>
    if op = ['-'] || op = ['+'] || op = ['!'] || op = ['~'] then do
      let (e, rest) ← readUnary d fuel ts
      .ok (.unary op e, rest)
    else if op = ['('] then do
      let (e, rest) ← readAll d fuel ts
      match rest with
      | .op [')'] :: rest => .ok (e, rest)
      | _ => refuse d .expectingParen (.binary [','] e)
    else if op = "++".toList || op = "--".toList then do
      let (e, rest) ← readUnary d fuel ts
      .ok (.unary (op.take 1) (.unary (op.take 1) e), rest)
    else refuse d .expectingPrimary fun e => e

def readPrimary (d : Dialect) (ts : List Token) : Except Fault (Expr × List Token) :=
  match ts with
  | .number n :: rest => .ok (.number n, rest)
  | .name name subscript :: .op op :: rest =>
    if op = "++".toList || op = "--".toList then .ok (.bump ⟨name, subscript⟩ (op = "++".toList) true, rest)
    else .ok (.place ⟨name, subscript⟩, .op op :: rest)
  | .name name subscript :: rest => .ok (.place ⟨name, subscript⟩, rest)
  | _ => refuse d .expectingPrimary fun e => e

end

/-- Reads a whole expression; an empty one is zero. -/
def read (d : Dialect) (s : List Char) : Except Fault Expr :=
  match tokens d (s.length + 1) s with
  | [] => if d = .plain then .error .expectingPrimary else .ok (.number 0)
  | ts =>
    match readAll d (16 * ts.length + 16) ts with
    | .ok (e, []) => .ok e
    | .ok (e, _) => (refuse d .expectingEnd (.binary [','] e)).map (·.1)
    | .error f => .error f

/-! ### Values -/

/-- The parameters around an expression: their values, and what has been assigned. -/
structure Parameters where
  value : Place → Option (List Char)
  assigned : List (Place × Int) := []
  /-- A parameter that is not set is a fault. -/
  strict : Bool := false

def truth (b : Bool) : Int := if b then 1 else 0

/-- The value of an operator between two numbers. -/
def operate (op : List Char) (a b : Int) : Except Fault Int :=
  match String.ofList op with
  | "+" => .ok (wrap (a + b))
  | "-" => .ok (wrap (a - b))
  | "*" => .ok (wrap (a * b))
  | "/" => if b = 0 then .error .divisionByZero else .ok (wrap (Int.tdiv a b))
  | "%" => if b = 0 then .error .divisionByZero else .ok (wrap (Int.tmod a b))
  | "**" => if b < 0 then .error .negativeExponent else .ok (power a b.toNat)
  | "<<" => .ok (wrap (a * Int.pow 2 (word b % 64)))
  | ">>" => .ok (Int.fdiv a (Int.pow 2 (word b % 64)))
  | "<" => .ok (truth (a < b))
  | ">" => .ok (truth (b < a))
  | "<=" => .ok (truth (a ≤ b))
  | ">=" => .ok (truth (b ≤ a))
  | "==" => .ok (truth (a = b))
  | "!=" => .ok (truth (a ≠ b))
  | "&" => .ok (wrap (Nat.land (word a) (word b)))
  | "|" => .ok (wrap (Nat.lor (word a) (word b)))
  | "^" => .ok (wrap (Nat.xor (word a) (word b)))
  | "," => .ok b
  | _ => .error .expectingPrimary

/-- A whole number with white space around it, in base ten, eight or sixteen. -/
def numeral? (s : List Char) : Option Int :=
  let s := (s.dropWhile isSpace).reverse.dropWhile isSpace |>.reverse
  match s with
  | [] => some 0
  | c :: rest =>
    let digits := if c = '-' || c = '+' then rest else c :: rest
    if digits.head?.any Char.isDigit then
      match number digits with
      | (n, []) => if n < UInt64.size then some (if c = '-' then -(n : Int) else n) else none
      | _ => none
    else none

/-- The value of a text in an expression. -/
abbrev Reader := List Char → Parameters → Except Fault (Int × Parameters)

def valueOf (readText : Reader) (d : Dialect) (p : Place) (ps : Parameters) : Except Fault (Int × Parameters) :=
  match ps.assigned.lookup p with
  | some n => .ok (n, ps)
  | none =>
    match ps.value p with
    | none => if ps.strict then .error (.unset p.name) else .ok (0, ps)
    | some text =>
      match numeral? text with
      | some n => if d = .plain && wrap n ≠ n then .error (.badNumber text) else .ok (wrap n, ps)
      | none => if d = .plain then .error (.badNumber text) else readText text ps

def assignTo (p : Place) (n : Int) (ps : Parameters) : Parameters :=
  { ps with assigned := (p, n) :: ps.assigned.filter (·.1 ≠ p) }

/-- The place whose subscript is a number. -/
def settle (readText : Reader) (p : Place) (ps : Parameters) : Except Fault (Place × Parameters) :=
  match p.subscript with
  | none => .ok (p, ps)
  | some text =>
    match readText text ps with
    | .ok (n, ps) => .ok ({ p with subscript := some (Decimal.signedText n).toList }, ps)
    | .error f => .error f

/-- A value, unless an expression whose own value is not taken has a fault. -/
def sound (skipped : Expr) (a : α) : Except Fault α :=
  match skipped.fault? with
  | some f => .error f
  | none => .ok a

/-- The value of an expression, and the parameters after it. -/
def eval (readText : Reader) (d : Dialect) : Expr → Parameters → Except Fault (Int × Parameters)
  | .number n, ps => .ok (n, ps)
  | .place p, ps => do
    let (p, ps) ← settle readText p ps
    valueOf readText d p ps
  | .unary op e, ps => do
    let (n, ps) ← eval readText d e ps
    .ok (if op = ['-'] then wrap (-n) else if op = ['!'] then truth (n = 0) else if op = ['~'] then -n - 1 else n, ps)
  | .binary op a b, ps => do
    let (x, ps) ← eval readText d a ps
    if op = "&&".toList && x = 0 then sound b (0, ps)
    else if op = "||".toList && x ≠ 0 then sound b (1, ps)
    else do
      let (y, ps) ← eval readText d b ps
      if op = "&&".toList || op = "||".toList then .ok (truth (y ≠ 0), ps)
      else do
        let z ← operate op x y
        .ok (z, ps)
  | .choice c yes no, ps => do
    let (n, ps) ← eval readText d c ps
    if n ≠ 0 then do
      let (m, ps) ← eval readText d yes ps
      sound no (m, ps)
    else do
      let (_, ps) ← sound yes (0, ps)
      eval readText d no ps
  | .assign p op e, ps => do
    let (p, ps) ← settle readText p ps
    -- The plain form looks at the present value last.
    let (early, ps) ← if op = [] || d = .plain then .ok (0, ps) else valueOf readText d p ps
    let (n, ps) ← eval readText d e ps
    let (old, ps) ← if op = [] || d = .extended then .ok (early, ps) else valueOf readText d p ps
    let n ← if op = [] then .ok n else operate op old n
    .ok (n, assignTo p n ps)
  | .bump p up late, ps => do
    let (p, ps) ← settle readText p ps
    let (old, ps) ← valueOf readText d p ps
    let new := wrap (if up then old + 1 else old - 1)
    .ok (if late then old else new, assignTo p new ps)
  | .broken f, _ => .error f

/-- The value of a text as an expression, where values of parameters may be expressions, to a depth. -/
def evalText (d : Dialect) (depth : Nat) (s : List Char) (ps : Parameters) : Except Fault (Int × Parameters) :=
  match depth with
  | 0 => .error .tooDeep
  | depth + 1 =>
    match read d s with
    | .ok e => eval (evalText d depth) d e ps
    | .error f => .error f

/-- How deep expressions may refer to expressions. -/
def maxDepth : Nat := 1000

end OrderlyExit.Shell.Arithmetic
