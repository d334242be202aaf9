/-!
The characters of a TOML document, its blanks, comments and line ends, its strings and its keys.

Every reader takes what it reads off the front of a text, returns the rest, and answers nothing where
its grammar does not apply. Line ends have been unified first: a carriage return before a line feed is
part of the line end, and any other one belongs to no token.
-/

namespace OrderlyExit.Toml

/-! ### Characters -/

def isBlank (c : Char) : Bool := c == ' ' || c == '\t'

def isAscii (c : Char) : Bool := c.toNat < 0x80

/-- What a comment may hold: a tab, and all that is no control character of ASCII. -/
def isComment (c : Char) : Bool := c == '\t' || (' ' ≤ c && c.toNat ≠ 0x7F)

/-- What a basic string holds as it is. -/
def isBasic (c : Char) : Bool := isComment c && c != '"' && c != '\\'

/-- What a literal string holds. -/
def isLiteral (c : Char) : Bool := isComment c && c != '\''

/-- What a key without quotes consists of. -/
def isBare (c : Char) : Bool := isAscii c && c.isAlphanum || c == '_' || c == '-'

/-- The value of a hexadecimal digit in either case. -/
def hexValue? (c : Char) : Option Nat :=
  if c.isDigit then some (c.toNat - 48)
  else if 'a' ≤ c ∧ c ≤ 'f' then some (c.toNat - 87)
  else if 'A' ≤ c ∧ c ≤ 'F' then some (c.toNat - 55)
  else none

/-- The character with a number, if that number is one of a character. -/
def charOf? (n : Nat) : Option Char := if n.isValidChar then some (Char.ofNat n) else none

/-- The character that a backslash and this one stand for. -/
def shortEscape? (c : Char) : Option Char :=
  if c = 'b' then some '\x08'
  else if c = 't' then some '\t'
  else if c = 'n' then some '\n'
  else if c = 'f' then some '\x0C'
  else if c = 'r' then some '\r'
  else if c = '"' then some '"'
  else if c = '\\' then some '\\'
  else none

/-! ### Blanks, comments, line ends -/

/-- A text with a line feed alone at the end of each line. -/
def unifyLineEnds : List Char → List Char
  | [] => []
  | c :: rest => if c = '\r' ∧ rest.head? = some '\n' then unifyLineEnds rest else c :: unifyLineEnds rest

def skipBlanks (s : List Char) : List Char := s.dropWhile isBlank

/-- The rest of a line that holds nothing more than blanks and a comment. -/
def lineEnd? (s : List Char) : Option (List Char) :=
  let s := skipBlanks s
  let s := if s.head? = some '#' then s.dropWhile isComment else s
  match s with
  | [] => some []
  | c :: rest => if c = '\n' then some rest else none

/-- What follows blanks, line ends and comments; `inComment` says that a comment has begun. -/
def skipFiller (inComment : Bool) : List Char → List Char
  | [] => []
  | c :: rest =>
    if c = '\n' then skipFiller false rest
    else if inComment then if isComment c then skipFiller true rest else c :: rest
    else if isBlank c then skipFiller false rest
    else if c = '#' then skipFiller true rest
    else c :: rest

/-! ### Strings -/

/-- Where in a string the reader is. -/
inductive StringMode
  | plain
  /-- After a backslash. -/
  | escape
  /-- In a character's number, with digits still to come and the value so far. -/
  | number (left value : Nat)
  /-- After a backslash and blanks, before the end of the line. -/
  | fold
  /-- In the white space that a folded line swallows. -/
  | swallow
  deriving DecidableEq

/-- What one character of a string does. -/
inductive StringStep
  | emit (c : Char) (next : StringMode)
  | skip (next : StringMode)
  /-- The string ends, with some last characters, before the given rest. -/
  | close (last rest : List Char)
  | reject

/-- The content of a string, by the rule for its single characters, and what follows the string. -/
def scanString (step : StringMode → Char → List Char → StringStep) :
    StringMode → List Char → Option (List Char × List Char)
  | _, [] => none
  | mode, c :: rest =>
    match step mode c rest with
    | .emit d next => (scanString step next rest).map fun (cs, after) => (d :: cs, after)
    | .skip next => scanString step next rest
    | .close last after => some (last, after)
    | .reject => none

/-- The escapes that every basic string knows. -/
def escapeStep (c : Char) : StringStep :=
  if c = 'u' then .skip (.number 4 0)
  else if c = 'U' then .skip (.number 8 0)
  else match shortEscape? c with
    | some d => .emit d .plain
    | none => .reject

/-- A digit of a character's number. -/
def numberStep (left value : Nat) (c : Char) : StringStep :=
  match hexValue? c with
  | none => .reject
  | some d =>
    if left ≤ 1 then
      match charOf? (value * 16 + d) with
      | some e => .emit e .plain
      | none => .reject
    else .skip (.number (left - 1) (value * 16 + d))

/-- A basic string on one line. -/
def basicStep (mode : StringMode) (c : Char) (rest : List Char) : StringStep :=
  match mode with
  | .escape => escapeStep c
  | .number left value => numberStep left value c
  | _ =>
    if c = '"' then .close [] rest
    else if c = '\\' then .skip .escape
    else if isBasic c then .emit c .plain
    else .reject

/-- A literal string on one line. -/
def literalStep (_ : StringMode) (c : Char) (rest : List Char) : StringStep :=
  if c = '\'' then .close [] rest else if isLiteral c then .emit c .plain else .reject

/-- The end of a string between triple quotes: the last three of a run of quotes close it, and up to
two before them belong to it. -/
def tripleEnd? (quote : Char) (s : List Char) : Option (List Char × List Char) :=
  let run := min 5 (s.takeWhile (· == quote)).length
  if run < 3 then none else some (List.replicate (run - 3) quote, s.drop run)

/-- A basic string of several lines. -/
def tripleBasicStep (mode : StringMode) (c : Char) (rest : List Char) : StringStep :=
  match mode with
  | .escape =>
    if c = '\n' then .skip .swallow else if isBlank c then .skip .fold else escapeStep c
  | .fold => if c = '\n' then .skip .swallow else if isBlank c then .skip .fold else .reject
  | .number left value => numberStep left value c
  | mode =>
    if mode = .swallow ∧ (c = '\n' ∨ isBlank c = true) then .skip .swallow
    else if c = '"' then
      match tripleEnd? '"' (c :: rest) with
      | some (last, after) => .close last after
      | none => .emit c .plain
    else if c = '\\' then .skip .escape
    else if isBasic c ∨ c = '\n' then .emit c .plain
    else .reject

/-- A literal string of several lines. -/
def tripleLiteralStep (_ : StringMode) (c : Char) (rest : List Char) : StringStep :=
  if c = '\'' then
    match tripleEnd? '\'' (c :: rest) with
    | some (last, after) => .close last after
    | none => .emit c .plain
  else if isLiteral c ∨ c = '\n' then .emit c .plain
  else .reject

/-- A text without the line end that it begins with. -/
def dropLineFeed (s : List Char) : List Char := if s.head? = some '\n' then s.drop 1 else s

/-- A string on one line. -/
def readLineString? : List Char → Option (List Char × List Char)
  | [] => none
  | c :: rest =>
    if c = '"' then scanString basicStep .plain rest
    else if c = '\'' then scanString literalStep .plain rest
    else none

/-- A string of any form. -/
def readString? (s : List Char) : Option (List Char × List Char) :=
  match ['"', '"', '"'].isPrefixOf? s with
  | some rest => scanString tripleBasicStep .plain (dropLineFeed rest)
  | none =>
    match ['\'', '\'', '\''].isPrefixOf? s with
    | some rest => scanString tripleLiteralStep .plain (dropLineFeed rest)
    | none => readLineString? s

/-! ### Keys -/

/-- A path of keys with dots between them. -/
structure KeyPath where
  parents : List String
  last : String
  deriving DecidableEq, Repr

/-- One key, in quotes or bare. -/
def readKey? (s : List Char) : Option (String × List Char) :=
  match s.takeWhile isBare with
  | [] => (readLineString? s).map fun (cs, rest) => (String.ofList cs, rest)
  | cs => some (String.ofList cs, s.dropWhile isBare)

/-- How many keys a path may have. -/
def maxPath : Nat := 79

/-- A path of at most `limit` keys, with blanks around each. -/
def readPath? (limit : Nat) (s : List Char) : Option (KeyPath × List Char) :=
  match limit with
  | 0 => none
  | limit + 1 =>
    match readKey? (skipBlanks s) with
    | none => none
    | some (key, rest) =>
      let rest := skipBlanks rest
      if rest.head? = some '.' then
        (readPath? limit (rest.drop 1)).map fun (path, rest) => (⟨key :: path.parents, path.last⟩, rest)
      else some (⟨[], key⟩, rest)

end OrderlyExit.Toml
