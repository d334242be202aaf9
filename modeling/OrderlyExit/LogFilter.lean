import OrderlyExit.Settings
import OrderlyExit.Text.Alphanumeric
import OrderlyExit.Text.Quoted
import OrderlyExit.Text.Utf8

/-!
Filters on reports: which level of detail is let through, in all or for one target.

A filter is written as directives with commas between them, `level` or `target=level`. Of two
directives for one target the later one counts, and the most specific directive comes first.

Where a directive is cut is counted in bytes without the white space around it, but what is cut still has it.
So a cut may fall inside of a character, and then there is no filter at all.
-/

namespace OrderlyExit

/-- How much detail is let through. -/
inductive Detail
  | off
  | error
  | warn
  | info
  | debug
  | trace
  deriving DecidableEq, Repr, Inhabited

namespace Detail

def all : List Detail := [.off, .error, .warn, .info, .debug, .trace]

def name : Detail → String
  | .off => "off"
  | .error => "error"
  | .warn => "warn"
  | .info => "info"
  | .debug => "debug"
  | .trace => "trace"

/-- The place of a level among all levels; more detail is higher. -/
def rank : Detail → Nat
  | .off => 0
  | .error => 1
  | .warn => 2
  | .info => 3
  | .debug => 4
  | .trace => 5

/-- The level that lets more through. -/
def max (a b : Detail) : Detail := if a.rank < b.rank then b else a

/-- The level of a rank; a plus sign may stand in front of the digits. -/
def ofRank? (cs : List Char) : Option Detail := do
  let n ← Decimal.value? (if cs.head? = some '+' then cs.drop 1 else cs)
  all[n]?

/-- Reads a level, given by its rank or by its name, in which the case of ASCII letters does not matter. -/
def parse? (s : String) : Option Detail :=
  (ofRank? s.toList).or (all.find? fun d => d.name = Settings.lowerCase s)

end Detail

/-- A level for one target, or for everything. -/
structure Directive where
  target : Option String
  level : Detail
  deriving DecidableEq, Repr

namespace Directive

def text (d : Directive) : String :=
  match d.target with
  | some target => target ++ "=" ++ d.level.name
  | none => d.level.name

/-- Which end of a part a cut is. -/
inductive CutSide
  | start
  | stop
  deriving DecidableEq, Repr

/-- A cut inside of a character. -/
structure SplitCharacter where
  side : CutSide
  /-- The place of the cut and that of the character, in bytes. -/
  place : Nat
  begins : Nat
  character : Char
  deriving DecidableEq, Repr

def SplitCharacter.message (f : SplitCharacter) : String :=
  let side := match f.side with
    | .start => "start"
    | .stop => "end"
  side ++ " byte index " ++ Decimal.text f.place ++ " is not a char boundary; it is inside '" ++
    String.ofList (Quoted.escape f.character) ++ "' (bytes " ++ Decimal.text f.begins ++ ".." ++
    Decimal.text (f.begins + (Utf8.encode [f.character]).length) ++ " of string)"

/-- Why a text is no directive. -/
inductive Refusal
  | malformed
  | split (f : SplitCharacter)
  deriving DecidableEq, Repr

/-- Cuts a text that begins at a place at another place, both in bytes. -/
def cut (side : CutSide) (place sofar : Nat) : List Char → Except Refusal (List Char × List Char)
  | [] => .ok ([], [])
  | c :: cs =>
    if place ≤ sofar then .ok ([], c :: cs)
    else if place < sofar + (Utf8.encode [c]).length then .error (.split ⟨side, place, sofar, c⟩)
    else (cut side place (sofar + (Utf8.encode [c]).length) cs).map fun (front, rest) => (c :: front, rest)

/-- Targets begin with a letter or a numeral of any script, or with a mark of those in paths of names. -/
def isTargetStart (c : Char) : Bool := c == '_' || c == ':' || c == '-' || Alphanumeric.contains c

/-- Reads a level, or a target without a level, which lets everything of it through. -/
def ofLevelOrTarget (cs : List Char) : Directive :=
  match Detail.parse? (String.ofList cs) with
  | some level => ⟨none, level⟩
  | none => ⟨some (String.ofList cs), .trace⟩

/-- White space of any kind. -/
def isSpace (c : Char) : Bool :=
  c.isWhitespace || c == '\x0b' || c == '\x0c' || c == '\u0085' || c == '\u00a0' || c == '\u1680' ||
    ('\u2000' ≤ c && c ≤ '\u200a') || c == '\u2028' || c == '\u2029' || c == '\u202f' || c == '\u205f' || c == '\u3000'

/-- A text without the white space around it. -/
def trim (cs : List Char) : List Char := ((cs.dropWhile isSpace).reverse.dropWhile isSpace).reverse

/-- The place of the first equals sign, in bytes. -/
def signPlace? (cs : List Char) : Option Nat :=
  if cs.contains '=' then some (Utf8.encode (cs.takeWhile (· ≠ '='))).length else none

/-- Reads a directive. What comes before the first equals sign is the target, and what comes after it the
level. The sign's place is counted without white space around the directive, the parts are cut with it. -/
def parse (cs : List Char) : Except Refusal Directive := do
  if !((trim cs).head?.any isTargetStart) then throw .malformed
  match signPlace? (trim cs) with
  | none => return ofLevelOrTarget cs
  | some place =>
    let (target, _) ← cut .stop place 0 cs
    match ← cut .start (place + 1) 0 cs with
    | (_, []) => return ⟨some (String.ofList target), .trace⟩
    | (_, level) =>
      match Detail.parse? (String.ofList level) with
      | some level => return ⟨some (String.ofList target), level⟩
      | none => throw .malformed

/-- Whether `a` comes before `b`: a target comes before none, a longer one before a shorter one, by its
bytes, and of two equally long ones the greater one is first. -/
def isBefore (a b : Directive) : Bool :=
  match a.target, b.target with
  | none, _ => false
  | some _, none => true
  | some s, some t => t.utf8ByteSize < s.utf8ByteSize || (t.utf8ByteSize == s.utf8ByteSize && t < s)

/-- A list of directives, most specific first, with one more. -/
def insert (d : Directive) : List Directive → List Directive
  | [] => [d]
  | e :: rest =>
    if d.target = e.target then d :: rest
    else if d.isBefore e then d :: e :: rest
    else e :: insert d rest

end Directive

structure LogFilter where
  /-- The most specific first. -/
  directives : List Directive := []
  /-- No report with more detail than this passes. -/
  maxLevel : Detail := .off
  deriving DecidableEq, Repr, Inhabited

namespace LogFilter

def add (f : LogFilter) (d : Directive) : LogFilter := ⟨d.insert f.directives, f.maxLevel.max d.level⟩

def ofDirectives (ds : List Directive) : LogFilter := ds.foldl add {}

def text (f : LogFilter) : String := ",".intercalate (f.directives.map Directive.text)

/-- The directives in a text, without empty ones. -/
def pieces (s : String) : List (List Char) := (s.toList.splitOn ',').filter (· ≠ [])

/-- Reads a filter; a directive that cannot be read spoils it. -/
def parse (s : String) : Except Directive.Refusal LogFilter := return ofDirectives (← (pieces s).mapM Directive.parse)

/-- The directives that can be read. -/
def readable : List (List Char) → Except Directive.SplitCharacter (List Directive)
  | [] => .ok []
  | piece :: rest =>
    match Directive.parse piece with
    | .ok d => (readable rest).map (d :: ·)
    | .error .malformed => readable rest
    | .error (.split f) => .error f

/-- Reads a filter and leaves out what cannot be read; errors pass if nothing else is left. -/
def parseLossy (s : String) : Except Directive.SplitCharacter LogFilter :=
  (readable (pieces s)).map fun
    | [] => ofDirectives [⟨none, .error⟩]
    | ds => ofDirectives ds

/-- The filter that is asked for, if it can be read, or else the one for a default level. -/
def choose (asked : Option String) (defaultLevel : String) : Except Directive.SplitCharacter LogFilter :=
  match asked.map parse with
  | some (.ok f) => .ok f
  | some (.error (.split f)) => .error f
  | _ => parseLossy (Settings.lowerCase defaultLevel)

end LogFilter

end OrderlyExit
