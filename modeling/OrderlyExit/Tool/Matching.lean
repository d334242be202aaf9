import OrderlyExit.Shell.Regular
import OrderlyExit.Tool.Process

/-!
Programs that go by patterns: the one that picks lines, the one that edits them, and the one that reckons
with its arguments.
-/

namespace OrderlyExit.Tool

open Host (Routine)
open Shell

/-! ### Picking lines -/

/-- What lines are picked by. -/
structure Picking where
  patterns : List Regular.Expression
  ignoresCase : Bool
  inverted : Bool

/-- The patterns in an argument, as options say. -/
def Picking.of (kind : Regular.Kind) (isFixed : Bool) (a : Arguments) (texts : List ByteText) :
    Except Regular.Fault Picking := do
  let patterns ← (texts.flatMap fun t => t.splitOn '\n').mapM fun t => do
    let t := ByteText.characters t
    let e ← if isFixed then .ok (Regular.literal t) else Regular.read kind t
    let n := if a.has 'w' then .sequence .wordStart (.sequence e.node .wordEnd) else e.node
    return { e with node := if a.has 'x' then .sequence .start (.sequence n .finish) else n }
  return { patterns, ignoresCase := a.has 'i', inverted := a.has 'v' }

/-- Whether a line is picked. -/
def Picking.takes (p : Picking) (line : ByteText) : Bool :=
  (p.patterns.any fun e => (Regular.searchFrom e p.ignoresCase [] line.characters).isSome) != p.inverted

/-- The parts of a line that match. -/
def Picking.parts (p : Picking) (line : ByteText) : List ByteText :=
  let found := p.patterns.flatMap fun e => Regular.searchAll e p.ignoresCase (line.length + 1) [] line.characters
  ((found.mergeSort fun a b => a.start ≤ b.start).map fun f => ByteText.ofCharacters f.text).filter (· ≠ [])

/-- A line without its end. -/
def body (line : ByteText) : ByteText := if line.getLast? = some '\n' then line.dropLast else line

/-- How far the lines of a file have been gone over: how many there were, and how many were picked. -/
structure PickingState where
  number : Nat := 0
  picked : Nat := 0

/-- What comes of one line. -/
def pickLine (p : Picking) (a : Arguments) (front : ByteText) (most : Option Nat) (s : PickingState)
    (line : ByteText) : Step PickingState :=
  let text := body line
  let number := s.number + 1
  if p.takes text then
    let state : PickingState := { number, picked := s.picked + 1 }
    let silent := a.has 'q' || a.has 'l' || a.has 'L' || a.has 'c'
    let front := if a.has 'n' then front ++ Decimal.digits number ++ [':'] else front
    let output := if silent then []
      else if a.has 'o' then if p.inverted then [] else (p.parts text).flatMap fun t => front ++ t ++ ['\n']
      else front ++ text ++ ['\n']
    { state, output, stops := a.has 'q' || a.has 'l' || a.has 'L' || most.any (· ≤ state.picked) }
  else { state := { s with number } }

/-- Picks lines of each file; returns whether any line was picked, and whether all could be read. -/
def pickFiles (name : ByteText) (p : Picking) (a : Arguments) (titled : Bool) : List ByteText → Routine (Bool × Bool)
  | [] => pure (false, true)
  | path :: rest => do
    match ← openOperand path with
    | .error e =>
      if !a.has 's' then complainOf name path e
      let (found, _) ← pickFiles name p a titled rest
      return (found, false)
    | .ok n =>
      let shown := if path = ['-'] then "(standard input)".toList else path
      let front := if titled then shown ++ [':'] else []
      let most := (a.value? 'm').bind Decimal.value?
      let (state, _, output, failure) ←
        streamLines n (pickLine p a front most) Routine.manyRounds ({} : PickingState) [] []
      closeOperand path n
      let summary := if a.has 'q' then []
        else if a.has 'l' then if state.picked > 0 then shown ++ ['\n'] else []
        else if a.has 'L' then if state.picked = 0 then shown ++ ['\n'] else []
        else if a.has 'c' then front ++ Decimal.digits state.picked ++ ['\n'] else []
      discard <| emit name ((summary :: output).reverse.flatten)
      match failure with
      | some e => complain name (path ++ ": ".toList ++ e.description.toList)
      | none => pure ()
      if a.has 'q' && state.picked > 0 then return (true, true)
      let (found, whole) ← pickFiles name p a titled rest
      return (found || state.picked > 0, whole && failure.isNone)

/-- The options of the program that picks lines. -/
def pickingRules : List Rule :=
  [{ letter := 'q', long := "quiet" }, { letter := 'v', long := "invert-match" }, { letter := 'c', long := "count" },
   { letter := 'n', long := "line-number" }, { letter := 'i', long := "ignore-case" },
   { letter := 'E', long := "extended-regexp" }, { letter := 'F', long := "fixed-strings" },
   { letter := 'G', long := "basic-regexp" }, { letter := 'P', long := "perl-regexp" },
   { letter := 'o', long := "only-matching" }, { letter := 'x', long := "line-regexp" },
   { letter := 'w', long := "word-regexp" }, { letter := 'l', long := "files-with-matches" },
   { letter := 'L', long := "files-without-match" }, { letter := 's', long := "no-messages" },
   { letter := 'H', long := "with-filename" }, { letter := 'h', long := "no-filename" }, { letter := 'a', long := "text" },
   { letter := 'u', long := "line-buffered" }, { letter := 'e', long := "regexp", takesValue := true },
   { letter := 'm', long := "max-count", takesValue := true }]

/-- The program that picks lines, with what its patterns are by themselves. -/
def pick (kind : Regular.Kind) (isFixed : Bool) : Tool := withOptions pickingRules false 2 fun name a _ => do
  let (texts, files) := match a.values 'e', a.operands with
    | [], t :: files => ([t], files)
    | ts, files => (ts, files)
  if texts = [] then
    discard <| Routine.writeAll 2 ("Usage: grep [OPTION]... PATTERNS [FILE]...\nTry 'grep --help' for more information.\n".toList)
    return 2
  let kind := if a.has 'E' || a.has 'P' then .lenient else if a.has 'G' then .basic else kind
  match Picking.of kind (isFixed || a.has 'F') a texts with
  | .error fault =>
    complain name fault.message.toList
    return 2
  | .ok p =>
    let titled := (files.length > 1 || a.has 'H') && !a.has 'h'
    let (found, whole) ← pickFiles name p a titled (orInput files)
    return if !whole then 2 else if found then 0 else 1

def grep : Tool := pick .basic false

def egrep : Tool := pick .lenient false

def fgrep : Tool := pick .basic true

/-! ### Editing lines -/

inductive Address
  | line (n : Nat)
  | last
  | matching (e : Regular.Expression)
  /-- So many lines behind the first one; only as the second address. -/
  | offset (n : Nat)

inductive Edit
  | substitute (pattern : Regular.Expression) (replacement : List Char) (all : Bool) (which : Nat) (prints ignoresCase : Bool)
  | delete
  | deleteFirst
  | print
  | printFirst
  | quit (code : Nat) (prints : Bool)
  | number
  | append (text : ByteText)
  | insert (text : ByteText)
  | change (text : ByteText)
  | transliterate (source target : List Char)
  | hold (appends : Bool)
  | get (appends : Bool)
  | exchange
  /-- The commands up to the matching end are for chosen lines only. -/
  | block
  | blockEnd
  | nothing

structure EditCommand where
  first : Option Address := none
  second : Option Address := none
  negated : Bool := false
  edit : Edit

/-- Why a script cannot be read. -/
inductive EditFault
  | unknown (c : Char)
  | missing
  | unterminated (c : Char)
  | extra
  | malformed (f : Regular.Fault)

/-- Reads an expression of a script. -/
def readExpression (k : Regular.Kind) (s : List Char) : Except EditFault Regular.Expression :=
  (Regular.read k s).mapError .malformed

def EditFault.message : EditFault → ByteText
  | .unknown c => "unknown command: \x60".toList ++ [c, '\'']
  | .missing => "missing command".toList
  | .unterminated c => "unterminated \x60".toList ++ [c] ++ "' command".toList
  | .extra => "extra characters after command".toList
  | .malformed f => f.message.toList

/-- A part of a text up to a delimiter that is not escaped; an escaped delimiter stands for itself. Each call
has less fuel than its caller. -/
def readPart (delimiter : Char) (inSet : Bool) (fuel : Nat) (sofar : List Char) (s : List Char) :
    Option (List Char × List Char) :=
  match fuel, s with
  | 0, _ | _, [] => none
  | fuel + 1, '\\' :: c :: rest =>
    if c = delimiter && !inSet then readPart delimiter inSet fuel (c :: sofar) rest
    else readPart delimiter inSet fuel (c :: '\\' :: sofar) rest
  | fuel + 1, c :: rest =>
    if c = delimiter && !inSet then some (sofar.reverse, rest)
    else readPart delimiter (if c = '[' then true else if c = ']' then false else inSet) fuel (c :: sofar) rest

/-- The text of an expression or a replacement, and what follows its delimiter. -/
def part (delimiter : Char) (isPattern : Bool) (s : List Char) : Option (List Char × List Char) :=
  let plain := readPart delimiter false (s.length + 1) [] s
  if isPattern then plain else readReplacement (s.length + 1) [] s
where
  /-- A replacement, in which brackets mean nothing. -/
  readReplacement (fuel : Nat) (sofar s : List Char) : Option (List Char × List Char) :=
    match fuel, s with
    | 0, _ | _, [] => none
    | fuel + 1, '\\' :: c :: rest =>
      if c = delimiter then readReplacement fuel (c :: sofar) rest
      else readReplacement fuel (c :: '\\' :: sofar) rest
    | fuel + 1, c :: rest =>
      if c = delimiter then some (sofar.reverse, rest) else readReplacement fuel (c :: sofar) rest

/-- An address in front of a command. -/
def readAddress (k : Regular.Kind) (s : List Char) : Except EditFault (Option (Address × List Char)) :=
  let expression (delimiter : Char) (s : List Char) : Except EditFault (Option (Address × List Char)) :=
    match part delimiter true s with
    | some (t, rest) => do return some (.matching (← readExpression k t), rest)
    | none => .ok none
  match s with
  | '$' :: rest => .ok (some (.last, rest))
  | '/' :: rest => expression '/' rest
  | '\\' :: c :: rest => expression c rest
  | '+' :: rest =>
    let digits := rest.takeWhile Char.isDigit
    .ok (some (.offset (Decimal.value digits), rest.drop digits.length))
  | s =>
    let digits := s.takeWhile Char.isDigit
    .ok (if digits = [] then none else some (.line (Decimal.value digits), s.drop digits.length))

def skipBlanks (s : List Char) : List Char := s.dropWhile fun c => c = ' ' || c = '\t'

/-- The text of a command that puts text in, which reaches to the end of its line. -/
def readInserted (s : List Char) : ByteText × List Char :=
  let s := skipBlanks s
  let s := match s with
    | '\\' :: rest =>
      match skipBlanks rest with
      | '\n' :: rest => rest
      | rest => rest
    | s => s
  let (text, rest) := go (s.length + 1) [] s
  (text ++ ['\n'], rest)
where
  go (fuel : Nat) (sofar s : List Char) : ByteText × List Char :=
    match fuel, s with
    | 0, _ | _, [] => (sofar.reverse, [])
    | fuel + 1, '\\' :: c :: rest => go fuel (c :: sofar) rest
    | fuel + 1, c :: rest => if c = '\n' then (sofar.reverse, rest) else go fuel (c :: sofar) rest

/-- The letters behind a substitution. -/
def readFlags (pattern : Regular.Expression) (replacement s : List Char) : Edit × List Char :=
  let flags := s.takeWhile fun c => c.isDigit || c = 'g' || c = 'p' || c = 'i' || c = 'I'
  let digits := flags.filter Char.isDigit
  let ignoresCase := flags.contains 'i' || flags.contains 'I'
  (.substitute pattern replacement (flags.contains 'g') (if digits = [] then 1 else Decimal.value digits)
    (flags.contains 'p') ignoresCase, s.drop flags.length)

/-- One command without its addresses. -/
def readEdit (k : Regular.Kind) (s : List Char) : Except EditFault (Edit × List Char) :=
  match s with
  | [] => .error .missing
  | 's' :: delimiter :: rest =>
    match part delimiter true rest with
    | none => .error (.unterminated 's')
    | some (pattern, rest) =>
      match part delimiter false rest with
      | none => .error (.unterminated 's')
      | some (replacement, rest) => do
        let e ← readExpression k pattern
        return readFlags e replacement rest
  | 'y' :: delimiter :: rest =>
    match part delimiter false rest with
    | none => .error (.unterminated 'y')
    | some (source, rest) =>
      match part delimiter false rest with
      | none => .error (.unterminated 'y')
      | some (target, rest) => .ok (.transliterate source target, rest)
  | 'd' :: rest => .ok (.delete, rest)
  | 'D' :: rest => .ok (.deleteFirst, rest)
  | 'p' :: rest => .ok (.print, rest)
  | 'P' :: rest => .ok (.printFirst, rest)
  | '=' :: rest => .ok (.number, rest)
  | 'h' :: rest => .ok (.hold false, rest)
  | 'H' :: rest => .ok (.hold true, rest)
  | 'g' :: rest => .ok (.get false, rest)
  | 'G' :: rest => .ok (.get true, rest)
  | 'x' :: rest => .ok (.exchange, rest)
  | '{' :: rest => .ok (.block, rest)
  | '}' :: rest => .ok (.blockEnd, rest)
  | '#' :: rest => .ok (.nothing, rest.dropWhile (· ≠ '\n'))
  | 'a' :: rest => let (t, rest) := readInserted rest; .ok (.append t, rest)
  | 'i' :: rest => let (t, rest) := readInserted rest; .ok (.insert t, rest)
  | 'c' :: rest => let (t, rest) := readInserted rest; .ok (.change t, rest)
  | c :: rest =>
    if c = 'q' ∨ c = 'Q' then
      let rest := skipBlanks rest
      let digits := rest.takeWhile Char.isDigit
      .ok (.quit (Decimal.value digits) (c = 'q'), rest.drop digits.length)
    else .error (.unknown c)

/-- Reads a script. Each call has less fuel than its caller. -/
def readScript (k : Regular.Kind) (fuel : Nat) (s : List Char) : Except EditFault (List EditCommand) :=
  match fuel with
  | 0 => .ok []
  | fuel + 1 => do
    let s := s.dropWhile fun c => c = ' ' || c = '\t' || c = '\n' || c = ';'
    if s = [] then .ok []
    else
      let (first, s) := match ← readAddress k s with
        | some (a, rest) => (some a, skipBlanks rest)
        | none => (none, s)
      let (second, s) ← match first, s with
        | some _, ',' :: rest => do
          match ← readAddress k (skipBlanks rest) with
          | some (a, rest) => pure (some a, skipBlanks rest)
          | none => pure (none, rest)
        | _, s => pure (none, s)
      let (negated, s) := match s with
        | '!' :: rest => (true, skipBlanks rest)
        | s => (false, s)
      let (edit, s) ← readEdit k s
      let s := skipBlanks s
      match edit, s with
      | .append _, s | .insert _, s | .change _, s | .block, s | .nothing, s =>
        let more ← readScript k fuel s
        .ok ({ first, second, negated, edit } :: more)
      | edit, s =>
        match s with
        | [] => .ok [{ first, second, negated, edit }]
        | c :: _ =>
          if c = ';' ∨ c = '\n' ∨ c = '}' ∨ c = '#' then
            let more ← readScript k fuel s
            .ok ({ first, second, negated, edit } :: more)
          else .error .extra

/-- How editing stands. -/
structure EditState where
  number : Nat := 0
  /-- The line that has been read last; whether it is the last one of all is not known yet. -/
  waiting : Option ByteText := none
  held : ByteText := []
  /-- The ranges that have begun, by the numbers of their commands, with the line that ends them if it is known. -/
  ranges : List (Nat × Option Nat) := []
  code : Option Nat := none

/-- What the commands have made of a line. -/
structure Edited where
  space : ByteText
  output : ByteText := []
  queued : ByteText := []
  /-- Nothing more is done with the line, and it is not printed by itself. -/
  dropped : Bool := false
  /-- No command after this one is carried out. -/
  isOver : Bool := false
  substituted : Bool := false

/-- Whether an address fits a line. -/
def Address.fits (a : Address) (number : Nat) (isLast : Bool) (line : ByteText) : Bool :=
  match a with
  | .line n => n = number
  | .last => isLast
  | .matching e => (Regular.search e line.characters).isSome
  | .offset _ => false

/-- Whether a command is for a line, and the ranges afterwards. -/
def chooses (c : EditCommand) (i : Nat) (s : EditState) (isLast : Bool) (line : ByteText) :
    Bool × List (Nat × Option Nat) :=
  let others := s.ranges.filter (·.1 ≠ i)
  match c.first, c.second with
  | none, _ => (true, s.ranges)
  | some a, none => (a.fits s.number isLast line, s.ranges)
  | some a, some b =>
    match s.ranges.lookup i with
    | some stop =>
      let ends := match b, stop with
        | .line n, _ => decide (n ≤ s.number)
        | _, some n => decide (n ≤ s.number)
        | b, none => b.fits s.number isLast line
      (match b with
        | .line n => decide (s.number ≤ n)
        | _ => true, if ends then others else s.ranges)
    | none =>
      if a.fits s.number isLast line then
        match b with
        | .line n => (true, if s.number < n then (i, none) :: others else others)
        | .offset n => (true, if n = 0 then others else (i, some (s.number + n)) :: others)
        | _ => (true, (i, none) :: others)
      else (false, s.ranges)

/-- What a replacement comes to for a match. -/
def expandReplacement (groups : List (List Char)) : List Char → List Char
  | '\\' :: c :: rest =>
    (if c.isDigit then (groups[c.toNat - 48]?).getD [] else if c = 'n' then ['\n'] else if c = 't' then ['\t'] else [c]) ++
      expandReplacement groups rest
  | '&' :: rest => groups.headD [] ++ expandReplacement groups rest
  | c :: rest => c :: expandReplacement groups rest
  | [] => []

/-- A line with matches replaced: the one of a number, and all behind it if `all` are wanted. -/
def substituteIn (pattern : Regular.Expression) (replacement : List Char) (all : Bool) (which : Nat)
    (ignoresCase : Bool) (line : ByteText) : Option ByteText :=
  let line := line.characters
  let replacement := ByteText.characters replacement
  let found := Regular.searchAll pattern ignoresCase (line.length + 2) [] line
  let chosen := (found.drop (which - 1)).take (if all then found.length else 1)
  if chosen = [] then none
  else
    let (text, from_) := chosen.foldl (fun ((text, at_) : ByteText × Nat) f =>
      (text ++ (line.drop at_).take (f.start - at_) ++ expandReplacement f.groups replacement, f.start + f.text.length))
      (([] : ByteText), 0)
    some (ByteText.ofCharacters (text ++ line.drop from_))

def transliterate (source target : List Char) (c : Char) : Char := ((source.zip target).lookup c).getD c

/-- The commands behind the end of the block that has just begun. -/
def skipBlock (depth : Nat) : List (Nat × EditCommand) → List (Nat × EditCommand)
  | [] => []
  | (_, c) :: rest =>
    match c.edit, depth with
    | .block, d => skipBlock (d + 1) rest
    | .blockEnd, 0 => rest
    | .blockEnd, d + 1 => skipBlock d rest
    | _, d => skipBlock d rest

/-- Carries the commands out on a line. Each call has less fuel than its caller. -/
def carryOut (quiet isLast : Bool) (fuel : Nat) (s : EditState) (e : Edited) :
    List (Nat × EditCommand) → EditState × Edited
  | [] => (s, e)
  | (i, c) :: rest =>
    match fuel with
    | 0 => (s, e)
    | fuel + 1 =>
      if e.isOver || e.dropped then (s, e)
      else
        let (chosen, ranges) := chooses c i s isLast e.space
        let s := { s with ranges }
        let chosen := chosen != c.negated
        let goOn (s : EditState) (e : Edited) := carryOut quiet isLast fuel s e rest
        match c.edit, chosen with
        | .block, false => carryOut quiet isLast fuel s e (skipBlock 0 rest)
        | _, false => goOn s e
        | .block, true | .blockEnd, true | .nothing, true => goOn s e
        | .substitute pattern replacement all which prints ignoresCase, true =>
          match substituteIn pattern replacement all which ignoresCase e.space with
          | some space => goOn s { e with space, output := if prints then e.output ++ space ++ ['\n'] else e.output }
          | none => goOn s e
        | .delete, true | .deleteFirst, true => (s, { e with dropped := true })
        | .print, true => goOn s { e with output := e.output ++ e.space ++ ['\n'] }
        | .printFirst, true => goOn s { e with output := e.output ++ e.space.takeWhile (· ≠ '\n') ++ ['\n'] }
        | .quit code prints, true =>
          ({ s with code := some code }, { e with isOver := true, dropped := !prints })
        | .number, true => goOn s { e with output := e.output ++ Decimal.digits s.number ++ ['\n'] }
        | .append text, true => goOn s { e with queued := e.queued ++ text }
        | .insert text, true => goOn s { e with output := e.output ++ text }
        | .change text, true =>
          let inRange := c.second.isSome && (s.ranges.lookup i).isSome && !c.negated
          (s, { e with output := if inRange then e.output else e.output ++ text, dropped := true })
        | .transliterate source target, true => goOn s { e with space := e.space.map (transliterate source target) }
        | .hold appends, true => goOn { s with held := if appends then s.held ++ '\n' :: e.space else e.space } e
        | .get appends, true => goOn s { e with space := if appends then e.space ++ '\n' :: s.held else s.held }
        | .exchange, true => goOn { s with held := e.space } { e with space := s.held }

/-- Edits one line. -/
def editLine (commands : List (Nat × EditCommand)) (quiet isLast : Bool) (s : EditState) (line : ByteText) :
    Step EditState :=
  let s := { s with number := s.number + 1 }
  let (s, e) := carryOut quiet isLast (commands.length + 1) s { space := body line } commands
  let ending := if isLast && line.getLast? ≠ some '\n' then [] else ['\n']
  let output := e.output ++ (if quiet || e.dropped then [] else e.space ++ ending) ++ e.queued
  { state := s, output, stops := s.code.isSome }

/-- Takes in a line, which shows that the one before was not the last. -/
def editNext (commands : List (Nat × EditCommand)) (quiet : Bool) (s : EditState) (line : ByteText) : Step EditState :=
  match s.waiting with
  | none => { state := { s with waiting := some line } }
  | some before =>
    let step := editLine commands quiet false { s with waiting := none } before
    { step with state := { step.state with waiting := some line } }

def sed : Tool := withOptions
    [{ letter := 'n', long := "quiet" }, { letter := 'E', long := "regexp-extended" }, { letter := 'r' },
     { letter := 'u', long := "unbuffered" }, { letter := 's', long := "separate" },
     { letter := 'e', long := "expression", takesValue := true }] false 1 fun name a _ => do
  let (texts, files) := match a.values 'e', a.operands with
    | [], t :: files => ([t], files)
    | ts, files => (ts, files)
  if texts = [] then
    discard <| Routine.writeAll 2 "Usage: sed [OPTION]... {script-only-if-no-other-script} [input-file]...\n".toList
    return 1
  let text := (['\n'] : List Char).intercalate texts
  match readScript (if a.has 'E' || a.has 'r' then .extended else .basic) (text.length + 1) text with
  | .error fault =>
    complain name ("-e expression #1, char ".toList ++ Decimal.digits text.length ++ ": ".toList ++ fault.message)
    return 1
  | .ok script =>
    let commands := (List.range script.length).zip script
    let (state, output, code) ←
      filterLines name (editNext commands (a.has 'n')) ({} : EditState) [] 0 (orInput files)
    let (state, rest) := match state.code, state.waiting with
      | none, some line =>
        let step := editLine commands (a.has 'n') true state line
        (step.state, step.output)
      | _, _ => (state, [])
    let written ← emit name ((rest :: output).reverse.flatten)
    return match state.code with
      | some n => n
      | none => if code ≠ 0 then 2 else written

/-! ### Reckoning with arguments -/

/-- What is wrong with an expression. -/
inductive ExprFault
  | missing (after : Option ByteText)
  | unexpected (word : ByteText)
  | notInteger
  | divisionByZero
  | malformed (f : Regular.Fault)

def ExprFault.message : ExprFault → ByteText
  | .missing none => "missing operand".toList
  | .missing (some w) => "syntax error: missing argument after ".toList ++ quoted w
  | .unexpected w => "syntax error: unexpected argument ".toList ++ quoted w
  | .notInteger => "non-integer argument".toList
  | .divisionByZero => "division by zero".toList
  | .malformed f => f.message.toList

/-- Whether a value counts as nothing. -/
def isNothing (v : ByteText) : Bool :=
  v = [] || (match integer? v with
    | some n => n = 0
    | none => false)

def integerText (n : Int) : ByteText := (Decimal.signedText n).toList

def truth (b : Bool) : ByteText := if b then ['1'] else ['0']

/-- The match of a basic expression at the front of a text: its first part, or its length. -/
def matchFront (text pattern : ByteText) : Except ExprFault ByteText := do
  let e ← (Regular.read .basic pattern.characters).mapError .malformed
  return match Regular.matchAt e false ⟨[], text.characters, []⟩ with
    | some f =>
      if e.parts ≠ 0 then ByteText.ofCharacters ((f.groups[1]?).getD []) else Decimal.digits f.text.length
    | none => if e.parts ≠ 0 then [] else ['0']

/-- What an operator between two values comes to. -/
def combine (op : ByteText) (a b : ByteText) : Except ExprFault ByteText :=
  let numbers (f : Int → Int → Except ExprFault ByteText) : Except ExprFault ByteText :=
    match integer? a, integer? b with
    | some x, some y => f x y
    | _, _ => .error .notInteger
  let compare (f : Ordering → Bool) : Except ExprFault ByteText :=
    match integer? a, integer? b with
    | some x, some y => .ok (truth (f (Ord.compare x y)))
    | _, _ => .ok (truth (f (if a = b then .eq else if a < b then .lt else .gt)))
  match String.ofList op with
  | "|" => .ok (if !isNothing a then a else if isNothing b then ['0'] else b)
  | "&" => .ok (if isNothing a || isNothing b then ['0'] else a)
  | "<" => compare (· == .lt)
  | "<=" => compare (· != .gt)
  | "=" | "==" => compare (· == .eq)
  | "!=" => compare (· != .eq)
  | ">=" => compare (· != .lt)
  | ">" => compare (· == .gt)
  | "+" => numbers fun x y => .ok (integerText (x + y))
  | "-" => numbers fun x y => .ok (integerText (x - y))
  | "*" => numbers fun x y => .ok (integerText (x * y))
  | "/" => numbers fun x y => if y = 0 then .error .divisionByZero else .ok (integerText (Int.tdiv x y))
  | "%" => numbers fun x y => if y = 0 then .error .divisionByZero else .ok (integerText (Int.tmod x y))
  | _ => matchFront a b

/-- The operators, those that bind least first. -/
def operators : List (List String) :=
  [["|"], ["&"], ["<", "<=", "=", "==", "!=", ">=", ">"], ["+", "-"], ["*", "/", "%"], [":"]]

mutual

/-- A value. Each call has less fuel than its caller. -/
def readValue (fuel : Nat) (previous : Option ByteText) (args : List ByteText) :
    Except ExprFault (ByteText × List ByteText) :=
  match fuel, args with
  | 0, _ | _, [] => .error (.missing previous)
  | fuel + 1, w :: rest =>
    let words := rest.length
    match String.ofList w with
    | "(" => do
      let (v, rest) ← readLevel fuel 0 (some w) rest
      match rest with
      | [')'] :: rest => .ok (v, rest)
      | _ => .error (.missing (some v))
    | ")" => .error (.unexpected w)
    | "length" =>
      if words = 0 then .ok (w, rest)
      else do
        let (v, rest) ← readValue fuel (some w) rest
        .ok (Decimal.digits v.length, rest)
    | "match" => do
      let (a, rest) ← readValue fuel (some w) rest
      let (b, rest) ← readValue fuel (some a) rest
      return (← matchFront a b, rest)
    | "index" => do
      let (a, rest) ← readValue fuel (some w) rest
      let (b, rest) ← readValue fuel (some a) rest
      let front := a.takeWhile fun c => !b.contains c
      .ok (Decimal.digits (if front.length = a.length then 0 else front.length + 1), rest)
    | "substr" => do
      let (a, rest) ← readValue fuel (some w) rest
      let (b, rest) ← readValue fuel (some a) rest
      let (c, rest) ← readValue fuel (some b) rest
      match integer? b, integer? c with
      | some start, some size =>
        .ok (if start ≤ 0 ∨ size ≤ 0 then [] else (a.drop (start.toNat - 1)).take size.toNat, rest)
      | _, _ => .ok ([], rest)
    | _ => .ok (w, rest)

/-- Values with operators of a level and those that bind more. -/
def readLevel (fuel : Nat) (level : Nat) (previous : Option ByteText) (args : List ByteText) :
    Except ExprFault (ByteText × List ByteText) :=
  match fuel with
  | 0 => .error (.missing previous)
  | fuel + 1 =>
    match operators[level]? with
    | none => readValue fuel previous args
    | some ops => do
      let (v, rest) ← readLevel fuel (level + 1) previous args
      readMore fuel level ops v rest

/-- More operators of a level behind a value. -/
def readMore (fuel : Nat) (level : Nat) (ops : List String) (v : ByteText) (args : List ByteText) :
    Except ExprFault (ByteText × List ByteText) :=
  match fuel, args with
  | 0, _ | _, [] => .ok (v, args)
  | fuel + 1, op :: rest =>
    if ops.any (·.toList = op) then do
      let (w, rest) ← readLevel fuel (level + 1) (some op) rest
      let v ← combine op v w
      readMore fuel level ops v rest
    else .ok (v, args)

end

def expr : Tool := fun args _ => do
  let name := args.headD []
  let rest := if args[1]? = some ['-', '-'] then args.drop 2 else args.drop 1
  match readLevel (16 * rest.length + 16) 0 none rest with
  | .ok (v, []) =>
    let written ← emit name (v ++ ['\n'])
    return if written ≠ 0 then 3 else if isNothing v then 1 else 0
  | .ok (_, w :: _) =>
    complain name (ExprFault.message (.unexpected w))
    return 2
  | .error (.missing none) => misuse name "missing operand".toList 2
  | .error fault =>
    complain name fault.message
    return 2

end OrderlyExit.Tool
