import OrderlyExit.Shell.Pattern
import OrderlyExit.Text.Decimal

/-!
Regular expressions of the basic and the extended kind: reading them, and finding what they match.

A matcher takes a place in a text and what has to follow, and goes back to try something else when that
fails. Repetitions take as much as they can, and of the matches that begin first the longest one counts.
-/

namespace OrderlyExit.Shell.Regular

inductive Kind
  | basic
  | extended
  /-- The extended kind in which repetitions and counts that are out of place are no faults. -/
  | lenient
  deriving DecidableEq

/-- What is wrong with an expression. -/
inductive Fault
  | unmatchedBracket
  | unmatchedOpening
  | unmatchedClosing
  | unmatchedBrace
  | badCounts
  | badRange
  | badClass
  | badReference
  | nothingToRepeat
  | trailingBackslash
  deriving DecidableEq, Repr

def Fault.message : Fault → String
  | .unmatchedBracket => "Unmatched [, [^, [:, [., or [="
  | .unmatchedOpening => "Unmatched ( or \\("
  | .unmatchedClosing => "Unmatched ) or \\)"
  | .unmatchedBrace => "Unmatched \\\x7b"
  | .badCounts => "Invalid content of \\\x7b\\\x7d"
  | .badRange => "Invalid range end"
  | .badClass => "Invalid character class name"
  | .badReference => "Invalid back reference"
  | .nothingToRepeat => "Invalid preceding regular expression"
  | .trailingBackslash => "Trailing backslash"

inductive Node
  | empty
  | char (c : Char)
  | any
  | set (negated : Bool) (members : List Pattern.Member)
  | start
  | finish
  /-- A boundary of a word: its beginning, its end, or either. -/
  | wordStart
  | wordEnd
  | wordEdge (there : Bool)
  /-- A part whose match is remembered under a number. -/
  | group (n : Nat) (body : Node)
  /-- What the part of a number has matched. -/
  | again (n : Nat)
  | sequence (a b : Node)
  | choice (a b : Node)
  | repetition (body : Node) (least : Nat) (most : Option Nat)
  deriving Inhabited

/-! ### Matching -/

/-- A place in a text. -/
structure Place where
  /-- The text in front, the last character first. -/
  before : List Char
  rest : List Char
  groups : List (Nat × List Char) := []

def Place.next (p : Place) : Option (Char × Place) :=
  match p.rest with
  | c :: rest => some (c, { p with before := c :: p.before, rest })
  | [] => none

/-- The place so many characters further on. -/
def Place.skip (p : Place) (n : Nat) : Place :=
  { p with before := (p.rest.take n).reverse ++ p.before, rest := p.rest.drop n }

def isWordChar (c : Char) : Bool := c.isAlphanum || c == '_'

def Place.afterWord (p : Place) : Bool := p.before.head?.any isWordChar

def Place.beforeWord (p : Place) : Bool := p.rest.head?.any isWordChar

/-- What has to follow a match. -/
abbrev Follow := Place → Option Place

/-- Repeats a matcher as often as possible. Each round has less fuel than the one before. -/
def repeated (one : Place → Follow → Option Place) (fuel least : Nat) (most : Option Nat) (p : Place) (k : Follow) :
    Option Place :=
  match fuel with
  | 0 => if least = 0 then k p else none
  | fuel + 1 =>
    let more : Option Place :=
      if most = some 0 then none
      else one p fun q =>
        if q.rest.length = p.rest.length ∧ least = 0 then none
        else repeated one fuel (least - 1) (most.map (· - 1)) q k
    match more with
    | some found => some found
    | none => if least = 0 then k p else none

def Node.run (n : Node) (fold : Char → Char) (p : Place) (k : Follow) : Option Place :=
  match n with
  | .empty => k p
  | .char c => p.next.bind fun (d, q) => if fold c = fold d then k q else none
  | .any => p.next.bind fun (_, q) => k q
  | .set negated ms =>
    p.next.bind fun (c, q) =>
      if (ms.any fun m => m.contains c || m.contains (fold c) || m.contains c.toUpper && fold 'A' = 'a') != negated then k q
      else none
  | .start => if p.before.isEmpty then k p else none
  | .finish => if p.rest.isEmpty then k p else none
  | .wordStart => if !p.afterWord && p.beforeWord then k p else none
  | .wordEnd => if p.afterWord && !p.beforeWord then k p else none
  | .wordEdge there => if (p.afterWord != p.beforeWord) = there then k p else none
  | .group i body =>
    body.run fold p fun q =>
      let text := p.rest.take (p.rest.length - q.rest.length)
      k { q with groups := (i, text) :: q.groups.filter (·.1 ≠ i) }
  | .again i =>
    let text := (p.groups.lookup i).getD []
    if text.isPrefixOf p.rest then k (p.skip text.length) else none
  | .sequence a b => a.run fold p fun q => b.run fold q k
  | .choice a b =>
    match a.run fold p k with
    | some found => some found
    | none => b.run fold p k
  | .repetition body least most => repeated (body.run fold) (p.rest.length + least + 1) least most p k

/-! ### Reading -/

/-- The state of reading: what has been read of, what is left, and the first fault. -/
structure Reader where
  /-- How many parts have begun. -/
  groups : Nat := 0
  /-- The parts that have ended. -/
  ended : List Nat := []
  /-- How many parts it is inside of. -/
  depth : Nat := 0
  rest : List Char
  fault : Option Fault := none

/-- The reader after a fault; only the first one counts. -/
def Reader.refuse (r : Reader) (f : Fault) : Reader := { r with fault := r.fault.or (some f) }

/-- The largest number of repetitions. -/
def maxCount : Nat := 32767

/-- The counts of a repetition behind its opening brace: the least, the most if there is one, and what follows
the closing brace. -/
def readCounts (k : Kind) (s : List Char) : Except Fault (Nat × Option Nat × List Char) :=
  let low := s.takeWhile Char.isDigit
  let rest := s.drop low.length
  let least := Decimal.value low
  let (most, rest) := match rest with
    | ',' :: rest =>
      let high := rest.takeWhile Char.isDigit
      (if high = [] then none else some (Decimal.value high), rest.drop high.length)
    | rest => (some least, rest)
  let closing := if k = .basic then ['\\', '}'] else ['}']
  if low = [] ∧ s.head? ≠ some ',' then .error (if s = [] then .unmatchedBrace else .badCounts)
  else if closing.isPrefixOf rest then
    if most.any (fun m => m < least || maxCount < m) || maxCount < least then .error .badCounts
    else .ok (least, most, rest.drop closing.length)
  else .error (if rest = [] then .unmatchedBrace else .badCounts)

/-- The repetition that stands in front of a text, and what follows it. -/
def repetition? (k : Kind) (s : List Char) : Option (Except Fault (Nat × Option Nat × List Char)) :=
  let mark? : Option (Char × List Char) := match k, s with
    | .basic, '\\' :: c :: rest => if "+?\x7b".toList.contains c then some (c, rest) else none
    | .basic, '*' :: rest => some ('*', rest)
    | .basic, _ => none
    | _, c :: rest => if "*+?\x7b".toList.contains c then some (c, rest) else none
    | _, [] => none
  match mark? with
  | some ('*', rest) => some (.ok (0, none, rest))
  | some ('+', rest) => some (.ok (1, none, rest))
  | some ('?', rest) => some (.ok (0, some 1, rest))
  | some (_, rest) =>
    match readCounts k rest with
    | .ok counts => some (.ok counts)
    | .error f => if k = .lenient then none else some (.error f)
  | none => none

/-- Whether a node stands for a place, which cannot be repeated. -/
def Node.isPlace : Node → Bool
  | .start | .finish | .wordStart | .wordEnd | .wordEdge _ => true
  | _ => false

/-- A node with the repetitions behind it. Each call has less fuel than its caller. -/
def withRepetitions (k : Kind) (fuel : Nat) (n : Node) (r : Reader) : Node × Reader :=
  match fuel with
  | 0 => (n, r)
  | fuel + 1 =>
    if n.isPlace && k ≠ .lenient then (n, r)
    else
      match repetition? k r.rest with
      | some (.ok (low, high, rest)) => withRepetitions k fuel (.repetition n low high) { r with rest }
      | some (.error f) => (n, { r.refuse f with rest := [] })
      | none => (n, r)

/-- A set of characters after its opening bracket. -/
def readSet (s : List Char) : Except Fault (Node × List Char) :=
  let negated := s.head? = some '^'
  let body := (if negated then s.drop 1 else s).map fun c => ({ char := c, quoted := false } : Letter)
  match Pattern.members .extended true (body.length + 1) body with
  | none => .error .unmatchedBracket
  | some (ms, rest) =>
    let unknown (m : Pattern.Member) : Bool := match m with
      | .named name _ => !Pattern.classNames.any (·.toList = name)
      | .range .. => false
    let reversed (m : Pattern.Member) : Bool := match m with
      | .range first last => decide (last < first)
      | .named .. => false
    if ms.any unknown then .error .badClass
    else if ms.any reversed then .error .badRange
    else .ok (.set negated ms, rest.map (·.char))

/-- What a letter behind a backslash means, if it does not stand for itself. -/
def escaped? (c : Char) : Option Node :=
  let word : List Pattern.Member := [.named "alnum".toList true, .range '_' '_']
  let space : List Pattern.Member := [.named "space".toList true]
  match c with
  | 'w' => some (.set false word)
  | 'W' => some (.set true word)
  | 's' => some (.set false space)
  | 'S' => some (.set true space)
  | '<' => some .wordStart
  | '>' => some .wordEnd
  | 'b' => some (.wordEdge true)
  | 'B' => some (.wordEdge false)
  | 'n' => some (.char '\n')
  | 't' => some (.char '\t')
  | c => if '1' ≤ c ∧ c ≤ '9' then some (.again (c.toNat - 48)) else none

/-- What follows a mark of the kind: a character, behind a backslash in the basic kind. -/
def after? (k : Kind) (mark : Char) (s : List Char) : Option (List Char) :=
  match k, s with
  | .basic, '\\' :: c :: rest => if c = mark then some rest else none
  | .basic, _ => none
  | _, c :: rest => if c = mark then some rest else none
  | _, [] => none

/-- Whether a part ends here. -/
def atEnd (k : Kind) (depth : Nat) (s : List Char) : Bool :=
  s = [] || (after? k '|' s).isSome || ((depth ≠ 0 || k ≠ .extended) && (after? k ')' s).isSome)

mutual

/-- Alternatives. Each call has less fuel than its caller. -/
def readChoice (k : Kind) (fuel : Nat) (r : Reader) : Node × Reader :=
  match fuel with
  | 0 => (.empty, r)
  | fuel + 1 =>
    let (first, r) := readSequence k fuel true r
    match after? k '|' r.rest with
    | some rest =>
      let (second, r) := readChoice k fuel { r with rest }
      (.choice first second, r)
    | none => (first, r)

def readSequence (k : Kind) (fuel : Nat) (first : Bool) (r : Reader) : Node × Reader :=
  match fuel with
  | 0 => (.empty, r)
  | fuel + 1 =>
    if atEnd k r.depth r.rest then (.empty, r)
    else
      let (n, r) := readAtom k fuel first r
      let (n, r) := withRepetitions k (r.rest.length + 1) n r
      let (more, r) := readSequence k fuel (first && k = .basic && n.isPlace) r
      (.sequence n more, r)

def readAtom (k : Kind) (fuel : Nat) (first : Bool) (r : Reader) : Node × Reader :=
  match fuel with
  | 0 => (.empty, { r with rest := r.rest.drop 1 })
  | fuel + 1 =>
    match after? k '(' r.rest with
    | some rest =>
      let n := r.groups + 1
      let (body, inside) := readChoice k fuel { r with groups := n, depth := r.depth + 1, rest }
      let whole := { inside with depth := r.depth, ended := n :: inside.ended }
      match after? k ')' inside.rest with
      | some rest => (.group n body, { whole with rest })
      | none => (.group n body, { whole.refuse .unmatchedOpening with rest := [] })
    | none =>
      match k, r.rest with
      | _, [] => (.empty, r)
      | _, '.' :: rest => (.any, { r with rest })
      | _, '[' :: rest =>
        match readSet rest with
        | .ok (n, rest) => (n, { r with rest })
        | .error f => (.empty, { r.refuse f with rest := [] })
      | .basic, '^' :: rest => (if first then .start else .char '^', { r with rest })
      | .basic, '$' :: rest => (if atEnd k r.depth rest then .finish else .char '$', { r with rest })
      | _, '^' :: rest => (.start, { r with rest })
      | _, '$' :: rest => (.finish, { r with rest })
      | _, ['\\'] => (.empty, { r.refuse .trailingBackslash with rest := [] })
      | _, '\\' :: c :: rest =>
        let misplaced := k = .basic && c = '{'
        let missing := c.isDigit && c ≠ '0' && !r.ended.contains (c.toNat - 48)
        let r := if misplaced then r.refuse .nothingToRepeat else if missing then r.refuse .badReference else r
        ((escaped? c).getD (.char c), { r with rest })
      | .extended, c :: rest =>
        let r := if "*+?\x7b".toList.contains c then r.refuse .nothingToRepeat else r
        (.char c, { r with rest })
      | .lenient, c :: rest => (if "*+?".toList.contains c then .empty else .char c, { r with rest })
      | .basic, c :: rest => (.char c, { r with rest })

end

/-- An expression, with the number of its parts. -/
structure Expression where
  node : Node
  parts : Nat

/-- Reads an expression. -/
def read (k : Kind) (s : List Char) : Except Fault Expression :=
  let (node, r) := readChoice k (8 * s.length + 8) { rest := s }
  match r.fault with
  | some f => .error f
  | none => if r.rest = [] then .ok ⟨node, r.groups⟩ else .error .unmatchedClosing

/-- The expression that matches a text and nothing else. -/
def literal (text : List Char) : Expression := ⟨text.foldr (fun c n => .sequence (.char c) n) .empty, 0⟩

/-! ### Finding -/

/-- What an expression has matched: where it begins, and the texts of the whole and of its parts. -/
structure Found where
  start : Nat
  groups : List (List Char)
  deriving Repr

def Found.text (f : Found) : List Char := f.groups.headD []

/-- How cases are told apart: not at all, or they are. -/
def folding (ignoresCase : Bool) (c : Char) : Char := if ignoresCase then LetterCase.small c else c

/-- The longest match that begins at a place, if there is one longer than `sofar`. Each call has less fuel than
its caller. -/
def longest (n : Node) (ignoresCase : Bool) (p : Place) (fuel : Nat) (sofar : Option Place) : Option Place :=
  match fuel with
  | 0 => sofar
  | fuel + 1 =>
    let isLonger (q : Place) : Bool := sofar.all (q.rest.length < ·.rest.length)
    match n.run (folding ignoresCase) p fun q => if isLonger q then some q else none with
    | some q => if q.rest = [] then some q else longest n ignoresCase p fuel (some q)
    | none => sofar

/-- The match that begins at a place. -/
def matchAt (e : Expression) (ignoresCase : Bool) (p : Place) : Option Found :=
  (longest e.node ignoresCase p (p.rest.length + 2) none).map fun q =>
    let whole := p.rest.take (p.rest.length - q.rest.length)
    ⟨p.before.length, whole :: (List.range e.parts).map fun i => (q.groups.lookup (i + 1)).getD []⟩

/-- The first match in the rest of a text. -/
def searchFrom (e : Expression) (ignoresCase : Bool) (before : List Char) : List Char → Option Found
  | [] => matchAt e ignoresCase ⟨before, [], []⟩
  | c :: rest =>
    match matchAt e ignoresCase ⟨before, c :: rest, []⟩ with
    | some found => some found
    | none => searchFrom e ignoresCase (c :: before) rest

/-- The first match in a text. -/
def search (e : Expression) (s : List Char) : Option Found := searchFrom e false [] s

/-- All matches in a text, one behind the other. Each call has less fuel than its caller. -/
def searchAll (e : Expression) (ignoresCase : Bool) (fuel : Nat) (before rest : List Char) : List Found :=
  match fuel with
  | 0 => []
  | fuel + 1 =>
    match searchFrom e ignoresCase before rest with
    | none => []
    | some f =>
      let skipped := f.start - before.length + f.text.length
      let skipped' := if f.text = [] then skipped + 1 else skipped
      if rest.length < skipped' then [f]
      else f :: searchAll e ignoresCase fuel ((rest.take skipped').reverse ++ before) (rest.drop skipped')

end OrderlyExit.Shell.Regular
