import OrderlyExit.Toml.Node
import OrderlyExit.Toml.Number

/-!
TOML documents: reading a value, a statement, and a whole text into its root table.
-/

namespace OrderlyExit.Toml

/-! ### Values -/

/-- How deep arrays and tables between braces may be nested. -/
def maxDepth : Nat := 79

/-- A value without parts. -/
def readScalar? (s : List Char) : Option (Value × List Char) :=
  match s with
  | [] => none
  | c :: _ =>
    if c = '"' ∨ c = '\'' then (readString? s).map fun (cs, rest) => (.string (String.ofList cs), rest)
    else if c = 't' then (['t', 'r', 'u', 'e'].isPrefixOf? s).map (.boolean true, ·)
    else if c = 'f' then (['f', 'a', 'l', 's', 'e'].isPrefixOf? s).map (.boolean false, ·)
    else readNumeric? s

mutual

/-- A value with at most `depth` levels of parts. Each call has less fuel than its caller; the length
of the text is enough. -/
def readValueWith (fuel depth : Nat) (s : List Char) : Option (Value × List Char) :=
  match fuel with
  | 0 => none
  | fuel + 1 =>
    match s with
    | [] => none
    | c :: rest =>
      if c = '[' then
        match depth with
        | 0 => none
        | depth + 1 =>
          (readElements fuel depth (skipFiller false rest)).map fun (vs, rest) => (.array vs, rest)
      else if c = '{' then
        match depth with
        | 0 => none
        | depth + 1 =>
          if (skipBlanks rest).head? = some '}' then some (.table [], (skipBlanks rest).drop 1)
          else do
            let (pairs, rest) ← readPairs fuel depth rest
            let table ← Node.inlineTable? pairs
            some (.table table, rest)
      else readScalar? s

/-- The elements of an array up to its closing bracket. -/
def readElements (fuel depth : Nat) (s : List Char) : Option (List Value × List Char) :=
  match fuel with
  | 0 => none
  | fuel + 1 =>
    if s.head? = some ']' then some ([], s.drop 1)
    else do
      let (v, rest) ← readValueWith fuel depth s
      let rest := skipFiller false rest
      if rest.head? = some ',' then
        (readElements fuel depth (skipFiller false (rest.drop 1))).map fun (vs, rest) => (v :: vs, rest)
      else if rest.head? = some ']' then some ([v], rest.drop 1)
      else none

/-- The keys and values of a table up to its closing brace. -/
def readPairs (fuel depth : Nat) (s : List Char) : Option (List (KeyPath × Value) × List Char) :=
  match fuel with
  | 0 => none
  | fuel + 1 => do
    let (path, rest) ← readPath? maxPath s
    let rest ← readChar? '=' rest
    let (v, rest) ← readValueWith fuel depth (skipBlanks rest)
    let rest := skipBlanks rest
    if rest.head? = some ',' then
      (readPairs fuel depth (rest.drop 1)).map fun (pairs, rest) => ((path, v) :: pairs, rest)
    else if rest.head? = some '}' then some ([(path, v)], rest.drop 1)
    else none

end

def readValue? (s : List Char) : Option (Value × List Char) := readValueWith (s.length + 1) maxDepth s

/-! ### Statements -/

/-- One statement of a document. -/
inductive Statement
  | keyValue (path : KeyPath) (value : Value)
  | header (path : KeyPath)
  | elementHeader (path : KeyPath)

/-- A header and the rest of its line. -/
def readHeader? (s : List Char) : Option (Statement × List Char) :=
  match ['[', '['].isPrefixOf? s with
  | some rest => do
    let (path, rest) ← readPath? maxPath rest
    let rest ← [']', ']'].isPrefixOf? rest
    let rest ← lineEnd? rest
    some (.elementHeader path, rest)
  | none => do
    let rest ← readChar? '[' s
    let (path, rest) ← readPath? maxPath rest
    let rest ← readChar? ']' rest
    let rest ← lineEnd? rest
    some (.header path, rest)

/-- A key with its value and the rest of the line. -/
def readKeyValue? (s : List Char) : Option (Statement × List Char) := do
  let (path, rest) ← readPath? maxPath s
  let rest ← readChar? '=' rest
  let (v, rest) ← readValue? (skipBlanks rest)
  let rest ← lineEnd? rest
  some (.keyValue path v, rest)

/-- The statements of a document. Each one takes at least a character off the text, so its length is
fuel enough. -/
def readStatementsWith (fuel : Nat) (s : List Char) : Option (List Statement) :=
  match fuel with
  | 0 => none
  | fuel + 1 =>
    match skipBlanks s with
    | [] => some []
    | c :: rest =>
      if c = '#' ∨ c = '\n' then
        match lineEnd? (c :: rest) with
        | some rest => readStatementsWith fuel rest
        | none => none
      else
        match (if c = '[' then readHeader? (c :: rest) else readKeyValue? (c :: rest)) with
        | some (statement, rest) => (readStatementsWith fuel rest).map (statement :: ·)
        | none => none

def readStatements? (s : List Char) : Option (List Statement) := readStatementsWith (s.length + 1) s

/-! ### The root table -/

/-- A document half read: its root table, and the path of the header that is open. -/
structure Progress where
  root : Node.Entries := []
  here : List String := []

/-- The effect of one statement. -/
def Progress.apply (p : Progress) : Statement → Option Progress
  | .keyValue path v =>
    (Node.atPath .implied (Node.insert path v) p.here .header p.root).map fun root => { p with root := root }
  | .header path => (Node.openTable path p.root).map fun root => ⟨root, path.parents ++ [path.last]⟩
  | .elementHeader path => (Node.openElement path p.root).map fun root => ⟨root, path.parents ++ [path.last]⟩

/-- The root table that statements build. -/
def buildTable? (statements : List Statement) : Option Table :=
  (statements.foldlM Progress.apply {}).map fun p => Node.finishEntries p.root

/-- What may stand before a document. -/
def byteOrderMark : Char := Char.ofNat 0xFEFF

/-- Reads a document. -/
def readDocument? (text : List Char) : Option Table := do
  let text := if text.head? = some byteOrderMark then text.drop 1 else text
  let statements ← readStatements? (unifyLineEnds text)
  buildTable? statements

end OrderlyExit.Toml
