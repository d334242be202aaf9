import OrderlyExit.Toml.Lexical
import OrderlyExit.Toml.Value

/-!
The tables of a document while it is read. A table remembers how it came about, because that decides
whether it may still grow: a header may reopen a table that only stood on the path of another header,
and dotted keys may extend a table that dotted keys made.
-/

namespace OrderlyExit.Toml

/-- How a table came about. -/
inductive Origin
  /-- Its own header. -/
  | header
  /-- The path of a header. -/
  | implied
  /-- The path of a dotted key. -/
  | dotted
  deriving DecidableEq, Repr

/-- What a key stands for while a document is read. -/
inductive Node
  | value (v : Value)
  | table (origin : Origin) (entries : List (String × Node))
  /-- An array of tables, the newest first. -/
  | tables (elements : List (List (String × Node)))

namespace Node

/-- The keys of a growing table. -/
abbrev Entries := List (String × Node)

/-- Sets a key; a key that is there keeps its place. -/
def put (key : String) (node : Node) : Entries → Entries
  | [] => [(key, node)]
  | (k, n) :: rest => if k = key then (k, node) :: rest else (k, n) :: put key node rest

/-- Changes the table at the end of a path, which starts in a table of the given origin. Tables that
are missing on the way are made, with the origin `via`; of an array of tables the newest is taken. -/
def atPath (via : Origin) (change : Origin → Entries → Option Entries) :
    List String → Origin → Entries → Option Entries
  | [], origin, entries => change origin entries
  | key :: rest, _, entries =>
    match entries.lookup key with
    | none => (atPath via change rest via []).map fun inner => put key (.table via inner) entries
    | some (.table origin inner) =>
      if via = .dotted ∧ origin = .header then none
      else (atPath via change rest origin inner).map fun inner => put key (.table origin inner) entries
    | some (.tables (newest :: older)) =>
      (atPath via change rest .header newest).map fun inner => put key (.tables (inner :: older)) entries
    | some (.tables []) => none
    | some (.value _) => none

/-- Gives a key a value, once. A table takes keys without dots unless dotted keys made it, and then it
takes dotted ones only. -/
def insert (path : KeyPath) (v : Value) (origin : Origin) (entries : Entries) : Option Entries :=
  let set : Origin → Entries → Option Entries := fun o es =>
    if o = .dotted ↔ path.parents = [] then none
    else if (es.lookup path.last).isSome then none
    else some (es ++ [(path.last, .value v)])
  atPath .dotted set path.parents origin entries

/-- Opens the table of a header. -/
def openTable (path : KeyPath) (root : Entries) : Option Entries :=
  let set : Origin → Entries → Option Entries := fun _ es =>
    match es.lookup path.last with
    | none => some (es ++ [(path.last, .table .header [])])
    | some (.table .implied inner) => some (put path.last (.table .header inner) es)
    | some _ => none
  atPath .implied set path.parents .header root

/-- Opens a new table at the end of an array of tables. -/
def openElement (path : KeyPath) (root : Entries) : Option Entries :=
  let set : Origin → Entries → Option Entries := fun _ es =>
    match es.lookup path.last with
    | none => some (es ++ [(path.last, .tables [[]])])
    | some (.tables elements) => some (put path.last (.tables ([] :: elements)) es)
    | some _ => none
  atPath .implied set path.parents .header root

mutual

/-- The finished value. -/
def finish : Node → Value
  | .value v => v
  | .table _ entries => .table (finishEntries entries)
  | .tables elements => .array (finishElements elements).reverse

def finishEntries : List (String × Node) → List (String × Value)
  | [] => []
  | (key, node) :: rest => (key, node.finish) :: finishEntries rest

def finishElements : List (List (String × Node)) → List Value
  | [] => []
  | entries :: rest => .table (finishEntries entries) :: finishElements rest

end

/-- The table between braces that gives these paths their values. -/
def inlineTable? (pairs : List (KeyPath × Value)) : Option Table :=
  (pairs.foldlM (fun entries (path, v) => insert path v .header entries) []).map finishEntries

end Node

end OrderlyExit.Toml
