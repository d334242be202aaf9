import OrderlyExit.Host.Permissions
import OrderlyExit.Shell.Builtin.Basic
import OrderlyExit.Shell.Lookup

/-!
The commands that deal with where the shell is and what names mean there: the directory, the mask of new
files, commands by name, other spellings of commands.
-/

namespace OrderlyExit.Shell.Builtin

open Host (Routine)

/-! ### The directory -/

/-- Gives a parameter that the shell keeps itself a value, and exports it. -/
def keep (name : String) (text : ByteText) : Run Unit :=
  modify fun s => s.bind name.toList { ((s.binding? name.toList).getD {}) with value := some (.text text), exported := true }

/-- The path that a path means from a directory, without dots and doubled slashes; two slashes in front stay. -/
def pathFrom (here path : ByteText) : ByteText :=
  let absolute := path.head? = some '/'
  let base := if absolute then path else here
  let front := if base.take 2 = "//".toList ∧ base[2]? ≠ some '/' then "//".toList else ['/']
  let parts := ((if absolute then [] else here.splitOn '/') ++ path.splitOn '/').filter fun c => c ≠ [] && c ≠ ['.']
  let kept := parts.foldl (fun up c => if c = "..".toList then up.drop 1 else c :: up) []
  front ++ (['/'] : List Char).intercalate kept.reverse

/-- Goes to a directory: to what its path means from here, or without that to where the host says it is. -/
def goTo (physical : Bool) (path : ByteText) : Run (Option Errno) := do
  let s ← get
  let target := pathFrom s.directory path
  let there ← if s.isExtended then Run.routine (Routine.facts path) else pure (.error .noEntry)
  match there with
  | .error e => if s.isExtended then return some e
  | .ok _ => pure ()
  match ← Run.routine (Routine.call (.changeDirectory (if physical then path else target))) with
  | some e => return some e
  | none =>
    let real : ByteText ← Run.routine (Routine.call .directory)
    let now := if physical then real else target
    keep "OLDPWD" s.directory
    keep "PWD" now
    modify fun t => { t with directory := now }
    return none

/-- Whether a path is looked for along the search path of directories. -/
def isSearched (path : ByteText) : Bool :=
  let first := path.takeWhile (· ≠ '/')
  path.head? ≠ some '/' && first ≠ ['.'] && first ≠ "..".toList

/-- The directory that a path means along a search path, and whether it is shown. -/
def searchDirectory (path : ByteText) : List ByteText → Routine (ByteText × Bool)
  | [] => pure (path, false)
  | dir :: rest => do
    let candidate := if dir = [] then path else dir ++ '/' :: path
    match ← Routine.facts candidate with
    | .ok facts => if facts.kind = .directory then return (candidate, dir ≠ []) else searchDirectory path rest
    | .error _ => searchDirectory path rest

def cd : Builtin := fun args => do
  let s ← get
  let o ← options (if s.isExtended then "LPe@" else "LP") "" args
  let physical := (o.given.filter fun (c, _) => c = 'L' || c = 'P').getLast?.any (·.1 = 'P')
  if s.isExtended && o.rest.length > 1 then return ← refuse "too many arguments" 1
  let (path, shows) ← match o.rest with
    | ['-'] :: _ =>
      match s.text? "OLDPWD".toList with
      | some old => pure (old, true)
      | none => if s.isExtended then return ← refuse "OLDPWD not set" 1 else pure ([], true)
    | path :: _ => pure (path, false)
    | [] =>
      match s.text? "HOME".toList with
      | some home => pure (home, false)
      | none => if s.isExtended then return ← refuse "HOME not set" 1 else pure ([], false)
  let wanted := if path = [] then ['.'] else path
  let search := if isSearched path then (s.text? "CDPATH".toList).getD [] else []
  let (target, found) ← if search = [] then pure (wanted, false)
    else Run.routine (searchDirectory wanted (search.splitOn ':'))
  match ← goTo physical target with
  | none => if shows || found then emit ((← get).directory ++ ['\n']) else return 0
  | some e =>
    if s.isExtended then refuseWith path (": " ++ e.description) 1
    else Run.fail ("can't cd to ".toList ++ path) 2

def pwd : Builtin := fun args => do
  let o ← options "LP" "" args
  let real : ByteText ← Run.routine (Routine.call .directory)
  let s ← get
  emit ((if o.has 'P' then real else s.directory) ++ ['\n'])

/-! ### The mask -/

/-- Permissions as letters for the user, the group and others. -/
def symbolic (mask : Nat) : ByteText :=
  let letters (shift : Nat) : ByteText :=
    let granted := 7 - mask / Nat.pow 8 shift % 8
    (if granted &&& 4 ≠ 0 then ['r'] else []) ++ (if granted &&& 2 ≠ 0 then ['w'] else []) ++
      if granted &&& 1 ≠ 0 then ['x'] else []
  "u=".toList ++ letters 2 ++ ",g=".toList ++ letters 1 ++ ",o=".toList ++ letters 0

/-- A number of four digits in base eight. -/
def octal (n : Nat) : ByteText := [3, 2, 1, 0].map fun i => Char.ofNat (48 + n / Nat.pow 8 i % 8)

/-- The first character in a change of permissions that the extended form does not take, and whether a sign or a
letter is missing there. -/
def maskFault? (behindSign : Bool) : List Char → Option (Char × Bool)
  | [] => if behindSign then none else some ('\x00', true)
  | c :: rest =>
    if behindSign then
      if c = ',' then maskFault? false rest
      else if "rwx".toList.contains c then maskFault? true rest
      else some (c, false)
    else if "ugoa".toList.contains c then maskFault? false rest
    else if Host.Permissions.isSign c then maskFault? true rest
    else some (c, true)

/-- Sets the mask as a text says. -/
def setMask (text : ByteText) : Run Nat := do
  let s ← get
  if text.head?.any Char.isDigit then
    if text.all Escape.isOctal && !(s.isExtended && 0o7777 < Escape.value 8 text) then
      set { s with mask := Escape.value 8 text % 512 }
      return 0
    else if s.isExtended then refuseWith text ": octal number out of range" 1
    else Run.fail ("Illegal number: ".toList ++ text) 2
  else
    let granted := 0o777 - s.mask
    match if s.isExtended then maskFault? false text else none, Host.Permissions.change? false 0 granted text with
    | some (c, needsSign), _ =>
      refuseWith ['\x60', c] (if needsSign then "': invalid symbolic mode operator" else "': invalid symbolic mode character") 1
    | none, some granted =>
      set { s with mask := 0o777 - granted % 512 }
      return 0
    | none, none => Run.fail ("Illegal mode: ".toList ++ text) 2

def umask : Builtin := fun args => do
  let o ← options (if (← get).isExtended then "Sp" else "S") "" args
  let show_ : Run Nat := do
    let s ← get
    let front := if !o.has 'p' then [] else if o.has 'S' then "umask -S ".toList else "umask ".toList
    emit (front ++ (if o.has 'S' then symbolic s.mask else octal s.mask) ++ ['\n'])
  match o.rest with
  | [] => show_
  | text :: _ =>
    let status ← setMask text
    if status = 0 && o.has 'S' && (← get).isExtended then show_ else return status

/-! ### Names -/

/-- What a name means, in the words of the extended form. -/
def describeExtended (name : ByteText) (m : Lookup.Meaning) : ByteText :=
  match m with
  | .function => name ++ " is a function".toList
  | .alias text => name ++ " is aliased to \x60".toList ++ text ++ ['\'']
  | .program path true => name ++ " is hashed (".toList ++ path ++ [')']
  | m => Lookup.describe name m

/-- The kind of a name in one word. -/
def kindWord : Lookup.Meaning → Option String
  | .reserved => some "keyword"
  | .alias _ => some "alias"
  | .function => some "function"
  | .builtin _ => some "builtin"
  | .program .. => some "file"
  | .nothing => none

def type : Builtin := fun args => do
  let s ← get
  let o ← if s.isExtended then options "tpPaf" "" args else pure { rest := args }
  let statuses ← o.rest.mapM fun name => do
    let m ← Lookup.meaningOf name
    if s.isExtended then
      if o.has 't' then
        match kindWord m with
        | some word => emit (word.toList ++ ['\n'])
        | none => return 1
      else if o.has 'p' || o.has 'P' then
        match m with
        | .program path _ => emit (path ++ ['\n'])
        | _ => return if m = .nothing then 1 else 0
      else if m = .nothing then refuseWith name ": not found" 1
      else emit (describeExtended name m ++ ['\n'])
    else
      discard <| emit (Lookup.describe name m ++ ['\n'])
      return if m = .nothing then 127 else 0
  return statuses.foldl max 0

/-- How a name is spelled as a command. -/
def spelling (name : ByteText) : Lookup.Meaning → Option ByteText
  | .alias text => some ("alias ".toList ++ name ++ '=' :: quotedSingle text)
  | .program path _ => some path
  | .nothing => none
  | _ => some name

/-- Shows what names mean, in words or as they are spelled. -/
def lookUp (inWords : Bool) (names : List ByteText) : Run Nat := do
  let s ← get
  let names := if s.isExtended then names else names.take 1
  let missing := if s.isExtended then 1 else 127
  let statuses ← names.mapM fun name => do
    let m ← Lookup.meaningOf name
    if inWords then
      if m = .nothing && s.isExtended then refuseWith name ": not found" missing
      else
        discard <| emit ((if s.isExtended then describeExtended name m else Lookup.describe name m) ++ ['\n'])
        return if m = .nothing then missing else 0
    else
      match spelling name m with
      | some text => emit (text ++ ['\n'])
      | none => return missing
  return if s.isExtended && statuses.any (· = 0) then 0 else statuses.foldl max 0

/-- How many places there are for programs that are remembered. -/
def programPlaces (s : State) : Nat := if s.isExtended then 256 else 31

/-- The programs that are remembered, in the order in which they are listed. -/
def rememberedLines (s : State) : List ByteText :=
  let place (name : ByteText) : Nat :=
    if s.isExtended then keyPlace name % programPlaces s else State.namePlace (programPlaces s) name
  let sorted := s.remembered.mergeSort fun a b => place a.1 ≤ place b.1
  if s.isExtended then
    "hits\tcommand".toList :: sorted.map fun (_, path, runs) => Decimal.blankPadded 4 runs ++ '\t' :: path
  else sorted.map fun (_, path, _) => path

/-- Remembers programs, forgets them all, or lists them. -/
def hash : Builtin := fun args => do
  let s ← get
  let o ← options (if s.isExtended then "rldt" else "r") (if s.isExtended then "p" else "") args
  if o.has 'r' then modify fun s => { s with remembered := [] }
  if o.rest = [] then
    if o.has 'r' then return 0
    if s.isExtended && s.remembered = [] then
      return ← emit "hash: hash table empty\n".toList
    return ← emitLines (rememberedLines s)
  let statuses ← o.rest.mapM fun name => do
    modify fun s => { s with remembered := s.remembered.filter (·.1 ≠ name) }
    let isOwn := (s.functions.lookup name).isSome || Lookup.isBuiltin s.dialect name
    if isOwn || name.contains '/' then return 0
    match ← Lookup.locate name with
    | .ok _ => return 0
    | .error _ => refuseWith name ": not found" 1
  return statuses.foldl max 0

/-! ### Other spellings -/

def alias_ : Builtin := fun args => do
  let s ← get
  let shown (name text : ByteText) : ByteText :=
    if s.isExtended then "alias ".toList ++ name ++ '=' :: quotedSingle text else name ++ '=' :: quotedPlain text
  let args := args.filter (· ≠ ['-', 'p'])
  if args = [] then
    return ← emitLines (sorted (s.aliases.map fun (name, text) => shown name text))
  let statuses ← args.mapM fun arg => do
    let name := arg.takeWhile (· ≠ '=')
    if name.length < arg.length then
      modify fun s => { s with aliases := (name, arg.drop (name.length + 1)) :: s.aliases.filter (·.1 ≠ name) }
      return 0
    else
      match s.aliases.lookup name with
      | some text => emit (shown name text ++ ['\n'])
      | none =>
        discard <| Run.write 2 ("alias: ".toList ++ name ++ " not found\n".toList)
        return 1
  return statuses.foldl max 0

def unalias : Builtin := fun args => do
  let o ← options "a" "" args
  if o.has 'a' then modify fun s => { s with aliases := [] }
  let statuses ← o.rest.mapM fun name => do
    let s ← get
    if (s.aliases.lookup name).isSome then
      set { s with aliases := s.aliases.filter (·.1 ≠ name) }
      return 0
    else if s.isExtended then refuseWith name ": not found" 1
    else
      discard <| Run.write 2 ("unalias: ".toList ++ name ++ " not found\n".toList)
      return 1
  return statuses.foldl max 0

end OrderlyExit.Shell.Builtin
