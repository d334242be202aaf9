import OrderlyExit.Shell.Builtin.Basic

/-!
The limits on what a shell and its programs may use. A limit has a soft value, which holds, and a hard one, up
to which the soft one can be raised; the shell keeps both and shows them.
-/

namespace OrderlyExit.Shell.Builtin

/-- What can be limited: its letter, its name with the unit, and the limit at first. -/
structure Resource where
  letter : Char
  name : String
  first : Option Nat := none

/-- The resources of the plain form in the order in which they are listed. -/
def resources : List Resource :=
  [⟨'t', "time(seconds)", none⟩, ⟨'f', "file(blocks)", none⟩, ⟨'d', "data(kbytes)", none⟩,
   ⟨'s', "stack(kbytes)", some 8192⟩, ⟨'c', "coredump(blocks)", some 0⟩, ⟨'m', "memory(kbytes)", none⟩,
   ⟨'l', "locked memory(kbytes)", some 8192⟩, ⟨'p', "process", none⟩, ⟨'n', "nofiles", some 1048576⟩,
   ⟨'v', "vmemory(kbytes)", none⟩, ⟨'w', "locks", none⟩, ⟨'r', "rtprio", some 0⟩]

/-- The soft and the hard limit of a resource. -/
def limitsOf (s : State) (r : Resource) : Option Nat × Option Nat :=
  (s.limits.lookup r.letter).getD (r.first, r.first)

/-- A limit as it is shown. -/
def shownLimit : Option Nat → ByteText
  | some n => Decimal.digits n
  | none => "unlimited".toList

/-- Whether one limit is above another. -/
def exceeds (a b : Option Nat) : Bool :=
  match a, b with
  | _, none => false
  | none, some _ => true
  | some a, some b => b < a

/-- Sets a limit, the soft or the hard one or both. -/
def setLimit (r : Resource) (soft hard : Bool) (value : Option Nat) : Run Nat := do
  let s ← get
  let (oldSoft, oldHard) := limitsOf s r
  let new := (if soft then value else oldSoft, if hard then value else oldHard)
  if exceeds new.2 oldHard || exceeds new.1 new.2 then
    Run.fail "error setting limit (Operation not permitted)".toList (← Run.faultStatus)
  set { s with limits := (r.letter, new) :: s.limits.filter (·.1 ≠ r.letter) }
  return 0

/-- Shows limits, or sets one. -/
def ulimit : Builtin := fun args => do
  let s ← get
  let o ← options (if s.isExtended then "HSabcdefiklmnpqrstuvxPRT" else "HSatfdscmlpnvwr") "" args
  let letters := (o.given.map (·.1)).filter fun c => c ≠ 'H' && c ≠ 'S' && c ≠ 'a'
  let soft := !o.has 'H' || o.has 'S'
  let hard := o.has 'H' || !o.has 'S'
  let value (r : Resource) : ByteText :=
    let (softLimit, hardLimit) := limitsOf s r
    shownLimit (if soft then softLimit else hardLimit)
  if o.has 'a' then
    return ← emitLines (resources.map fun r =>
      r.name.toList ++ List.replicate (20 - r.name.length) ' ' ++ ' ' :: value r)
  match resources.find? fun r => r.letter = letters.getLast?.getD 'f' with
  | none => emitLines ["unlimited".toList]
  | some r =>
    match o.rest with
    | [] => emitLines [value r]
    | [text] =>
      match if text = "unlimited".toList then some none else (Decimal.value? text).map some with
      | some limit => setLimit r soft hard limit
      | none =>
        if s.isExtended then refuseWith text ": invalid number" 1 else Run.fail "bad number".toList 2
    | _ => Run.fail "too many arguments".toList (← Run.faultStatus)

end OrderlyExit.Shell.Builtin
