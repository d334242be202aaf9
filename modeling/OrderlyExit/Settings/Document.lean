import OrderlyExit.Settings
import OrderlyExit.Toml.Value

/-!
What a configuration document says about a worker. Each setting has a section with one key of its own;
a section that is missing, or that says nothing about its key, leaves the default.

A section may also list its values in order, and as a date or time it says nothing. All else in the
document is ignored.
-/

namespace OrderlyExit.Settings

open Toml (Value Table)

/-- A whole number that is not negative. -/
def natural? : Value → Option Nat
  | .integer n => if 0 ≤ n then some n.toNat else none
  | _ => none

def string? : Value → Option String
  | .string s => some s
  | _ => none

/-- The setting in a section: nothing where the section or the setting is of a wrong type. -/
def setting? (read : Value → Option α) (default : α) (key : String) : Value → Option α
  | .table entries =>
    match entries.lookup key with
    | some v => read v
    | none => some default
  | .array [] | .datetime => some default
  | .array (v :: _) => read v
  | _ => none

/-- Where in a document a setting stands: a table of the root and a key in it. -/
structure Place where
  table : String
  key : String
  deriving DecidableEq, Repr

def cleanupDelayPlace : Place := ⟨"shutdown", "cleanup_delay_ms"⟩
def tickPlace : Place := ⟨"idle", "tick_ms"⟩
def logLevelPlace : Place := ⟨"observability", "log_level"⟩

/-- The setting that a document gives at a place. -/
def find? (read : Value → Option α) (default : α) (place : Place) (root : Table) : Option α :=
  match root.lookup place.table with
  | some v => setting? read default place.key v
  | none => some default

/-- The settings that a document gives. -/
def ofTable? (root : Table) : Option Settings := do
  let defaults : Settings := {}
  let cleanupDelay ← find? natural? defaults.cleanupDelay cleanupDelayPlace root
  let tick ← find? natural? defaults.tick tickPlace root
  let logLevel ← find? string? defaults.logLevel logLevelPlace root
  return { cleanupDelay, tick, logLevel }

end OrderlyExit.Settings
