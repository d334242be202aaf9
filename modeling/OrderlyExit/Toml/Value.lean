/-!
The values of a TOML document. Of a number that is not whole, and of a date or time, only the kind is kept.
-/

namespace OrderlyExit.Toml

inductive Value
  | string (text : String)
  | integer (n : Int)
  | float
  | boolean (b : Bool)
  | datetime
  | array (elements : List Value)
  | table (entries : List (String × Value))
  deriving Inhabited

/-- A table: its keys with their values, each key once. -/
abbrev Table := List (String × Value)

end OrderlyExit.Toml
