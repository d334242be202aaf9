import OrderlyExit.Text.Decimal

/-!
Durations and instants in whole nanoseconds, the text of a duration, and deadlines.

An instant is a signed distance from the moment an observation starts, so stamps before the start
are instants too. Differences of instants saturate at zero.
-/

namespace OrderlyExit

/-- A length of time in whole nanoseconds. -/
structure Duration where
  nanos : Nat
  deriving DecidableEq, Repr, Inhabited

namespace Duration

def zero : Duration := ⟨0⟩

/-- The shorter of two lengths of time. -/
instance : Min Duration := ⟨fun a b => ⟨min a.nanos b.nanos⟩⟩

def ofMillis (ms : Nat) : Duration := ⟨ms * 1000000⟩

def ofSecs (s : Nat) : Duration := ⟨s * 1000000000⟩

/-- The whole milliseconds of a duration. -/
def millis (d : Duration) : Nat := d.nanos / 1000000

/-- The part after the decimal point: `rest` on `places` places without trailing zeros, and nothing
for a zero rest. -/
def fraction (places rest : Nat) : List Char :=
  if rest = 0 then []
  else '.' :: ((Decimal.zeroPadded places rest).reverse.dropWhile (· == '0')).reverse

/-- A duration in the unit that is worth ten to the power of `places` nanoseconds. -/
def inUnit (nanos places : Nat) (unit : List Char) : List Char :=
  Decimal.digits (nanos / Nat.pow 10 places) ++ fraction places (nanos % Nat.pow 10 places) ++ unit

/-- A duration in the largest of the units `s`, `ms`, `µs`, `ns` that fits into it at least once. -/
def chars (d : Duration) : List Char :=
  if 1000000000 ≤ d.nanos then inUnit d.nanos 9 ['s']
  else if 1000000 ≤ d.nanos then inUnit d.nanos 6 ['m', 's']
  else if 1000 ≤ d.nanos then inUnit d.nanos 3 ['µ', 's']
  else inUnit d.nanos 0 ['n', 's']

def text (d : Duration) : String := String.ofList d.chars

end Duration

/-- A moment, as nanoseconds after the start of the observation. -/
structure Instant where
  nanos : Int
  deriving DecidableEq, Repr, Inhabited

namespace Instant

def start : Instant := ⟨0⟩

/-- The moment `d` after `i`, whether or not a clock can show it. -/
def plus (i : Instant) (d : Duration) : Instant := ⟨i.nanos + d.nanos⟩

/-- The time from `earlier` to `later`, zero when they are the other way round. -/
def since (later earlier : Instant) : Duration := ⟨(later.nanos - earlier.nanos).toNat⟩

/-- The last moment of a clock that counts its seconds in a signed 64-bit word. -/
def last : Instant := ⟨Int64.maxValue.toInt * 1000000000 + 999999999⟩

/-- The moment `d` after `i`, unless it lies beyond the clock. -/
def after? (i : Instant) (d : Duration) : Option Instant :=
  if (i.plus d).nanos ≤ last.nanos then some (i.plus d) else none

/-- The longest delay of an alarm: thirty years. -/
def farAhead : Duration := .ofSecs (86400 * 365 * 30)

/-- When an alarm set at `i` for `d` later goes off: a longer delay than the longest counts as that. -/
def alarm (i : Instant) (d : Duration) : Instant := i.plus (min d farAhead)

end Instant

end OrderlyExit
