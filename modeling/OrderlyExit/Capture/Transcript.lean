import OrderlyExit.Marker
import OrderlyExit.Time

/-!
The transcript of an observed program: its lines in order of arrival, each with the moment it arrived
and the marker on it, and the printed form of all of them.
-/

namespace OrderlyExit

/-- One line of output. -/
structure ObservedLine where
  text : String
  stamp : Instant
  marker : Option Marker
  deriving DecidableEq, Repr

/-- A line as it arrives; its text decides whether it is a marker. -/
def ObservedLine.arrive (text : String) (stamp : Instant) : ObservedLine :=
  ⟨text, stamp, Marker.parse? text⟩

/-- The lines of a program, and when it was started. -/
structure Transcript where
  started : Instant := .start
  lines : List ObservedLine := []
  deriving DecidableEq, Repr, Inhabited

namespace Transcript

def push (t : Transcript) (line : ObservedLine) : Transcript := { t with lines := t.lines ++ [line] }

/-- The lines that are markers, with these. -/
def markers (t : Transcript) : List (ObservedLine × Marker) :=
  t.lines.filterMap fun line => line.marker.map (line, ·)

/-- The time from the start to a line; zero for an earlier one. -/
def offset (t : Transcript) (line : ObservedLine) : Duration := line.stamp.since t.started

/-- The printed form of a line: its offset in whole milliseconds, then its text. -/
def renderLine (t : Transcript) (line : ObservedLine) : List Char :=
  ['[', '+'] ++ Decimal.blankPadded 5 (t.offset line).millis ++ ['m', 's', ']', ' '] ++ line.text.toList ++
    ['\n']

/-- The printed form of a transcript. -/
def render (t : Transcript) : String := String.ofList (t.lines.flatMap t.renderLine)

end Transcript

end OrderlyExit
