import OrderlyExit.Text.Utf8

/-!
Cutting a stream of bytes into lines, however the bytes arrive.

A line ends at a line feed. Of a line that has ended, one carriage return before the line feed is
dropped as well; what is left when the stream ends is a line too, kept as it is. The bytes of a line
are read as text with replacements, so no line is lost.
-/

namespace OrderlyExit

/-- The bytes of a line that has not ended yet, the newest first. -/
structure LineBuffer where
  held : List UInt8 := []
  deriving DecidableEq, Repr, Inhabited

namespace LineBuffer

def lineFeed : UInt8 := 10
def carriageReturn : UInt8 := 13

/-- The text of a line that has ended, from its bytes with the newest first. -/
def endedLine (held : List UInt8) : String :=
  match held with
  | [] => Utf8.toStringLossy []
  | b :: rest => Utf8.toStringLossy (if b = carriageReturn then rest else b :: rest).reverse

/-- Takes in some bytes; returns the lines that they end. -/
def feed (buffer : LineBuffer) (bytes : List UInt8) : List String × LineBuffer :=
  match bytes with
  | [] => ([], buffer)
  | b :: rest =>
    if b = lineFeed then
      let (lines, last) := feed ⟨[]⟩ rest
      (endedLine buffer.held :: lines, last)
    else feed ⟨b :: buffer.held⟩ rest

/-- The line that the end of the stream leaves, if there is one. -/
def finish (buffer : LineBuffer) : List String :=
  if buffer.held = [] then [] else [Utf8.toStringLossy buffer.held.reverse]

/-- Takes in the pieces of a whole stream; returns all its lines. -/
def feedAll (buffer : LineBuffer) : List (List UInt8) → List String
  | [] => buffer.finish
  | piece :: pieces => (buffer.feed piece).1 ++ feedAll (buffer.feed piece).2 pieces

end LineBuffer

/-- The lines of a stream that arrives in the given pieces. -/
def linesOf (pieces : List (List UInt8)) : List String := LineBuffer.feedAll {} pieces

end OrderlyExit
