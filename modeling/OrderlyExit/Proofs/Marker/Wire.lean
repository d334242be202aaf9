import OrderlyExit.Proofs.Capture.Lines
import OrderlyExit.Proofs.Marker.Grammar

/-! Markers on the wire. The reader loop gives back the text of every marker whose line went through it
    whole, and keeps what has come of the next line as a line of its own. -/

namespace OrderlyExit
namespace Marker
open LineBuffer

theorem line_eq (m : Marker) : m.line = m.chars.map Utf8.asciiByte ++ [lineFeed] := by
  rw [line, Utf8.encode_append, Utf8.encode_ascii (chars_ascii m)]
  rfl

theorem asciiByte_ne_of_oneLine {cs : List Char} (hline : OneLine cs) (hascii : ∀ c ∈ cs, c.toNat < 128) {b : UInt8}
    (hb : b ∈ cs.map Utf8.asciiByte) : b ≠ lineFeed ∧ b ≠ carriageReturn := by
  obtain ⟨c, hc, rfl⟩ := List.mem_map.mp hb
  have hend := hline c hc
  refine ⟨fun h => ?_, fun h => ?_⟩
  · obtain rfl : c = '\n' := Utf8.asciiByte_inj (hascii c hc) (by decide) h
    exact absurd hend (by decide)
  · obtain rfl : c = '\r' := Utf8.asciiByte_inj (hascii c hc) (by decide) h
    exact absurd hend (by decide)

theorem toStringLossy_ascii {cs : List Char} (hascii : ∀ c ∈ cs, c.toNat < 128) :
    Utf8.toStringLossy (cs.map Utf8.asciiByte) = String.ofList cs := by
  rw [← Utf8.encode_ascii hascii, Utf8.toStringLossy, Utf8.decodeLossy_encode]

/-- The line of a marker is read as its text. -/
theorem feed_line_append (m : Marker) (rest : List UInt8) :
    feed {} (m.line ++ rest) = (m.text :: (feed {} rest).1, (feed {} rest).2) := by
  have hne := fun b (hb : b ∈ m.chars.map Utf8.asciiByte) =>
    asciiByte_ne_of_oneLine (chars_oneLine m) (chars_ascii m) hb
  have hlf : lineFeed ∉ m.chars.map Utf8.asciiByte := fun h => (hne _ h).1 rfl
  have hcr : (m.chars.map Utf8.asciiByte).getLast? ≠ some carriageReturn :=
    fun h => (hne _ (List.mem_of_getLast? h)).2 rfl
  rw [line_eq, List.append_assoc, List.singleton_append, feed_line hlf, endedLine_reverse hcr,
    toStringLossy_ascii (chars_ascii m)]
  rfl

theorem feed_lines_append (ms : List Marker) (rest : List UInt8) :
    feed {} (ms.flatMap line ++ rest) = (ms.map text ++ (feed {} rest).1, (feed {} rest).2) := by
  induction ms with
  | nil => rfl
  | cons m ms ih =>
    rw [List.flatMap_cons, List.append_assoc, feed_line_append, ih]
    rfl

/-- The start of a line, as far as it has come. -/
def started (cs : List Char) : List String := if cs = [] then [] else [String.ofList cs]

/-- What has come of a stream of markers is read as the markers that are complete and the start of a line. -/
theorem linesOf_markers {pieces : List (List UInt8)} {ms : List Marker} {cs : List Char} (hline : OneLine cs)
    (hascii : ∀ c ∈ cs, c.toNat < 128) (h : pieces.flatten = ms.flatMap line ++ cs.map Utf8.asciiByte) :
    linesOf pieces = ms.map text ++ started cs := by
  have hlf : lineFeed ∉ cs.map Utf8.asciiByte := fun h => (asciiByte_ne_of_oneLine hline hascii h).1 rfl
  rw [linesOf_eq, h, feed_lines_append, feed_segment hlf]
  cases cs with
  | nil => simp [finish, started]
  | cons c cs =>
    have hheld : ((c :: cs).map Utf8.asciiByte).reverse ≠ [] := by simp
    simp only [List.append_nil, finish, hheld, ↓reduceIte, List.reverse_reverse, toStringLossy_ascii hascii, started,
      reduceCtorEq]

/-- Whole lines are read as the texts of their markers, however they arrive. -/
theorem linesOf_lines {pieces : List (List UInt8)} {ms : List Marker} (h : pieces.flatten = ms.flatMap line) :
    linesOf pieces = ms.map text := by
  have hall : pieces.flatten = ms.flatMap line ++ ([] : List Char).map Utf8.asciiByte :=
    h.trans (List.append_nil _).symm
  exact linesOf_markers (fun _ h => by cases h) (fun _ h => by cases h) hall |>.trans (List.append_nil _)

end Marker
end OrderlyExit
