import Mathlib.Data.List.Forall2
import OrderlyExit.Proofs.Marker.Bytes
import OrderlyExit.Proofs.Observer.Stream

/-! The markers that are observed. Each line of an output is built from the bytes between two line feeds, and it carries
    a marker exactly if these bytes spell one; whatever is no text, and whatever line ends are dropped on the way. -/

namespace OrderlyExit
open LineBuffer

universe u
variable {σ : Type u} {env : System σ}

/-! ### Lines and their segments -/

/-- The segments of which an output has lines: those that a line feed has ended, and what is left over once the output
has been closed. -/
def lineSegments (closed : Bool) (bytes : List UInt8) : List (List UInt8) :=
  (bytes.splitOn lineFeed).dropLast ++
    if closed then (bytes.splitOn lineFeed).getLast?.toList.filter (· ≠ []) else []

theorem Segments.lineSegments_eq {bytes last : List UInt8} {ended : List (List UInt8)} (h : Segments bytes ended last)
    (closed : Bool) : lineSegments closed bytes = ended ++ if closed ∧ last ≠ [] then [last] else [] := by
  rw [lineSegments, h.splitOn_eq, List.dropLast_concat, List.getLast?_concat]
  cases closed <;> by_cases hlast : last = [] <;> simp [hlast]

theorem Segments.notMem_lineSegments {bytes last : List UInt8} {ended : List (List UInt8)}
    (h : Segments bytes ended last) {closed : Bool} : ∀ segment ∈ lineSegments closed bytes, lineFeed ∉ segment := by
  intro segment hmem
  rw [h.lineSegments_eq, List.mem_append] at hmem
  rcases hmem with hmem | hmem
  · exact h.notMem_ended segment hmem
  · split at hmem
    · exact List.mem_singleton.mp hmem ▸ h.notMem_last
    · cases hmem

/-- The text is that of a segment, with or without one carriage return at its end. -/
def TextOf (segment : List UInt8) (text : String) : Prop :=
  text = Utf8.toStringLossy segment ∨ text = Utf8.toStringLossy (withoutReturn segment)

theorem textOf_lines {bytes last : List UInt8} {ended : List (List UInt8)} (h : Segments bytes ended last)
    (closed : Bool) :
    List.Forall₂ TextOf (lineSegments closed bytes)
      ((feed {} bytes).1 ++ if closed then (feed {} bytes).2.finish else []) := by
  rw [h.lineSegments_eq, h.feed_eq, finish_eq]
  have hended : List.Forall₂ TextOf ended (ended.map fun segment => Utf8.toStringLossy (withoutReturn segment)) :=
    List.forall₂_map_right_iff.mpr (List.forall₂_same.mpr fun _ _ => Or.inr rfl)
  refine List.rel_append hended ?_
  unfold lastLine
  cases closed <;> by_cases hlast : last = [] <;> simp [hlast, TextOf]

/-- A line has the marker of the segment that it was built from: the one that its bytes spell without the carriage
returns behind them, and none if any of them are no text. Whatever line ends are left behind the bytes, the same marker
is read. -/
structure ObservedLine.Marks (segment : List UInt8) (l : ObservedLine) : Prop where
  marker_iff : ∀ m, l.marker = some m ↔ Marker.SpelledIn (withoutReturns segment) m
  invalid : ∀ part, part <:+: segment → (∀ cs, Utf8.encode cs ≠ part) → l.marker = none
  ends : ∀ ends, (∀ b ∈ ends, Marker.IsEndByte b) →
    Marker.parse? (Utf8.toStringLossy (withoutReturns segment ++ ends)) = l.marker

/-- Bytes of a marker line are text, all parts of them. -/
theorem exists_encode_of_spelledIn {segment part : List UInt8} {m : Marker}
    (h : Marker.SpelledIn (withoutReturns segment) m) (hpart : part <:+: segment) : ∃ cs, Utf8.encode cs = part := by
  obtain ⟨cs, hcs, hspells⟩ := Marker.spelledIn_iff.mp h
  obtain ⟨ends, hsplit, hends⟩ := exists_returns segment
  obtain ⟨returns, rfl, hreturns⟩ := Marker.exists_ends fun b hb => Or.inl (hends b hb)
  rw [hcs, ← List.map_append] at hsplit
  rw [hsplit, List.infix_map_iff] at hpart
  obtain ⟨ds, hds, rfl⟩ := hpart
  have hascii : ∀ c ∈ ds, c.toNat < 128 := fun c hc => by
    rcases List.mem_append.mp (hds.subset hc) with hc | hc
    · exact Marker.ascii_of_isPlain (hspells.all_isPlain c hc)
    · exact Marker.ascii_of_lineEnd (hreturns c hc)
  exact ⟨ds, Utf8.encode_ascii hascii⟩

/-- A line whose text is that of a segment, with or without one carriage return, has the marker of the segment. -/
theorem ObservedLine.marks_of_text {segment : List UInt8} (h : lineFeed ∉ segment) {l : ObservedLine}
    (htext : TextOf segment l.text) (hmarker : l.marker = Marker.parse? l.text) : l.Marks segment := by
  have hreturns (bs : List UInt8) :
      Marker.parse? (Utf8.toStringLossy bs) = Marker.parse? (Utf8.toStringLossy (withoutReturns bs)) := by
    obtain ⟨ends, hsplit, hends⟩ := exists_returns bs
    have hsame := Marker.parse?_append_ends (fun b hb => Or.inl (hends b hb)) (withoutReturns bs)
    rwa [← hsplit] at hsame
  -- of what the reader leaves of the carriage returns nothing is left behind the marker
  have hparse : l.marker = Marker.parse? (Utf8.toStringLossy (withoutReturns segment)) := by
    rcases htext with htext | htext
    · rw [hmarker, htext, hreturns]
    · rw [hmarker, htext, hreturns, withoutReturns_withoutReturn]
  have hiff (m : Marker) : l.marker = some m ↔ Marker.SpelledIn (withoutReturns segment) m := by
    rw [hparse]
    exact Marker.parse?_toStringLossy_iff fun b hb => not_isEndByte_of_getLast? h hb
  refine ⟨hiff, fun part hpart hinvalid => ?_, fun ends hends => ?_⟩
  · refine Option.eq_none_iff_forall_ne_some.mpr fun m hm => ?_
    obtain ⟨cs, hcs⟩ := exists_encode_of_spelledIn ((hiff m).mp hm) hpart
    exact hinvalid cs hcs
  · rw [hparse, Marker.parse?_append_ends hends]

theorem ObservedLine.forall₂_marks {segments : List (List UInt8)} {lines : List ObservedLine}
    (hsegments : ∀ segment ∈ segments, lineFeed ∉ segment) (hmarkers : ∀ l ∈ lines, l.marker = Marker.parse? l.text)
    (h : List.Forall₂ (fun segment l => TextOf segment l.text) segments lines) : List.Forall₂ Marks segments lines := by
  induction h with
  | nil => exact .nil
  | cons htext _ ih =>
    obtain ⟨hsegment, hsegments⟩ := List.forall_mem_cons.mp hsegments
    obtain ⟨hmarker, hmarkers⟩ := List.forall_mem_cons.mp hmarkers
    exact .cons (marks_of_text hsegment htext hmarker) (ih hsegments hmarkers)

/-! ### All lines of an output -/

theorem LineReader.marker_takeAll {r : LineReader} (h : ∀ l ∈ r.lines, l.marker = Marker.parse? l.text)
    (shown : List (Instant × Sighting)) : ∀ l ∈ (r.takeAll shown).lines, l.marker = Marker.parse? l.text := by
  have harrive (lines : List ObservedLine) (texts : List String) (moment : Instant)
      (h : ∀ l ∈ lines, l.marker = Marker.parse? l.text) :
      ∀ l ∈ lines ++ texts.map (ObservedLine.arrive · moment), l.marker = Marker.parse? l.text := fun l hl => by
    rcases List.mem_append.mp hl with hl | hl
    · exact h l hl
    · obtain ⟨text, -, rfl⟩ := List.mem_map.mp hl
      rfl
  induction shown generalizing r with
  | nil => exact h
  | cons seen shown ih =>
    refine ih (r := r.take seen.1 seen.2) ?_
    cases seen.2 with
    | output bytes | closed =>
      simp only [take]
      split
      · exact harrive _ _ _ h
      · exact h
    | readFailed e =>
      simp only [take]
      split <;> exact h
    | ended status | waitFailed e => exact h

namespace Observation

theorem marker_of_mem {launch : Launch} {clock : Instant} {s : σ} {o : Observation σ}
    (hspawn : spawn env launch clock s = .ok o) (calls : List Call) :
    ∀ l ∈ (o.performAll env calls).2.transcript.lines ++ (o.performAll env calls).2.unread,
      l.marker = Marker.parse? l.text := by
  rw [show _ ++ _ = _ from congrArg LineReader.lines (reader_performAll hspawn calls)]
  exact LineReader.marker_takeAll (r := {}) (List.forall_mem_nil _) _

/-- Nothing makes a marker of bytes that are none, and no marker is lost. At every moment an output has one line for
each segment that has come to its end; and the line carries a marker exactly if the segment, without the carriage
returns behind it, is byte for byte the ASCII text of a marker line. -/
theorem marks_of_segments {launch : Launch} {clock : Instant} {s : σ} {o : Observation σ}
    (hspawn : spawn env launch clock s = .ok o) (calls : List Call) :
    let now := (o.performAll env calls).2
    let bytes := (chunks (shown env launch clock s calls)).flatten
    List.Forall₂ ObservedLine.Marks (lineSegments now.closed bytes) (now.transcript.lines ++ now.unread) := by
  intro now bytes
  obtain ⟨ended, last, hsegments⟩ := exists_segments bytes
  have htexts : List.Forall₂ TextOf (lineSegments now.closed bytes)
      ((now.transcript.lines ++ now.unread).map (·.text)) := by
    rw [texts_append_unread hspawn calls]
    exact textOf_lines hsegments now.closed
  exact ObservedLine.forall₂_marks hsegments.notMem_lineSegments (marker_of_mem hspawn calls)
    (List.forall₂_map_right_iff.mp htexts)

/-- The text of a marker behind a byte that is no text, and the same text with two carriage returns behind it. -/
def garbled : List (List UInt8) :=
  [0xFF :: Marker.startText.map Utf8.asciiByte, Marker.startText.map Utf8.asciiByte ++ [carriageReturn, carriageReturn]]

/-- Only the second one is a marker. -/
theorem marks_of_segments_garbled :
    let pieces := garbled.map (· ++ [lineFeed])
    let o : Observation Unit := { system := (), pid := 7, clock := .start, transcript := {} }
    let now := o.seeAll (pieces.map .output ++ [.closed])
    spawn (printing pieces) { program := [] } .start () = .ok now ∧
      now.unread.map (·.marker) = [none, some .shutdownStart] := by
  intro pieces o now
  have hspawn : spawn (printing pieces) { program := [] } .start () = .ok now := spawn_printing pieces
  have hsegments : lineSegments now.closed pieces.flatten = garbled := by decide
  have hmarks : List.Forall₂ ObservedLine.Marks garbled now.unread := hsegments ▸ marks_of_segments hspawn []
  have hinvalid : ∀ cs, Utf8.encode cs ≠ [0xFF] := fun cs hcs => by
    have hread := Utf8.decode?_encode cs
    rw [hcs, show Utf8.decode? [0xFF] = none from by decide +kernel] at hread
    cases hread
  have hspelled : withoutReturns (Marker.startText.map Utf8.asciiByte ++ [carriageReturn, carriageReturn]) =
      Marker.startText.map Utf8.asciiByte := by decide
  generalize now.unread = lines at hmarks
  rcases hmarks with _ | ⟨hfirst, _ | ⟨hsecond, ⟨⟩⟩⟩
  refine ⟨hspawn, ?_⟩
  rw [List.map_cons, List.map_singleton, hfirst.invalid [0xFF] ⟨[], _, rfl⟩ hinvalid,
    (hsecond.marker_iff .shutdownStart).mpr (hspelled ▸ .start)]

end Observation

end OrderlyExit
