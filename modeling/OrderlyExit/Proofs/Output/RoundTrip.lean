import OrderlyExit.Proofs.Capture.Transcript
import OrderlyExit.Proofs.Marker.Wire
import OrderlyExit.Proofs.Output.Emission

/-! Markers that are emitted are read back. Whatever markers a program emits, and however its output is cut into
    pieces on the way, the transcript of an observer has one line for each of them and holds them in their order. -/

namespace OrderlyExit
namespace Outlet

variable {σ : Type}

/-- What a sink has taken of a plan that came to its end are the lines of its markers. -/
theorem accepted_follow {sink : Sink σ} (unfailing : sink.Unfailing) (start : σ) (plan : List (Nat × Marker)) :
    (follow sink 0 { state := start } plan).outlet.accepted = (plan.map (·.2)).flatMap Marker.line := by
  obtain ⟨-, hout⟩ := follow_letOut unfailing 0 { state := start } rfl plan
  rw [accepted, hout.pending, List.append_nil, hout.flushed, List.nil_append, List.flatMap_map, List.flatMap_map]
  rfl

/-- The wire gives back every list of markers. Markers of any kinds in any order are emitted one after another, each at
its time, to a sink that never fails, however little it takes at once. None of the emissions fails, and when the bytes
that the sink took arrive in pieces of any sizes, each line at any moment, the lines of the transcript are the texts of
these markers, one line for each, every line is a marker, and the markers are the ones emitted, in their order. -/
theorem markers_of_follow {sink : Sink σ} (unfailing : sink.Unfailing) (start : σ) (plan : List (Nat × Marker))
    {pieces : List (List UInt8)}
    (hpieces : pieces.flatten = (follow sink 0 { state := start } plan).outlet.accepted)
    {arrivals : List (String × Instant)} (harrivals : arrivals.map (·.1) = linesOf pieces) (started : Instant) :
    let ms := plan.map (·.2)
    let t := Transcript.ofArrivals started arrivals
    (follow sink 0 { state := start } plan).result = .ok () ∧ t.lines.length = ms.length ∧
      t.lines.map (·.text) = ms.map Marker.text ∧ t.markers.map (·.1) = t.lines ∧ t.markers.map (·.2) = ms := by
  intro ms t
  have hlines : t.lines = arrivals.map fun a => .arrive a.1 a.2 := Transcript.lines_ofArrivals started arrivals
  have htexts : arrivals.map (·.1) = ms.map Marker.text := by
    rw [harrivals, Marker.linesOf_lines (hpieces.trans (accepted_follow unfailing start plan))]
  have hmarkers : t.lines.map (·.marker) = ms.map some := by
    calc t.lines.map (·.marker) = (arrivals.map (·.1)).map Marker.parse? := by
          rw [hlines, List.map_map, List.map_map]
          rfl
      _ = ms.map fun m => Marker.parse? m.text := by rw [htexts, List.map_map]; rfl
      _ = ms.map some := by simp only [Marker.parse?_text]
  have hlength : t.lines.length = ms.length := by simpa using congrArg List.length hmarkers
  have hzip := Transcript.markers_eq_zip hmarkers
  refine ⟨follow_of_unfailing unfailing 0 _ plan, hlength, ?_, ?_, ?_⟩
  · rw [hlines, List.map_map]
    exact htexts
  · rw [hzip, List.map_fst_zip (Nat.le_of_eq hlength)]
  · rw [hzip, List.map_snd_zip (Nat.le_of_eq hlength.symm)]

/-- Markers whose texts are prefixes of one another, three bytes to a write and one to a piece. -/
theorem markers_of_follow_bytewise :
    let sink := SinkScript.sink { chunk := some 3, interrupts := true }
    let plan : List (Nat × Marker) := [(0, .shutdownPid 1), (5, .shutdownPid 12), (5, .shutdownStart), (9, .shutdownPid 1)]
    let emission := follow sink 0 { state := {} } plan
    let pieces := emission.outlet.accepted.map fun b => [b]
    let arrivals := (linesOf pieces).map fun text => (text, Instant.start)
    let t := Transcript.ofArrivals .start arrivals
    sink.Unfailing ∧ pieces.flatten = emission.outlet.accepted ∧ arrivals.map (·.1) = linesOf pieces ∧
      emission.result = .ok () ∧ t.lines.length = 4 ∧
      t.markers.map (·.2) = [.shutdownPid 1, .shutdownPid 12, .shutdownStart, .shutdownPid 1] := by
  intro sink plan emission pieces arrivals t
  have unfailing : sink.Unfailing := SinkScript.unfailing rfl (by decide) rfl
  have hpieces : pieces.flatten = emission.outlet.accepted := by simp [pieces, ← List.flatMap_def]
  have harrivals : arrivals.map (·.1) = linesOf pieces := by simp [arrivals, Function.comp_def]
  obtain ⟨hresult, hlength, -, -, hmarkers⟩ := markers_of_follow unfailing {} plan hpieces harrivals .start
  exact ⟨unfailing, hpieces, harrivals, hresult, hlength, hmarkers⟩

end Outlet
end OrderlyExit
