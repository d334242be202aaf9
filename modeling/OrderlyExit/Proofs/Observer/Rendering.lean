import OrderlyExit.Proofs.Capture.Rendering
import OrderlyExit.Proofs.Observer.Delivery
import OrderlyExit.Proofs.Observer.Stream

/-! Printed transcripts of observations. No line that is captured has a line feed in its text, so what is printed of
    an observation can be read back, and it tells one transcript from another. -/

namespace OrderlyExit.Observation

universe u
variable {σ : Type u} {env : System σ} {launch : Launch} {clock : Instant} {s : σ} {o : Observation σ}

/-- No line that has been read has a line feed in its text. -/
theorem oneLined_performAll (hspawn : spawn env launch clock s = .ok o) (calls : List Call) :
    (o.performAll env calls).2.transcript.OneLined := by
  intro line hline
  have hread : line.text ∈ (((o.performAll env calls).2.transcript.lines ++
      (o.performAll env calls).2.unread).map (·.text)) := List.mem_map_of_mem (List.mem_append_left _ hline)
  rw [texts_append_unread hspawn] at hread
  have hcaptured : line.text ∈ linesOf (chunks (shown env launch clock s calls)) := by
    rw [linesOf_eq]
    rcases List.mem_append.mp hread with hended | hlast
    · exact List.mem_append_left _ hended
    · split at hlast
      · exact List.mem_append_right _ hlast
      · cases hlast
  exact newline_notMem_of_mem_linesOf hcaptured

end OrderlyExit.Observation

namespace OrderlyExit.Transcript

/-- A transcript whose texts have no line feed is printed on one line for each of its lines, in order, and each of
these is read back: the whole milliseconds from the start to it, none for an earlier one, and its text. So two such
transcripts are printed alike exactly if they agree in all of these. Every transcript of an observation is such a one,
whatever the program prints and whatever is called. -/
theorem render_unambiguous :
    (∀ t : Transcript, t.OneLined →
      t.render.toList.splitOn '\n' = t.entries.map printed ++ [[]] ∧ readRendered t.render = t.entries) ∧
    (∀ t t' : Transcript, t.OneLined → t'.OneLined → (t.render = t'.render ↔ t.entries = t'.entries)) ∧
    ∀ (σ : Type) (env : System σ) (launch : Launch) (clock : Instant) (s : σ) (o : Observation σ)
      (calls : List Observation.Call), Observation.spawn env launch clock s = .ok o →
      (o.performAll env calls).2.transcript.OneLined := by
  refine ⟨fun t ht => ⟨splitOn_render ht, readRendered_render ht⟩, fun t t' ht ht' => ⟨fun h => ?_, fun h => ?_⟩,
    fun σ env launch clock s o calls hspawn => Observation.oneLined_performAll hspawn calls⟩
  · calc t.entries
      _ = readRendered t.render := (readRendered_render ht).symm
      _ = readRendered t'.render := by rw [h]
      _ = t'.entries := readRendered_render ht'
  · rw [← String.toList_inj, toList_render, toList_render, h]

/-- An empty text, and one that looks like a printed line, after more milliseconds than the padding is wide; it is not
printed like the line that it looks like. -/
theorem render_unambiguous_imitation :
    let t : Transcript := { lines := [.arrive "" ⟨-5⟩, .arrive "[+    1ms] x\r" ⟨123456789012⟩] }
    let imitated : Transcript := { lines := [.arrive "" ⟨-5⟩, .arrive "x\r" ⟨1000000⟩] }
    t.OneLined ∧ imitated.OneLined ∧ readRendered t.render = [(0, ""), (123456, "[+    1ms] x\r")] ∧
      t.render ≠ imitated.render ∧
      Observation.spawn Observation.tardy { program := [] } .start () = .ok Observation.tardyStart ∧
      (Observation.tardyStart.performAll Observation.tardy []).2.transcript.OneLined := by
  intro t imitated
  have ht : t.OneLined := by decide
  have himitated : imitated.OneLined := by decide
  obtain ⟨hread, halike, hcaptured⟩ := render_unambiguous
  refine ⟨ht, himitated, (hread t ht).2.trans (by decide), fun h => ?_, Observation.spawn_tardy,
    hcaptured Unit _ _ _ _ _ [] Observation.spawn_tardy⟩
  exact absurd ((halike t imitated ht himitated).mp h) (by decide)

end OrderlyExit.Transcript
