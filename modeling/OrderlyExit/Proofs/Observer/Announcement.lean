import OrderlyExit.Proofs.Observer.Calls
import OrderlyExit.Proofs.Sequence.Acceptance

/-! The process that is announced to a caller. A startup that has been waited for is in the transcript, wherever it
    stood in the output; and a transcript that is accepted has one startup only, so it is about this process. -/

namespace OrderlyExit

/-! ### One startup -/

/-- A transcript that is accepted has no startup of another process. -/
theorem ShutdownSequence.pid_eq_of_verify {t : Transcript} {minimum : Duration} {s : ShutdownSequence}
    {l : ObservedLine} {pid : UInt32} (h : verify t minimum = .ok s) (hl : l ∈ t.lines)
    (hm : l.marker = some (.processStarted pid)) : s.pid = pid := by
  obtain ⟨first, rest, hlines⟩ := List.exists_cons_of_ne_nil (List.ne_nil_of_mem hl)
  rw [verify_cons hlines, fromFirst_eq_ok_iff_markers] at h
  obtain ⟨hfirst, i₁, i₂, i₃, hrest, -, -⟩ := h
  rcases List.mem_cons.mp (hlines ▸ hl) with rfl | hl
  · exact Marker.processStarted.inj (Option.some.inj (hfirst.symm.trans hm))
  · -- behind the first line every marker is one of an end
    have hmem : (Marker.processStarted pid, l.stamp) ∈ stampedMarkers rest :=
      List.mem_filterMap.mpr ⟨l, hl, by rw [hm]; rfl⟩
    rw [hrest] at hmem
    simp at hmem

namespace Observation

universe u
variable {σ : Type u} {env : System σ}

/-! ### Announced processes -/

/-- A startup that a caller has waited for is in the transcript from then on. -/
theorem startup_mem_lines {o : Observation σ} {calls : List Call} {pid : UInt32}
    (h : Answer.waitForStartup (.ok pid) ∈ (o.performAll env calls).1) :
    ∃ l ∈ (o.performAll env calls).2.transcript.lines, l.marker = some (.processStarted pid) := by
  obtain ⟨reads, hlines, hhands⟩ := reads_performAll env calls o
  rw [hlines]
  generalize (o.performAll env calls).1 = answers at h hhands
  clear hlines
  induction hhands with
  | nil => cases h
  | @cons answer read answers reads hands _ ih =>
    rcases List.mem_cons.mp h with rfl | h
    · obtain ⟨skipped, l, rfl, hm⟩ := hands
      exact ⟨l, by simp, hm⟩
    · obtain ⟨l, hl, hm⟩ := ih h
      refine ⟨l, ?_, hm⟩
      simp only [List.flatten_cons, List.mem_append] at hl ⊢
      exact hl.imp_right Or.inr

/-- The process that has been announced to a caller is the one that an accepted transcript is about, whatever has been
read before and is read after. -/
theorem pid_of_announced (env : System σ) (o : Observation σ) (calls : List Call) (minimum : Duration) {pid : UInt32}
    {s : ShutdownSequence} (hannounced : Answer.waitForStartup (.ok pid) ∈ (o.performAll env calls).1)
    (haccepted : ShutdownSequence.verify (o.performAll env calls).2.transcript minimum = .ok s) : s.pid = pid := by
  obtain ⟨l, hl, hm⟩ := startup_mem_lines hannounced
  exact ShutdownSequence.pid_eq_of_verify haccepted hl hm

/-- A system on which nothing happens any more. -/
def still : System Unit where
  spawn _ _ := (.ok { pid := some 7 }, ())
  advance _ _ _ := (none, ())
  send _ _ _ := (none, [], ())
  reap _ _ := ()

/-- A program that has written its four lines and closed its output, and none of them has been read. -/
def unreadExit : Observation Unit where
  system := ()
  pid := 7
  clock := ⟨200000000⟩
  capture := .closed
  transcript := {}
  unread := [.arrive (Marker.processStarted 7).text .start, .arrive Marker.shutdownStart.text .start,
    .arrive (Marker.shutdownPid 7).text .start, .arrive Marker.shutdownComplete.text ⟨200000000⟩]

/-- The process that its first line announces is the one that all of them are about. -/
theorem pid_of_announced_unreadExit :
    let run := unreadExit.performAll still [.waitForStartup (.ofSecs 5), .drain (.ofSecs 5)]
    Answer.waitForStartup (.ok 7) ∈ run.1 ∧
      ∃ s, ShutdownSequence.verify run.2.transcript ShutdownSequence.minCleanup = .ok s ∧ s.pid = 7 := by
  intro run
  let announced : Observation Unit :=
    { unreadExit with
      unread := unreadExit.unread.tail
      transcript := { lines := [.arrive (Marker.processStarted 7).text .start] } }
  have hmarker : (ObservedLine.arrive (Marker.processStarted 7).text .start).marker = some (.processStarted 7) :=
    Marker.parse?_text _
  have hstartup : unreadExit.waitForStartup still (.ofSecs 5) = (.ok 7, announced) := by
    have hdeadline : unreadExit.clock.after? (.ofSecs 5) = some ⟨5200000000⟩ := by decide
    have hnext := nextLine_of_unread (o := unreadExit) rfl rfl still (Instant.since ⟨5200000000⟩ unreadExit.clock)
    simp only [waitForStartup_eq, expectMarker_of_fits hdeadline, seek_of_line hnext, hmarker, Option.any_some,
      Marker.isProcessStarted, ↓reduceIte]
    simp only [Prod.map, markerAnswer, startupPid, hmarker]
    rfl
  have hfits : (announced.clock.plus (.ofSecs 5)).nanos ≤ Instant.last.nanos := by
    show (5200000000 : Int) ≤ Instant.last.nanos
    decide
  have hdrain := @drain_of_closed _ announced still (.ofSecs 5) hfits rfl (by decide) rfl
  have hrun : run = ([.waitForStartup (.ok 7), .drain (.ok true)], announced.readOut) := by
    simp only [run, performAll, perform, hstartup, Prod.map, id_eq, hdrain]
  have hannounced : Answer.waitForStartup (.ok 7) ∈ run.1 := by
    rw [hrun]
    exact List.mem_cons_self
  have haccepted : ShutdownSequence.verify run.2.transcript ShutdownSequence.minCleanup = .ok ⟨7, ⟨200000000⟩⟩ := by
    rw [hrun]
    refine (ShutdownSequence.verify_cons rfl _).trans (ShutdownSequence.fromFirst_eq_ok_iff_markers.mpr
      ⟨hmarker, .start, .start, ⟨200000000⟩, ?_, rfl, by decide⟩)
    show stampedMarkers [.arrive Marker.shutdownStart.text .start, .arrive (Marker.shutdownPid 7).text .start,
      .arrive Marker.shutdownComplete.text ⟨200000000⟩] = _
    simp only [stampedMarkers, ObservedLine.arrive, Marker.parse?_text, List.filterMap_cons, Option.map_some]
    rfl
  exact ⟨hannounced, _, haccepted, pid_of_announced still unreadExit _ _ hannounced haccepted⟩

end Observation
end OrderlyExit
