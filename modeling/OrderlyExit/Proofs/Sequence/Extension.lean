import OrderlyExit.Proofs.Sequence.Acceptance

/-! How a verdict evolves while lines arrive. Each stage looks at the next marker only, so a deviation that has been
    found stays, an acceptance lasts until the next marker, and a missing marker is missing until any marker comes.
    Lines that are no markers change nothing behind the first line. -/

namespace OrderlyExit

/-- The violation stays, whatever arrives later. -/
def SequenceViolation.isFinal : SequenceViolation → Bool
  | .noMarkers | .missing _ => false
  | .startupNotFirst _ | .startupNotFirstLine _ | .outOfOrder _ _ | .pidMismatch _ _ | .cleanupTooShort _ _
  | .trailing _ => true

namespace ShutdownSequence
open Transcript

variable {minimum : Duration} {pid : UInt32} {start : Instant} {name : String} {ms : List (Marker × Instant)}

/-! ### Markers that are missing -/

theorem afterPid_eq_missing (h : afterPid minimum pid start ms = .error (.missing name)) :
    ms = [] ∧ name = "GRACEFUL_SHUTDOWN_COMPLETE" := by
  unfold afterPid at h
  split at h
  · cases h
    exact ⟨rfl, rfl⟩
  · split at h
    · cases h
    · split at h <;> cases h
  · cases h

theorem afterStart_eq_missing (h : afterStart minimum pid ms = .error (.missing name)) :
    ms = [] ∧ name = "GRACEFUL_SHUTDOWN_PID" ∨
      ∃ start rest, ms = (.shutdownPid pid, start) :: rest ∧
        afterPid minimum pid start rest = .error (.missing name) := by
  unfold afterStart at h
  split at h
  · cases h
    exact Or.inl ⟨rfl, rfl⟩
  · rename_i found start rest
    split at h
    · cases h
    · rename_i hown
      obtain rfl : found = pid := Decidable.not_not.mp hown
      exact Or.inr ⟨start, rest, rfl, h⟩
  · cases h

theorem afterStartup_eq_missing (h : afterStartup minimum pid ms = .error (.missing name)) :
    ms = [] ∧ name = "GRACEFUL_SHUTDOWN_START" ∨
      ∃ stamp rest, ms = (.shutdownStart, stamp) :: rest ∧ afterStart minimum pid rest = .error (.missing name) := by
  unfold afterStartup at h
  split at h
  · cases h
    exact Or.inl ⟨rfl, rfl⟩
  · rename_i stamp rest
    exact Or.inr ⟨stamp, rest, rfl, h⟩
  · cases h

/-! ### Stages -/

/-- How a verdict on markers evolves when more of them come. -/
structure Evolves (judge : List (Marker × Instant) → Except SequenceViolation ShutdownSequence) : Prop where
  final : ∀ {ms v}, judge ms = .error v → v.isFinal = true → ∀ more, judge (ms ++ more) = .error v
  accepted : ∀ {ms s}, judge ms = .ok s → ∀ m stamp more, judge (ms ++ (m, stamp) :: more) = .error (.trailing m)
  missing : ∀ {ms name}, judge ms = .error (.missing name) →
    ∀ x more, judge (ms ++ x :: more) ≠ .error (.missing name)

theorem evolves_afterPid (minimum : Duration) (pid : UInt32) (start : Instant) :
    Evolves (afterPid minimum pid start) where
  final {ms v} h hfinal more := by
    rcases ms with _ | ⟨⟨m, stop⟩, ms⟩
    · cases h
      cases hfinal
    cases m with
    | shutdownComplete =>
      simp only [afterPid, List.cons_append] at h ⊢
      split at h
      · rename_i hshort
        rw [if_pos hshort, h]
      · rename_i hlong
        rw [if_neg hlong]
        rcases ms with _ | ⟨extra, ms⟩
        · cases h
        · exact h
    | _ => exact h
  accepted {ms s} h m stamp more := by
    obtain ⟨stop, rfl, rfl, hlong⟩ := afterPid_eq_ok_iff.mp h
    exact if_neg (Nat.not_lt_of_le hlong)
  missing {ms name} h x more h' := by
    obtain ⟨rfl, rfl⟩ := afterPid_eq_missing h
    cases (afterPid_eq_missing h').1

theorem evolves_afterStart (minimum : Duration) (pid : UInt32) : Evolves (afterStart minimum pid) where
  final {ms v} h hfinal more := by
    rcases ms with _ | ⟨⟨m, start⟩, ms⟩
    · cases h
      cases hfinal
    cases m with
    | shutdownPid found =>
      simp only [afterStart, List.cons_append] at h ⊢
      split at h
      · rename_i hother
        rw [if_pos hother, h]
      · rename_i hown
        rw [if_neg hown]
        exact (evolves_afterPid minimum pid start).final h hfinal more
    | _ => exact h
  accepted {ms s} h m stamp more := by
    obtain ⟨start, rest, rfl, hrest⟩ := afterStart_eq_ok_iff.mp h
    rw [List.cons_append, afterStart_own]
    exact (evolves_afterPid minimum pid start).accepted hrest m stamp more
  missing {ms name} h x more h' := by
    rcases afterStart_eq_missing h with ⟨rfl, rfl⟩ | ⟨start, rest, rfl, hrest⟩
    -- a process id that has come is not missing, and behind it something else is
    · rcases afterStart_eq_missing h' with ⟨hnil, -⟩ | ⟨start, rest, -, h'⟩
      · cases hnil
      · exact absurd (afterPid_eq_missing h').2 (by decide)
    · rw [List.cons_append, afterStart_own] at h'
      exact (evolves_afterPid minimum pid start).missing hrest x more h'

theorem evolves_afterStartup (minimum : Duration) (pid : UInt32) : Evolves (afterStartup minimum pid) where
  final {ms v} h hfinal more := by
    rcases ms with _ | ⟨⟨m, stamp⟩, ms⟩
    · cases h
      cases hfinal
    cases m with
    | shutdownStart => exact (evolves_afterStart minimum pid).final h hfinal more
    | _ => exact h
  accepted {ms s} h m stamp more := by
    obtain ⟨_, rest, rfl, hrest⟩ := afterStartup_eq_ok_iff.mp h
    exact (evolves_afterStart minimum pid).accepted hrest m stamp more
  missing {ms name} h x more h' := by
    rcases afterStartup_eq_missing h with ⟨rfl, rfl⟩ | ⟨stamp, rest, rfl, hrest⟩
    · rcases afterStartup_eq_missing h' with ⟨hnil, -⟩ | ⟨stamp, rest, -, h'⟩
      · cases hnil
      · rcases afterStart_eq_missing h' with ⟨-, hname⟩ | ⟨start, rest, -, h'⟩
        · exact absurd hname (by decide)
        · exact absurd (afterPid_eq_missing h').2 (by decide)
    · exact (evolves_afterStart minimum pid).missing hrest x more h'

theorem evolves_fromFirst (minimum : Duration) (first : ObservedLine) : Evolves (fromFirst minimum first) := by
  cases hm : first.marker with
  | none =>
    refine ⟨fun {ms v} h hfinal more => ?_, fun {ms s} h => ?_, fun {ms name} h => ?_⟩
    · rcases ms with _ | ⟨x, ms⟩
      · simp only [fromFirst, hm] at h
        cases h
        cases hfinal
      · simp only [fromFirst, hm, List.cons_append] at h ⊢
        exact h
    · rcases ms with _ | ⟨x, ms⟩ <;> simp only [fromFirst, hm] at h <;> cases h
    · rcases ms with _ | ⟨x, ms⟩ <;> simp only [fromFirst, hm] at h <;> cases h
  | some m =>
    cases m with
    | processStarted pid =>
      have hjudge : fromFirst minimum first = afterStartup minimum pid :=
        funext fun rest => fromFirst_of_startup hm minimum rest
      exact hjudge ▸ evolves_afterStartup minimum pid
    | _ =>
      -- the first marker is not that of a startup, and no other one is looked at
      refine ⟨fun {ms v} h _ more => ?_, fun {ms s} h => ?_, fun {ms name} h => ?_⟩
      · simp only [fromFirst, hm] at h ⊢
        exact h
      · simp only [fromFirst, hm] at h
        cases h
      · simp only [fromFirst, hm] at h
        cases h

/-! ### Transcripts -/

variable {t : Transcript}

/-- With more lines, the verdict is that on the same first line and more markers. -/
theorem verify_pushAll_cons {first : ObservedLine} {rest : List ObservedLine} (h : t.lines = first :: rest)
    (ls : List ObservedLine) (minimum : Duration) :
    verify (t.pushAll ls) minimum = fromFirst minimum first (stampedMarkers rest ++ stampedMarkers ls) := by
  have hlines : (t.pushAll ls).lines = first :: (rest ++ ls) := by rw [lines_pushAll, h, List.cons_append]
  rw [verify_cons hlines, stampedMarkers_append]

theorem lines_ne_nil_of_verify {r : Except SequenceViolation ShutdownSequence} (h : verify t minimum = r)
    (hr : r ≠ .error .noMarkers) : ∃ first rest, t.lines = first :: rest := by
  refine List.exists_cons_of_ne_nil fun hnil => hr ?_
  rw [← h, verify_nil hnil]

/-- How the verdict on a transcript evolves when lines are added. A deviation that has been found stays. An acceptance
lasts until the next marker, and this one is then in excess. A marker is missing until any marker comes. A transcript
that opens with other lines is never accepted. And behind the first line, lines that are no markers change nothing, now
or later. -/
theorem verify_pushAll (t : Transcript) (ls : List ObservedLine) (minimum : Duration) :
    (∀ v, verify t minimum = .error v → v.isFinal = true → verify (t.pushAll ls) minimum = .error v) ∧
    (∀ s, verify t minimum = .ok s →
      verify (t.pushAll ls) minimum =
        match ls.findSome? (·.marker) with
        | none => .ok s
        | some m => .error (.trailing m)) ∧
    (∀ name, verify t minimum = .error (.missing name) → (∃ l ∈ ls, l.marker ≠ none) →
      verify (t.pushAll ls) minimum ≠ .error (.missing name)) ∧
    (t.lines ≠ [] → (∀ l ∈ t.lines, l.marker = none) → ∀ s, verify (t.pushAll ls) minimum ≠ .ok s) ∧
    (t.lines ≠ [] → (∀ l ∈ ls, l.marker = none) →
      verify (t.pushAll ls) minimum = verify t minimum ∧
        ∀ more, verify ((t.pushAll ls).pushAll more) minimum = verify (t.pushAll more) minimum) := by
  refine ⟨fun v h hfinal => ?_, fun s h => ?_, fun name h hmarker => ?_, fun hne hnone s h => ?_, fun hne hnone => ?_⟩
  · obtain ⟨first, rest, hlines⟩ := lines_ne_nil_of_verify h (by rintro ⟨⟩; cases hfinal)
    rw [verify_cons hlines] at h
    rw [verify_pushAll_cons hlines]
    exact (evolves_fromFirst minimum first).final h hfinal _
  · obtain ⟨first, rest, hlines⟩ := lines_ne_nil_of_verify h (fun h => nomatch h)
    rw [verify_cons hlines] at h
    rw [verify_pushAll_cons hlines]
    rcases findSome?_marker_cases ls with ⟨hfind, hms⟩ | ⟨m, stamp, ms, hfind, hms⟩
    · rw [hfind, hms, List.append_nil]
      exact h
    · rw [hfind, hms]
      exact (evolves_fromFirst minimum first).accepted h m stamp ms
  · obtain ⟨first, rest, hlines⟩ := lines_ne_nil_of_verify h (fun h => nomatch h)
    rw [verify_cons hlines] at h
    rw [verify_pushAll_cons hlines]
    obtain ⟨x, ms, hms⟩ := List.exists_cons_of_ne_nil (l := stampedMarkers ls) fun hnil => by
      obtain ⟨l, hl, hsome⟩ := hmarker
      exact hsome (stampedMarkers_eq_nil_iff.mp hnil l hl)
    rw [hms]
    exact (evolves_fromFirst minimum first).missing h x ms
  · obtain ⟨first, rest, hlines⟩ := List.exists_cons_of_ne_nil hne
    have hfirst := hnone first (hlines ▸ List.mem_cons_self)
    rw [verify_pushAll_cons hlines, fromFirst_eq_ok_iff] at h
    obtain ⟨pid, hpid, -⟩ := h
    exact nomatch hfirst.symm.trans hpid
  · obtain ⟨first, rest, hlines⟩ := List.exists_cons_of_ne_nil hne
    have hms := stampedMarkers_eq_nil_iff.mpr hnone
    have hmore : (t.pushAll ls).lines = first :: (rest ++ ls) := by rw [lines_pushAll, hlines, List.cons_append]
    refine ⟨?_, fun more => ?_⟩
    · rw [verify_pushAll_cons hlines, verify_cons hlines, hms, List.append_nil]
    · rw [verify_pushAll_cons hmore, verify_pushAll_cons hlines, stampedMarkers_append, hms, List.append_nil]

end ShutdownSequence
end OrderlyExit
