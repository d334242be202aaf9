import OrderlyExit.Proofs.Capture.Transcript
import OrderlyExit.Sequence

/-! The verdict on a transcript depends on its first line and on the stamped markers behind it. It is taken
    stage by stage, and each stage looks at the next marker only. -/

namespace OrderlyExit
namespace ShutdownSequence
open Transcript

/-! ### The stages -/

/-- The verdict on the markers after the announcement of the end, which came with `pid` at `start`. -/
def afterPid (minimum : Duration) (pid : UInt32) (start : Instant) :
    List (Marker × Instant) → Except SequenceViolation ShutdownSequence
  | [] => .error (.missing "GRACEFUL_SHUTDOWN_COMPLETE")
  | (.shutdownComplete, stop) :: rest =>
    if (stop.since start).nanos < minimum.nanos then .error (.cleanupTooShort (stop.since start) minimum)
    else
      match rest with
      | [] => .ok ⟨pid, stop.since start⟩
      | (extra, _) :: _ => .error (.trailing extra)
  | (found, _) :: _ => .error (.outOfOrder "GRACEFUL_SHUTDOWN_COMPLETE" found)

/-- The verdict on the markers after the start of the end. -/
def afterStart (minimum : Duration) (pid : UInt32) :
    List (Marker × Instant) → Except SequenceViolation ShutdownSequence
  | [] => .error (.missing "GRACEFUL_SHUTDOWN_PID")
  | (.shutdownPid found, start) :: rest =>
    if found ≠ pid then .error (.pidMismatch pid found) else afterPid minimum pid start rest
  | (found, _) :: _ => .error (.outOfOrder "GRACEFUL_SHUTDOWN_PID" found)

/-- The verdict on the markers after the startup. -/
def afterStartup (minimum : Duration) (pid : UInt32) :
    List (Marker × Instant) → Except SequenceViolation ShutdownSequence
  | [] => .error (.missing "GRACEFUL_SHUTDOWN_START")
  | (.shutdownStart, _) :: rest => afterStart minimum pid rest
  | (found, _) :: _ => .error (.outOfOrder "GRACEFUL_SHUTDOWN_START" found)

/-- The verdict on a first line and the markers on the lines behind it. -/
def fromFirst (minimum : Duration) (first : ObservedLine) (rest : List (Marker × Instant)) :
    Except SequenceViolation ShutdownSequence :=
  match first.marker with
  | some (.processStarted pid) => afterStartup minimum pid rest
  | some found => .error (.startupNotFirst found)
  | none =>
    match rest with
    | [] => .error .noMarkers
    | _ :: _ => .error (.startupNotFirstLine first.text)

/-! ### Stages that are passed -/

theorem fromFirst_of_startup {first : ObservedLine} {pid : UInt32} (h : first.marker = some (.processStarted pid))
    (minimum : Duration) (rest : List (Marker × Instant)) :
    fromFirst minimum first rest = afterStartup minimum pid rest := by
  simp only [fromFirst, h]

theorem afterStart_own (minimum : Duration) (pid : UInt32) (start : Instant) (rest : List (Marker × Instant)) :
    afterStart minimum pid ((.shutdownPid pid, start) :: rest) = afterPid minimum pid start rest :=
  if_neg fun h => h rfl

theorem afterPid_complete (minimum : Duration) (pid : UInt32) (start stop : Instant) :
    afterPid minimum pid start [(.shutdownComplete, stop)] =
      if minimum.nanos ≤ (stop.since start).nanos then .ok ⟨pid, stop.since start⟩
      else .error (.cleanupTooShort (stop.since start) minimum) := by
  by_cases hlong : minimum.nanos ≤ (stop.since start).nanos
  · rw [if_pos hlong]
    exact if_neg (Nat.not_lt_of_le hlong)
  · rw [if_neg hlong]
    exact if_pos (Nat.lt_of_not_le hlong)

/-! ### The verdict goes through the stages -/

@[simp] theorem ok_bind {ε α β : Type} (a : α) (f : α → Except ε β) : ((.ok a : Except ε α) >>= f) = f a := rfl

@[simp] theorem error_bind {ε α β : Type} (e : ε) (f : α → Except ε β) : ((.error e : Except ε α) >>= f) = .error e :=
  rfl

@[simp] theorem pure_eq {ε α : Type} (a : α) : (pure a : Except ε α) = .ok a := rfl

@[simp] theorem throw_eq {ε α : Type} (e : ε) : (throw e : Except ε α) = .error e := rfl

@[simp] theorem expect_nil (name : String) (isExpected : Marker → Bool) :
    expect name isExpected [] = .error (.missing name) := rfl

@[simp] theorem expect_cons (name : String) (isExpected : Marker → Bool) (x : ObservedLine × Marker)
    (rest : List (ObservedLine × Marker)) :
    expect name isExpected (x :: rest) = if isExpected x.2 then .ok (x, rest) else .error (.outOfOrder name x.2) :=
  rfl

theorem afterPid_eq (minimum : Duration) (pid : UInt32) (pidLine : ObservedLine)
    (rest : List (ObservedLine × Marker)) :
    (do
      let ((completeLine, _), rest) ← expect "GRACEFUL_SHUTDOWN_COMPLETE" Marker.isShutdownComplete rest
      let cleanup := completeLine.stamp.since pidLine.stamp
      if cleanup.nanos < minimum.nanos then throw (.cleanupTooShort cleanup minimum)
      match rest with
      | (_, extra) :: _ => throw (.trailing extra)
      | [] => return ⟨pid, cleanup⟩) = afterPid minimum pid pidLine.stamp (rest.map stamped) := by
  rcases rest with _ | ⟨⟨line, m⟩, rest⟩
  · rfl
  cases m with
  | shutdownComplete =>
    by_cases hshort : (line.stamp.since pidLine.stamp).nanos < minimum.nanos
    · simp [Marker.isShutdownComplete, afterPid, stamped, hshort]
    · cases rest with
      | nil => simp [Marker.isShutdownComplete, afterPid, stamped, hshort]
      | cons extra rest => simp [Marker.isShutdownComplete, afterPid, stamped, hshort]
  | _ => rfl

theorem verify_of_startup {t : Transcript} {pid : UInt32} {rest : List (ObservedLine × Marker)}
    (h : startup t = .ok (pid, rest)) (minimum : Duration) :
    verify t minimum = afterStartup minimum pid (rest.map stamped) := by
  simp only [verify, h, ok_bind]
  rcases rest with _ | ⟨⟨line₁, m₁⟩, rest⟩
  · rfl
  cases m₁ with
  | shutdownStart =>
    rcases rest with _ | ⟨⟨line₂, m₂⟩, rest⟩
    · rfl
    cases m₂ with
    | shutdownPid found =>
      by_cases hfound : found = pid
      · subst hfound
        simp only [expect_cons, Marker.isShutdownStart, Marker.isShutdownPid, Marker.pid?, ↓reduceIte, ok_bind, ne_eq,
          not_true_eq_false]
        exact (afterPid_eq minimum found line₂ rest).trans (if_neg (fun h => h rfl)).symm
      · simp [Marker.isShutdownStart, Marker.isShutdownPid, Marker.pid?, stamped, afterStartup, afterStart, hfound]
    | _ => rfl
  | _ => rfl

theorem verify_of_startup_error {t : Transcript} {v : SequenceViolation} (h : startup t = .error v)
    (minimum : Duration) : verify t minimum = .error v := by
  simp only [verify, h, error_bind]

theorem verify_nil {t : Transcript} (h : t.lines = []) (minimum : Duration) : verify t minimum = .error .noMarkers :=
  verify_of_startup_error (by simp [startup, opensWithOther, markers, h]) minimum

/-- Behind a first line that is no marker, any marker comes too late. -/
theorem startup_of_other {t : Transcript} {first : ObservedLine} {rest : List ObservedLine}
    (h : t.lines = first :: rest) (hm : first.marker = none) :
    startup t =
      match stampedMarkers rest with
      | [] => .error .noMarkers
      | _ :: _ => .error (.startupNotFirstLine first.text) := by
  have hmarkers := markers_cons h
  rw [hm, Option.map_none, Option.toList_none, List.nil_append] at hmarkers
  rw [← map_stamped_markers { t with lines := rest }, ← hmarkers]
  cases hcase : t.markers with
  | nil => simp [startup, opensWithOther, h, hcase]
  | cons x more => simp [startup, opensWithOther, h, hm, hcase]

theorem startup_of_marker {t : Transcript} {first : ObservedLine} {rest : List ObservedLine} {m : Marker}
    (h : t.lines = first :: rest) (hm : first.marker = some m) :
    startup t =
      match m with
      | .processStarted pid => .ok (pid, markers { t with lines := rest })
      | found => .error (.startupNotFirst found) := by
  have hmarkers := markers_cons h
  rw [hm, Option.map_some, Option.toList_some, List.singleton_append] at hmarkers
  have hopens : opensWithOther t = none := by simp [opensWithOther, h, hm]
  simp only [startup, hopens, hmarkers]
  cases m <;> rfl

theorem verify_cons {t : Transcript} {first : ObservedLine} {rest : List ObservedLine} (h : t.lines = first :: rest)
    (minimum : Duration) : verify t minimum = fromFirst minimum first (stampedMarkers rest) := by
  cases hm : first.marker with
  | none =>
    have hstartup := startup_of_other h hm
    simp only [fromFirst, hm]
    cases hrest : stampedMarkers rest with
    | nil => exact verify_of_startup_error (by rw [hstartup, hrest]) minimum
    | cons x more => exact verify_of_startup_error (by rw [hstartup, hrest]) minimum
  | some m =>
    have hstartup := startup_of_marker h hm
    simp only [fromFirst, hm, ← map_stamped_markers { t with lines := rest }]
    cases m with
    | processStarted pid => exact verify_of_startup hstartup minimum
    | _ => exact verify_of_startup_error hstartup minimum

/-! ### Lines that arrive one after another -/

theorem verify_ofArrivals_nil (started : Instant) (minimum : Duration) :
    verify (.ofArrivals started []) minimum = .error .noMarkers := verify_nil rfl minimum

theorem verify_ofArrivals_cons (started : Instant) (first : String × Instant) (rest : List (String × Instant))
    (minimum : Duration) :
    verify (.ofArrivals started (first :: rest)) minimum =
      fromFirst minimum (.arrive first.1 first.2) (arrivedMarkers rest) := by
  rw [verify_cons (lines_ofArrivals started (first :: rest)), stampedMarkers_arrivals]

theorem verify_ofArrivals_startup {text : String} {pid : UInt32} (h : Marker.parse? text = some (.processStarted pid))
    (started stamp : Instant) (rest : List (String × Instant)) (minimum : Duration) :
    verify (.ofArrivals started ((text, stamp) :: rest)) minimum =
      afterStartup minimum pid (arrivedMarkers rest) := by
  have hfirst : (ObservedLine.arrive text stamp).marker = some (.processStarted pid) := h
  rw [verify_ofArrivals_cons, fromFirst_of_startup hfirst]

/-- Without a marker there is nothing to judge. -/
theorem verify_of_noise {arrivals : List (String × Instant)} (h : ∀ a ∈ arrivals, Marker.parse? a.1 = none)
    (started : Instant) (minimum : Duration) : verify (.ofArrivals started arrivals) minimum = .error .noMarkers := by
  cases arrivals with
  | nil => exact verify_ofArrivals_nil started minimum
  | cons first rest =>
    obtain ⟨hfirst, hrest⟩ := List.forall_mem_cons.mp h
    rw [verify_ofArrivals_cons, arrivedMarkers_eq_nil_iff.mpr hrest]
    simp only [fromFirst, ObservedLine.arrive, hfirst]

end ShutdownSequence
end OrderlyExit
