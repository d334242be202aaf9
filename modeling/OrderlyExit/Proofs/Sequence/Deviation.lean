import OrderlyExit.Proofs.Sequence.Verdict

/-! What a rejection names: the first place at which the markers of a transcript are not those of an orderly exit. A
    first line that is no marker comes before that, and what is wrong with all four markers in place comes after it. -/

namespace OrderlyExit
namespace ShutdownSequence
open Transcript

variable {t : Transcript} {minimum : Duration} {v : SequenceViolation} {pid : UInt32} {k : Nat}

/-! ### Deviations -/

/-- The markers of an orderly exit of the process `pid`. -/
def orderly (pid : UInt32) : List Marker :=
  [.processStarted pid, .shutdownStart, .shutdownPid pid, .shutdownComplete]

/-- What these markers are called, in their order. -/
def orderlyNames : List String :=
  ["PROCESS_STARTED_PID", "GRACEFUL_SHUTDOWN_START", "GRACEFUL_SHUTDOWN_PID", "GRACEFUL_SHUTDOWN_COMPLETE"]

/-- The first line is a marker. -/
def Opens (t : Transcript) : Prop := ∃ first, t.lines.head? = some first ∧ first.marker.isSome

/-- The first line is a marker, and the first `k` markers are those of an orderly exit of `pid`. -/
structure Agrees (t : Transcript) (pid : UInt32) (k : Nat) : Prop where
  opens : Opens t
  markers : (t.markers.map Prod.snd).take k = (orderly pid).take k

/-- The first deviation of a transcript from an orderly exit. A process id other than that of the startup has a name of
its own, and what comes behind it does not count. -/
inductive FirstDeviation (minimum : Duration) (t : Transcript) : SequenceViolation → Prop
  | noMarkers (none : t.markers = []) : FirstDeviation minimum t .noMarkers
  | startupNotFirstLine {first : ObservedLine} (some : t.markers ≠ []) (head : t.lines.head? = .some first)
      (other : first.marker = none) : FirstDeviation minimum t (.startupNotFirstLine first.text)
  | startupNotFirst {line : ObservedLine} {found : Marker} (opens : Opens t)
      (head : t.markers.head? = some (line, found)) (other : ∀ pid, found ≠ .processStarted pid) :
      FirstDeviation minimum t (.startupNotFirst found)
  | missing {pid : UInt32} {k : Nat} {name : String} (behind : 0 < k) (agrees : Agrees t pid k)
      (named : orderlyNames[k]? = some name) (short : t.markers.length = k) : FirstDeviation minimum t (.missing name)
  | outOfOrder {pid : UInt32} {k : Nat} {name : String} {line : ObservedLine} {found : Marker} (behind : 0 < k)
      (agrees : Agrees t pid k) (named : orderlyNames[k]? = some name) (here : t.markers[k]? = some (line, found))
      (other : (orderly pid)[k]? ≠ some found) (kind : ¬(k = 2 ∧ found.isShutdownPid)) :
      FirstDeviation minimum t (.outOfOrder name found)
  | pidMismatch {pid found : UInt32} {line : ObservedLine} (agrees : Agrees t pid 2)
      (here : t.markers[2]? = some (line, .shutdownPid found)) (other : found ≠ pid) :
      FirstDeviation minimum t (.pidMismatch pid found)
  | cleanupTooShort {pid : UInt32} {pidLine completeLine : ObservedLine} (agrees : Agrees t pid 4)
      (start : t.markers[2]? = some (pidLine, .shutdownPid pid))
      (stop : t.markers[3]? = some (completeLine, .shutdownComplete))
      (short : (completeLine.stamp.since pidLine.stamp).nanos < minimum.nanos) :
      FirstDeviation minimum t (.cleanupTooShort (completeLine.stamp.since pidLine.stamp) minimum)
  | trailing {pid : UInt32} {pidLine completeLine line : ObservedLine} {extra : Marker} (agrees : Agrees t pid 4)
      (start : t.markers[2]? = some (pidLine, .shutdownPid pid))
      (stop : t.markers[3]? = some (completeLine, .shutdownComplete))
      (long : minimum.nanos ≤ (completeLine.stamp.since pidLine.stamp).nanos)
      (here : t.markers[4]? = some (line, extra)) : FirstDeviation minimum t (.trailing extra)

/-! ### A rejection is a deviation -/

theorem deviates_after_pid {first start pidLine : ObservedLine} {rest : List (ObservedLine × Marker)} (hopens : Opens t)
    (hmarkers : t.markers =
      (first, .processStarted pid) :: (start, .shutdownStart) :: (pidLine, .shutdownPid pid) :: rest)
    (h : afterPid minimum pid pidLine.stamp (rest.map stamped) = .error v) : FirstDeviation minimum t v := by
  have hagrees : Agrees t pid 3 := ⟨hopens, by rw [hmarkers]; rfl⟩
  rcases rest with _ | ⟨⟨line, m⟩, rest⟩
  · cases h
    exact .missing (Nat.succ_pos 2) hagrees rfl (by rw [hmarkers]; rfl)
  cases m with
  | shutdownComplete =>
    have hall : Agrees t pid 4 := ⟨hopens, by rw [hmarkers]; rfl⟩
    have hstart : t.markers[2]? = some (pidLine, .shutdownPid pid) := by rw [hmarkers]; rfl
    have hstop : t.markers[3]? = some (line, .shutdownComplete) := by rw [hmarkers]; rfl
    simp only [List.map_cons, stamped, afterPid] at h
    split at h
    · rename_i hshort
      cases h
      exact .cleanupTooShort hall hstart hstop hshort
    · rename_i hlong
      rcases rest with _ | ⟨⟨extraLine, extra⟩, rest⟩
      · cases h
      · cases h
        exact .trailing hall hstart hstop (Nat.le_of_not_lt hlong) (by rw [hmarkers]; rfl)
  | _ =>
    cases h
    exact .outOfOrder (Nat.succ_pos 2) hagrees rfl (by rw [hmarkers]; rfl) (fun h => by cases h) (fun h => by cases h.1)

theorem deviates_after_start {first start : ObservedLine} {rest : List (ObservedLine × Marker)} (hopens : Opens t)
    (hmarkers : t.markers = (first, .processStarted pid) :: (start, .shutdownStart) :: rest)
    (h : afterStart minimum pid (rest.map stamped) = .error v) : FirstDeviation minimum t v := by
  have hagrees : Agrees t pid 2 := ⟨hopens, by rw [hmarkers]; rfl⟩
  rcases rest with _ | ⟨⟨line, m⟩, rest⟩
  · cases h
    exact .missing (Nat.succ_pos 1) hagrees rfl (by rw [hmarkers]; rfl)
  cases m with
  | shutdownPid found =>
    simp only [List.map_cons, stamped, afterStart] at h
    split at h
    · rename_i hother
      cases h
      exact .pidMismatch hagrees (by rw [hmarkers]; rfl) hother
    · rename_i hown
      obtain rfl : found = pid := Decidable.not_not.mp hown
      exact deviates_after_pid hopens hmarkers h
  | _ =>
    cases h
    exact .outOfOrder (Nat.succ_pos 1) hagrees rfl (by rw [hmarkers]; rfl) (fun h => by cases h) (fun h => by cases h.2)

theorem deviates_after_startup {first : ObservedLine} {rest : List (ObservedLine × Marker)} (hopens : Opens t)
    (hmarkers : t.markers = (first, .processStarted pid) :: rest)
    (h : afterStartup minimum pid (rest.map stamped) = .error v) : FirstDeviation minimum t v := by
  have hagrees : Agrees t pid 1 := ⟨hopens, by rw [hmarkers]; rfl⟩
  rcases rest with _ | ⟨⟨line, m⟩, rest⟩
  · cases h
    exact .missing (Nat.succ_pos 0) hagrees rfl (by rw [hmarkers]; rfl)
  cases m with
  | shutdownStart => exact deviates_after_start hopens hmarkers h
  | _ =>
    cases h
    exact .outOfOrder (Nat.succ_pos 0) hagrees rfl (by rw [hmarkers]; rfl) (fun h => by cases h) (fun h => by cases h.1)

theorem opens_of_lines {first : ObservedLine} {rest : List ObservedLine} {m : Marker} (hlines : t.lines = first :: rest)
    (hm : first.marker = some m) : Opens t := ⟨first, by rw [hlines]; rfl, by rw [hm]; rfl⟩

theorem markers_of_lines {first : ObservedLine} {rest : List ObservedLine} {m : Marker}
    (hlines : t.lines = first :: rest) (hm : first.marker = some m) :
    t.markers = (first, m) :: markers { t with lines := rest } := by
  rw [markers_cons hlines, hm]
  rfl

/-- What a verdict names is the first deviation. -/
theorem firstDeviation_of_verify (h : verify t minimum = .error v) : FirstDeviation minimum t v := by
  cases hlines : t.lines with
  | nil =>
    cases (verify_nil hlines minimum).symm.trans h
    exact .noMarkers (by rw [markers, hlines]; rfl)
  | cons first rest =>
    cases hm : first.marker with
    | none =>
      have hmarkers := markers_cons hlines
      rw [hm, Option.map_none, Option.toList_none, List.nil_append] at hmarkers
      have hstamped := map_stamped_markers { t with lines := rest }
      rw [← hmarkers] at hstamped
      rw [verify_cons hlines, ← hstamped] at h
      simp only [fromFirst, hm] at h
      cases hall : t.markers with
      | nil =>
        rw [hall] at h
        cases h
        exact .noMarkers hall
      | cons x more =>
        rw [hall] at h
        cases h
        exact .startupNotFirstLine (by rw [hall]; exact List.cons_ne_nil _ _) (by rw [hlines]; rfl) hm
    | some m =>
      have hopens := opens_of_lines hlines hm
      have hmarkers := markers_of_lines hlines hm
      rw [verify_cons hlines] at h
      cases m with
      | processStarted pid =>
        rw [fromFirst_of_startup hm, ← map_stamped_markers { t with lines := rest }] at h
        exact deviates_after_startup hopens hmarkers h
      | _ =>
        simp only [fromFirst, hm] at h
        cases h
        exact .startupNotFirst hopens (by rw [hmarkers]; rfl) (fun _ h => by cases h)

/-! ### A deviation is a rejection -/

theorem exists_cons_of_take_map {xs : List (ObservedLine × Marker)} {m : Marker} {ms : List Marker}
    (h : (xs.map Prod.snd).take (k + 1) = m :: ms) :
    ∃ line rest, xs = (line, m) :: rest ∧ (rest.map Prod.snd).take k = ms := by
  rcases xs with _ | ⟨⟨line, m'⟩, rest⟩
  · cases h
  · obtain ⟨rfl, hrest⟩ := List.cons.inj h
    exact ⟨line, rest, rfl, hrest⟩

/-- The first marker on a transcript that opens with one is that of its first line. -/
theorem startup_of_opens (hopens : Opens t) {line : ObservedLine} {m : Marker} {rest : List (ObservedLine × Marker)}
    (hmarkers : t.markers = (line, m) :: rest) :
    startup t =
      match m with
      | .processStarted pid => .ok (pid, rest)
      | found => .error (.startupNotFirst found) := by
  obtain ⟨first, hhead, hfirst⟩ := hopens
  obtain ⟨behind, hlines⟩ := List.head?_eq_some_iff.mp hhead
  obtain ⟨m', hm⟩ := Option.isSome_iff_exists.mp hfirst
  obtain ⟨hpair, rfl⟩ := List.cons.inj ((markers_of_lines hlines hm).symm.trans hmarkers)
  obtain ⟨rfl, rfl⟩ := Prod.mk.inj hpair
  rw [startup_of_marker hlines hm]
  cases m' <;> rfl

/-- Where the first marker is that of a startup, the verdict is that on the markers behind it. -/
theorem Agrees.verify_eq (h : Agrees t pid (k + 1)) (minimum : Duration) :
    ∃ first rest, t.markers = (first, .processStarted pid) :: rest ∧
      (rest.map Prod.snd).take k = [.shutdownStart, .shutdownPid pid, .shutdownComplete].take k ∧
      verify t minimum = afterStartup minimum pid (rest.map stamped) := by
  obtain ⟨first, rest, hmarkers, hrest⟩ := exists_cons_of_take_map h.markers
  exact ⟨first, rest, hmarkers, hrest, verify_of_startup (startup_of_opens h.opens hmarkers) minimum⟩

/-- Where two markers agree, the verdict is that on the markers behind them. -/
theorem Agrees.verify_eq_of_two (h : Agrees t pid (k + 2)) (minimum : Duration) :
    ∃ first start rest, t.markers = (first, .processStarted pid) :: (start, .shutdownStart) :: rest ∧
      (rest.map Prod.snd).take k = [.shutdownPid pid, .shutdownComplete].take k ∧
      verify t minimum = afterStart minimum pid (rest.map stamped) := by
  obtain ⟨first, rest, hmarkers, hrest, hverify⟩ := h.verify_eq minimum
  obtain ⟨start, behind, rfl, hbehind⟩ := exists_cons_of_take_map hrest
  exact ⟨first, start, behind, hmarkers, hbehind, hverify⟩

/-- Where three markers agree, the verdict is that on the markers behind them. -/
theorem Agrees.verify_eq_of_three (h : Agrees t pid (k + 3)) (minimum : Duration) :
    ∃ first start pidLine rest,
      t.markers = (first, .processStarted pid) :: (start, .shutdownStart) :: (pidLine, .shutdownPid pid) :: rest ∧
      (rest.map Prod.snd).take k = [.shutdownComplete].take k ∧
      verify t minimum = afterPid minimum pid pidLine.stamp (rest.map stamped) := by
  obtain ⟨first, start, rest, hmarkers, hrest, hverify⟩ := h.verify_eq_of_two minimum
  obtain ⟨pidLine, behind, rfl, hbehind⟩ := exists_cons_of_take_map hrest
  exact ⟨first, start, pidLine, behind, hmarkers, hbehind, hverify.trans (afterStart_own minimum pid _ _)⟩

/-- With all four markers in place, the verdict depends on the time between the last two, and then on the next one. -/
theorem Agrees.verify_eq_of_four (h : Agrees t pid 4) (minimum : Duration) :
    ∃ pidLine completeLine, t.markers[2]? = some (pidLine, .shutdownPid pid) ∧
      t.markers[3]? = some (completeLine, .shutdownComplete) ∧
      verify t minimum =
        let cleanup := completeLine.stamp.since pidLine.stamp
        if cleanup.nanos < minimum.nanos then .error (.cleanupTooShort cleanup minimum)
        else
          match t.markers[4]? with
          | none => .ok ⟨pid, cleanup⟩
          | some (_, extra) => .error (.trailing extra) := by
  obtain ⟨first, start, pidLine, rest, hmarkers, hrest, hverify⟩ := Agrees.verify_eq_of_three (k := 1) h minimum
  obtain ⟨completeLine, rest, rfl, -⟩ := exists_cons_of_take_map (k := 0) hrest
  refine ⟨pidLine, completeLine, by rw [hmarkers]; rfl, by rw [hmarkers]; rfl, ?_⟩
  rw [hverify, hmarkers]
  cases rest <;> rfl

/-- The places behind the startup that have a name. -/
theorem eq_of_named {name : String} (named : orderlyNames[k]? = some name) (behind : 0 < k) :
    k = 1 ∧ name = "GRACEFUL_SHUTDOWN_START" ∨ k = 2 ∧ name = "GRACEFUL_SHUTDOWN_PID" ∨
      k = 3 ∧ name = "GRACEFUL_SHUTDOWN_COMPLETE" := by
  match k, behind with
  | 1, _ => exact Or.inl ⟨rfl, (Option.some.inj named).symm⟩
  | 2, _ => exact Or.inr (Or.inl ⟨rfl, (Option.some.inj named).symm⟩)
  | 3, _ => exact Or.inr (Or.inr ⟨rfl, (Option.some.inj named).symm⟩)

theorem verify_of_missing {name : String} (behind : 0 < k) (agrees : Agrees t pid k)
    (named : orderlyNames[k]? = some name) (short : t.markers.length = k) :
    verify t minimum = .error (.missing name) := by
  rcases eq_of_named named behind with ⟨rfl, rfl⟩ | ⟨rfl, rfl⟩ | ⟨rfl, rfl⟩
  · obtain ⟨first, rest, hmarkers, -, hverify⟩ := agrees.verify_eq (k := 0) minimum
    rw [hmarkers] at short
    obtain rfl := List.eq_nil_of_length_eq_zero (Nat.succ.inj short)
    exact hverify
  · obtain ⟨first, start, rest, hmarkers, -, hverify⟩ := agrees.verify_eq_of_two (k := 0) minimum
    rw [hmarkers] at short
    obtain rfl := List.eq_nil_of_length_eq_zero (Nat.succ.inj (Nat.succ.inj short))
    exact hverify
  · obtain ⟨first, start, pidLine, rest, hmarkers, -, hverify⟩ := agrees.verify_eq_of_three (k := 0) minimum
    rw [hmarkers] at short
    obtain rfl := List.eq_nil_of_length_eq_zero (Nat.succ.inj (Nat.succ.inj (Nat.succ.inj short)))
    exact hverify

theorem verify_of_outOfOrder {name : String} {line : ObservedLine} {found : Marker} (behind : 0 < k)
    (agrees : Agrees t pid k) (named : orderlyNames[k]? = some name) (here : t.markers[k]? = some (line, found))
    (other : (orderly pid)[k]? ≠ some found) (kind : ¬(k = 2 ∧ found.isShutdownPid)) :
    verify t minimum = .error (.outOfOrder name found) := by
  rcases eq_of_named named behind with ⟨rfl, rfl⟩ | ⟨rfl, rfl⟩ | ⟨rfl, rfl⟩
  · obtain ⟨first, rest, hmarkers, -, hverify⟩ := agrees.verify_eq (k := 0) minimum
    rw [hmarkers] at here
    obtain ⟨rest, rfl⟩ := List.head?_eq_some_iff.mp (List.head?_eq_getElem?.trans here)
    rw [hverify]
    cases found with
    | shutdownStart => exact absurd rfl other
    | _ => rfl
  · obtain ⟨first, start, rest, hmarkers, -, hverify⟩ := agrees.verify_eq_of_two (k := 0) minimum
    rw [hmarkers] at here
    obtain ⟨rest, rfl⟩ := List.head?_eq_some_iff.mp (List.head?_eq_getElem?.trans here)
    rw [hverify]
    cases found with
    | shutdownPid found => exact absurd ⟨rfl, rfl⟩ kind
    | _ => rfl
  · obtain ⟨first, start, pidLine, rest, hmarkers, -, hverify⟩ := agrees.verify_eq_of_three (k := 0) minimum
    rw [hmarkers] at here
    obtain ⟨rest, rfl⟩ := List.head?_eq_some_iff.mp (List.head?_eq_getElem?.trans here)
    rw [hverify]
    cases found with
    | shutdownComplete => exact absurd rfl other
    | _ => rfl

/-- The first deviation is what a verdict names. -/
theorem verify_of_firstDeviation (h : FirstDeviation minimum t v) : verify t minimum = .error v := by
  cases h with
  | noMarkers none =>
    refine verify_of_startup_error ?_ minimum
    have hnone : opensWithOther t = Option.none := by
      unfold opensWithOther
      split
      · exact if_neg fun h => h.2 none
      · rfl
    simp only [startup, hnone, none]
  | @startupNotFirstLine first some head other =>
    obtain ⟨rest, hlines⟩ := List.head?_eq_some_iff.mp head
    refine verify_of_startup_error ?_ minimum
    simp [startup, opensWithOther, hlines, other, some]
  | @startupNotFirst line found opens head other =>
    obtain ⟨rest, hmarkers⟩ := List.head?_eq_some_iff.mp head
    refine verify_of_startup_error ((startup_of_opens opens hmarkers).trans ?_) minimum
    cases found with
    | processStarted pid => exact absurd rfl (other pid)
    | _ => rfl
  | missing behind agrees named short => exact verify_of_missing behind agrees named short
  | outOfOrder behind agrees named here other kind => exact verify_of_outOfOrder behind agrees named here other kind
  | pidMismatch agrees here other =>
    obtain ⟨first, start, rest, hmarkers, -, hverify⟩ := agrees.verify_eq_of_two (k := 0) minimum
    rw [hmarkers] at here
    obtain ⟨rest, rfl⟩ := List.head?_eq_some_iff.mp (List.head?_eq_getElem?.trans here)
    exact hverify.trans (if_pos other)
  | cleanupTooShort agrees start stop short =>
    obtain ⟨_, _, hstart, hstop, hverify⟩ := agrees.verify_eq_of_four minimum
    obtain ⟨rfl, -⟩ := Prod.mk.inj (Option.some.inj (hstart.symm.trans start))
    obtain ⟨rfl, -⟩ := Prod.mk.inj (Option.some.inj (hstop.symm.trans stop))
    exact hverify.trans (if_pos short)
  | trailing agrees start stop long here =>
    obtain ⟨_, _, hstart, hstop, hverify⟩ := agrees.verify_eq_of_four minimum
    obtain ⟨rfl, -⟩ := Prod.mk.inj (Option.some.inj (hstart.symm.trans start))
    obtain ⟨rfl, -⟩ := Prod.mk.inj (Option.some.inj (hstop.symm.trans stop))
    rw [hverify]
    exact (if_neg (Nat.not_lt_of_le long)).trans (by rw [here])

/-- A transcript is rejected for its first deviation from an orderly exit, and for nothing else. -/
theorem verify_eq_error_iff (t : Transcript) (minimum : Duration) (v : SequenceViolation) :
    verify t minimum = .error v ↔ FirstDeviation minimum t v :=
  ⟨firstDeviation_of_verify, verify_of_firstDeviation⟩

/-- Of a cleanup that is too short and a marker behind it, the cleanup comes first. -/
example (a b c d e : String) :
    verify { lines := [⟨a, .start, some (.processStarted 7)⟩, ⟨b, .start, some .shutdownStart⟩,
      ⟨c, .start, some (.shutdownPid 7)⟩, ⟨d, ⟨5⟩, some .shutdownComplete⟩, ⟨e, ⟨5⟩, some .shutdownStart⟩] } ⟨6⟩ =
      .error (.cleanupTooShort ⟨5⟩ ⟨6⟩) := rfl

end ShutdownSequence
end OrderlyExit
