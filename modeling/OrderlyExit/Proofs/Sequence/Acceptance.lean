import OrderlyExit.Proofs.Sequence.Verdict

/-! Which transcripts are accepted: those that open with the startup marker and whose markers are the four of an
    orderly exit, with one process id and a cleanup that took long enough. Lines that are no markers may stand
    anywhere behind the first line. -/

namespace OrderlyExit
namespace ShutdownSequence
open Transcript

variable {minimum : Duration} {pid : UInt32} {s : ShutdownSequence}

/-! ### Acceptance of the stages -/

theorem afterPid_eq_ok_iff {start : Instant} {ms : List (Marker × Instant)} :
    afterPid minimum pid start ms = .ok s ↔
      ∃ stop, ms = [(.shutdownComplete, stop)] ∧ s = ⟨pid, stop.since start⟩ ∧ minimum.nanos ≤ s.cleanup.nanos := by
  constructor
  · intro h
    unfold afterPid at h
    split at h
    · cases h
    · split at h
      · cases h
      · rename_i stop rest hlong
        split at h
        · obtain rfl := Except.ok.inj h
          exact ⟨stop, rfl, rfl, Nat.le_of_not_lt hlong⟩
        · cases h
    · cases h
  · rintro ⟨stop, rfl, rfl, hlong⟩
    exact if_neg (Nat.not_lt_of_le hlong)

theorem afterStart_eq_ok_iff {ms : List (Marker × Instant)} :
    afterStart minimum pid ms = .ok s ↔
      ∃ start rest, ms = (.shutdownPid pid, start) :: rest ∧ afterPid minimum pid start rest = .ok s := by
  constructor
  · intro h
    unfold afterStart at h
    split at h
    · cases h
    · rename_i found start rest
      split at h
      · cases h
      · rename_i hfound
        obtain rfl : found = pid := Decidable.not_not.mp hfound
        exact ⟨start, rest, rfl, h⟩
    · cases h
  · rintro ⟨start, rest, rfl, h⟩
    exact (afterStart_own minimum pid start rest).trans h

theorem afterStartup_eq_ok_iff {ms : List (Marker × Instant)} :
    afterStartup minimum pid ms = .ok s ↔
      ∃ stamp rest, ms = (.shutdownStart, stamp) :: rest ∧ afterStart minimum pid rest = .ok s := by
  constructor
  · intro h
    unfold afterStartup at h
    split at h
    · cases h
    · rename_i stamp rest
      exact ⟨stamp, rest, rfl, h⟩
    · cases h
  · rintro ⟨stamp, rest, rfl, h⟩
    exact h

theorem fromFirst_eq_ok_iff {first : ObservedLine} {rest : List (Marker × Instant)} :
    fromFirst minimum first rest = .ok s ↔
      ∃ pid, first.marker = some (.processStarted pid) ∧ afterStartup minimum pid rest = .ok s := by
  constructor
  · intro h
    unfold fromFirst at h
    split at h
    · rename_i pid hm
      exact ⟨pid, hm, h⟩
    · cases h
    · split at h <;> cases h
  · rintro ⟨pid, hm, h⟩
    exact (fromFirst_of_startup hm minimum rest).trans h

/-- A first line and the markers behind it are accepted if these are the four of an orderly exit. -/
theorem fromFirst_eq_ok_iff_markers {first : ObservedLine} {rest : List (Marker × Instant)} :
    fromFirst minimum first rest = .ok s ↔
      first.marker = some (.processStarted s.pid) ∧ ∃ i₁ i₂ i₃,
        rest = [(.shutdownStart, i₁), (.shutdownPid s.pid, i₂), (.shutdownComplete, i₃)] ∧
        s.cleanup = i₃.since i₂ ∧ minimum.nanos ≤ s.cleanup.nanos := by
  simp only [fromFirst_eq_ok_iff, afterStartup_eq_ok_iff, afterStart_eq_ok_iff, afterPid_eq_ok_iff]
  constructor
  · rintro ⟨pid, hm, i₁, _, rfl, i₂, _, rfl, i₃, rfl, rfl, hlong⟩
    exact ⟨hm, i₁, i₂, i₃, rfl, rfl, hlong⟩
  · rintro ⟨hm, i₁, i₂, i₃, rfl, hcleanup, hlong⟩
    exact ⟨s.pid, hm, i₁, _, rfl, i₂, _, rfl, i₃, rfl, by rw [← hcleanup], hlong⟩

/-! ### Acceptance of transcripts -/

theorem eq_since_iff {d : Duration} {later earlier : Instant} :
    d = later.since earlier ↔ (d.nanos : Int) = max 0 (later.nanos - earlier.nanos) := by
  cases d
  simp only [Instant.since, Duration.mk.injEq]
  omega

theorem verify_ofArrivals_eq_ok_iff {started : Instant} {arrivals : List (String × Instant)} {cleanup : Duration} :
    verify (.ofArrivals started arrivals) minimum = .ok ⟨pid, cleanup⟩ ↔
      ∃ first rest i₁ i₂ i₃, arrivals = first :: rest ∧ Marker.parse? first.1 = some (.processStarted pid) ∧
        arrivedMarkers rest = [(.shutdownStart, i₁), (.shutdownPid pid, i₂), (.shutdownComplete, i₃)] ∧
        (cleanup.nanos : Int) = max 0 (i₃.nanos - i₂.nanos) ∧ minimum.nanos ≤ cleanup.nanos := by
  cases arrivals with
  | nil =>
    rw [verify_ofArrivals_nil]
    exact iff_of_false (fun h => by cases h) (fun ⟨_, _, _, _, _, h, _⟩ => by cases h)
  | cons first rest =>
    simp only [verify_ofArrivals_cons, fromFirst_eq_ok_iff_markers, eq_since_iff]
    constructor
    · rintro ⟨hm, i₁, i₂, i₃, hrest, hcleanup, hlong⟩
      exact ⟨first, rest, i₁, i₂, i₃, rfl, hm, hrest, hcleanup, hlong⟩
    · rintro ⟨_, _, i₁, i₂, i₃, hcons, hm, hrest, hcleanup, hlong⟩
      obtain ⟨rfl, rfl⟩ := List.cons.inj hcons
      exact ⟨hm, i₁, i₂, i₃, hrest, hcleanup, hlong⟩

/-- Lines that arrive one after another are accepted exactly if the first one starts the program up and the
    markers on all of them are the four of an orderly exit. Said the other way, they are these four lines, with
    any lines that are no markers behind each of them. -/
theorem verify_eq_ok_iff (started : Instant) (arrivals : List (String × Instant)) (minimum : Duration) (pid : UInt32)
    (cleanup : Duration) :
    (verify (.ofArrivals started arrivals) minimum = .ok ⟨pid, cleanup⟩ ↔
      (∃ first rest, arrivals = first :: rest ∧ Marker.parse? first.1 = some (.processStarted pid)) ∧
      ∃ i₀ i₁ i₂ i₃, arrivedMarkers arrivals =
          [(.processStarted pid, i₀), (.shutdownStart, i₁), (.shutdownPid pid, i₂), (.shutdownComplete, i₃)] ∧
        (cleanup.nanos : Int) = max 0 (i₃.nanos - i₂.nanos) ∧ minimum.nanos ≤ cleanup.nanos) ∧
    (verify (.ofArrivals started arrivals) minimum = .ok ⟨pid, cleanup⟩ ↔
      ∃ t₀ i₀ noise₀ t₁ i₁ noise₁ t₂ i₂ noise₂ t₃ i₃ noise₃,
        arrivals = (t₀, i₀) :: (noise₀ ++ (t₁, i₁) :: (noise₁ ++ (t₂, i₂) :: (noise₂ ++ (t₃, i₃) :: noise₃))) ∧
        (∀ a ∈ noise₀ ++ noise₁ ++ noise₂ ++ noise₃, Marker.parse? a.1 = none) ∧
        Marker.parse? t₀ = some (.processStarted pid) ∧ Marker.parse? t₁ = some .shutdownStart ∧
        Marker.parse? t₂ = some (.shutdownPid pid) ∧ Marker.parse? t₃ = some .shutdownComplete ∧
        (cleanup.nanos : Int) = max 0 (i₃.nanos - i₂.nanos) ∧ minimum.nanos ≤ cleanup.nanos) := by
  rw [verify_ofArrivals_eq_ok_iff]
  refine ⟨⟨?_, ?_⟩, ⟨?_, ?_⟩⟩
  · rintro ⟨first, rest, i₁, i₂, i₃, rfl, hm, hrest, hcleanup, hlong⟩
    refine ⟨⟨first, rest, rfl, hm⟩, first.2, i₁, i₂, i₃, ?_, hcleanup, hlong⟩
    rw [arrivedMarkers_cons hm, hrest]
  · rintro ⟨⟨first, rest, rfl, hm⟩, i₀, i₁, i₂, i₃, hall, hcleanup, hlong⟩
    rw [arrivedMarkers_cons hm] at hall
    exact ⟨first, rest, i₁, i₂, i₃, rfl, hm, (List.cons.inj hall).2, hcleanup, hlong⟩
  · rintro ⟨⟨t₀, i₀⟩, rest, i₁, i₂, i₃, rfl, hm, hrest, hcleanup, hlong⟩
    obtain ⟨noise₀, t₁, rest, rfl, h₀, hm₁, hrest⟩ := arrivedMarkers_eq_cons_iff.mp hrest
    obtain ⟨noise₁, t₂, rest, rfl, h₁, hm₂, hrest⟩ := arrivedMarkers_eq_cons_iff.mp hrest
    obtain ⟨noise₂, t₃, noise₃, rfl, h₂, hm₃, hrest⟩ := arrivedMarkers_eq_cons_iff.mp hrest
    have h₃ := arrivedMarkers_eq_nil_iff.mp hrest
    refine ⟨t₀, i₀, noise₀, t₁, i₁, noise₁, t₂, i₂, noise₂, t₃, i₃, noise₃, rfl, ?_, hm, hm₁, hm₂, hm₃, hcleanup,
      hlong⟩
    intro a ha
    simp only [List.mem_append] at ha
    rcases ha with ((ha | ha) | ha) | ha
    · exact h₀ a ha
    · exact h₁ a ha
    · exact h₂ a ha
    · exact h₃ a ha
  · rintro ⟨t₀, i₀, noise₀, t₁, i₁, noise₁, t₂, i₂, noise₂, t₃, i₃, noise₃, rfl, hnoise, hm, hm₁, hm₂, hm₃, hcleanup,
      hlong⟩
    simp only [List.mem_append, or_imp, forall_and] at hnoise
    obtain ⟨⟨⟨h₀, h₁⟩, h₂⟩, h₃⟩ := hnoise
    refine ⟨(t₀, i₀), _, i₁, i₂, i₃, rfl, hm, ?_, hcleanup, hlong⟩
    refine arrivedMarkers_eq_cons_iff.mpr ⟨noise₀, t₁, _, rfl, h₀, hm₁, ?_⟩
    refine arrivedMarkers_eq_cons_iff.mpr ⟨noise₁, t₂, _, rfl, h₁, hm₂, ?_⟩
    exact arrivedMarkers_eq_cons_iff.mpr ⟨noise₂, t₃, _, rfl, h₂, hm₃, arrivedMarkers_eq_nil_iff.mpr h₃⟩

end ShutdownSequence
end OrderlyExit
