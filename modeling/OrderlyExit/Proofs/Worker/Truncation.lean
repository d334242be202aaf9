import OrderlyExit.Proofs.Marker.Cut
import OrderlyExit.Proofs.Worker.Verdict

/-! The output of a worker, cut off at any byte. The verdict on what has come is the violation that belongs to the
    place of the cut, and it is an acceptance only if at most the last line feed is lost. -/

namespace OrderlyExit
namespace Worker
open Marker ShutdownSequence Transcript

/-- Whatever becomes of a run, its sink has taken a prefix of the worker's output. -/
theorem accepted_isPrefix {σ : Type} (env : Surroundings σ) (w : Worker) (positive : 0 < w.settings.tick)
    (after : Nat) (signal : ShutdownSignal) (start : σ) :
    (({ outlet := { state := start } } : Session σ).perform
      (w.runUntil env (.after after signal))).2.outlet.accepted <+: output w.pid := by
  rcases runUntil_cases env w positive after signal start rfl with hfin | ⟨done, m, rest, last, e, hplan, hbroke⟩
  · rw [Outlet.accepted, hfin.flushed, hfin.pending, List.append_nil, flatMap_bytes_plan]
  · rw [Outlet.accepted, hbroke.flushed, ← flatMap_bytes_plan w after, hplan, List.map_append, List.flatMap_append,
      List.map_cons, List.flatMap_cons, List.prefix_append_right_inj]
    exact hbroke.isPrefix.trans (List.prefix_append m.line _)

/-! ### The places of a cut -/

/-- How many bytes have come with the lines of `done` and `cs` of the next one. -/
def reached (done : List Marker) (cs : List Char) : Nat := (done.flatMap line).length + cs.length

/-- What is wrong with the first `n` bytes of a worker's output, unless they are complete. -/
def cutViolation (pid : UInt32) (n : Nat) : SequenceViolation :=
  if n ≤ reached [] startedStem then .noMarkers
  else if n < reached [.processStarted pid] startText then .missing "GRACEFUL_SHUTDOWN_START"
  else if n ≤ reached [.processStarted pid, .shutdownStart] pidStem then .missing "GRACEFUL_SHUTDOWN_PID"
  else if n < reached [.processStarted pid, .shutdownStart] (chars (.shutdownPid pid)) then
    .pidMismatch pid (UInt32.ofNat (pid.toNat / 10 ^ (reached [.processStarted pid, .shutdownStart]
      (chars (.shutdownPid pid)) - n)))
  else .missing "GRACEFUL_SHUTDOWN_COMPLETE"

theorem reached_nil (cs : List Char) : reached [] cs = cs.length := Nat.zero_add _

theorem reached_cons (m : Marker) (done : List Marker) (cs : List Char) :
    reached (m :: done) cs = m.chars.length + 1 + reached done cs := by
  have hline : m.line.length = m.chars.length + 1 := by
    rw [line_eq, List.length_append, List.length_map]
    rfl
  rw [reached, List.flatMap_cons, List.length_append, hline, Nat.add_assoc, reached]

theorem length_of_cut {ms done rest : List Marker} {bytes : List UInt8} {cs : List Char}
    (h : Cut ms bytes done rest cs) : bytes.length = reached done cs := by
  rw [h.bytes, List.length_append, List.length_map, reached]

theorem reached_markers (pid : UInt32) : reached (markers pid) [] = (output pid).length := by
  rw [reached, output, List.length_nil, Nat.add_zero]

theorem length_output (pid : UInt32) : (output pid).length =
    startedStem.length + (Decimal.digits pid.toNat).length + startText.length + pidStem.length +
      (Decimal.digits pid.toNat).length + completeText.length + 4 := by
  simp only [← reached_markers, markers, reached_cons, reached_nil, chars, List.length_append, List.length_nil]
  omega

/-- The places, with the lengths of the texts written out. -/
theorem cutViolation_eq (pid : UInt32) (n : Nat) : cutViolation pid n =
    if n ≤ startedStem.length then .noMarkers
    else if n < startedStem.length + (Decimal.digits pid.toNat).length + 1 + startText.length then
      .missing "GRACEFUL_SHUTDOWN_START"
    else if n ≤ startedStem.length + (Decimal.digits pid.toNat).length + 1 +
        (startText.length + 1 + pidStem.length) then
      .missing "GRACEFUL_SHUTDOWN_PID"
    else if n < startedStem.length + (Decimal.digits pid.toNat).length + 1 +
        (startText.length + 1 + (pidStem.length + (Decimal.digits pid.toNat).length)) then
      .pidMismatch pid (UInt32.ofNat (pid.toNat / 10 ^ (startedStem.length + (Decimal.digits pid.toNat).length + 1 +
        (startText.length + 1 + (pidStem.length + (Decimal.digits pid.toNat).length)) - n)))
    else .missing "GRACEFUL_SHUTDOWN_COMPLETE" := by
  simp only [cutViolation, reached_cons, reached_nil, chars, List.length_append]

/-- The lines before the cut and the text in which it falls. -/
theorem cut_cases {pid : UInt32} {bytes : List UInt8} {done rest : List Marker} {cs : List Char}
    (h : Cut (markers pid) bytes done rest cs) :
    (done = [] ∧ cs <+: chars (.processStarted pid)) ∨
    (done = [.processStarted pid] ∧ cs <+: startText) ∨
    (done = [.processStarted pid, .shutdownStart] ∧ cs <+: chars (.shutdownPid pid)) ∨
    (done = [.processStarted pid, .shutdownStart, .shutdownPid pid] ∧ cs <+: completeText) ∨
    (done = markers pid ∧ cs = []) := by
  obtain ⟨hmarkers, hpre, -⟩ := h
  rcases done with _ | ⟨a, _ | ⟨b, _ | ⟨c, _ | ⟨d, done⟩⟩⟩⟩
  · cases hmarkers
    exact Or.inl ⟨rfl, hpre⟩
  · cases hmarkers
    exact Or.inr (Or.inl ⟨rfl, hpre⟩)
  · cases hmarkers
    exact Or.inr (Or.inr (Or.inl ⟨rfl, hpre⟩))
  · cases hmarkers
    exact Or.inr (Or.inr (Or.inr (Or.inl ⟨rfl, hpre⟩)))
  · simp only [markers, List.cons_append, List.cons.injEq] at hmarkers
    obtain ⟨rfl, rfl, rfl, rfl, hnil⟩ := hmarkers
    obtain ⟨rfl, rfl⟩ := List.append_eq_nil_iff.mp hnil.symm
    exact Or.inr (Or.inr (Or.inr (Or.inr ⟨rfl, List.prefix_nil.mp hpre⟩)))

/-! ### The last line -/

section
variable {arrivals : List (String × Instant)} {cs : List Char}

theorem arrivals_cons {t : String} {ts : List String} (h : arrivals.map Prod.fst = t :: ts) :
    ∃ i rest, arrivals = (t, i) :: rest ∧ rest.map Prod.fst = ts := by
  obtain ⟨⟨_, i⟩, rest, rfl, rfl, hrest⟩ := List.map_eq_cons_iff.mp h
  exact ⟨i, rest, rfl, hrest⟩

/-- A started line that spells nothing is noise. -/
theorem noise_of_started (h : arrivals.map Prod.fst = Marker.started cs) (hline : OneLine cs)
    (hno : ∀ m, ¬Spells cs m) : ∀ a ∈ arrivals, parse? a.1 = none := by
  intro a ha
  have htext : a.1 ∈ Marker.started cs := h ▸ List.mem_map_of_mem ha
  unfold Marker.started at htext
  split at htext
  · cases htext
  · rw [List.mem_singleton.mp htext]
    exact Option.eq_none_iff_forall_ne_some.mpr fun m hm => hno m ((parse?_ofList hline).mp hm)

/-- A started line that spells a marker counts as one. -/
theorem marker_of_started {m : Marker} (h : arrivals.map Prod.fst = Marker.started cs) (hline : OneLine cs)
    (hs : Spells cs m) : ∃ i, arrivals = [(String.ofList cs, i)] ∧ parse? (String.ofList cs) = some m := by
  rw [Marker.started, if_neg hs.ne_nil] at h
  obtain ⟨i, rest, rfl, hrest⟩ := arrivals_cons h
  obtain rfl := List.map_eq_nil_iff.mp hrest
  exact ⟨i, rfl, (parse?_ofList hline).mpr hs⟩

end

/-! ### The verdict at each place -/

section
variable (started : Instant) (minimum : Duration) {pid : UInt32} {arrivals : List (String × Instant)} {cs : List Char}

/-- Behind a whole startup line, the verdict is on the markers that follow. -/
theorem verify_after_startup {ts : List String} (h : arrivals.map Prod.fst = text (.processStarted pid) :: ts) :
    ∃ i rest, arrivals = (text (.processStarted pid), i) :: rest ∧ rest.map Prod.fst = ts ∧
      verify (.ofArrivals started arrivals) minimum = afterStartup minimum pid (arrivedMarkers rest) := by
  obtain ⟨i, rest, rfl, hrest⟩ := arrivals_cons h
  exact ⟨i, rest, rfl, hrest, verify_ofArrivals_startup (parse?_text _) started i rest minimum⟩

/-- The verdict `v` is the one that belongs to the first `n` bytes of a worker's output. -/
def Fits (pid : UInt32) (n : Nat) (v : Except SequenceViolation ShutdownSequence) : Prop :=
  (n + 1 < (output pid).length ∧ v = .error (cutViolation pid n)) ∨
    ((output pid).length ≤ n + 1 ∧ ∃ cleanup, v = .ok ⟨pid, cleanup⟩)

theorem fits_in_startup (h : arrivals.map Prod.fst = Marker.started cs) (hcs : cs <+: chars (.processStarted pid)) :
    Fits pid (reached [] cs) (verify (.ofArrivals started arrivals) minimum) := by
  have hline : OneLine cs := .mono hcs (chars_oneLine _)
  have hlen := hcs.length_le
  rw [chars, List.length_append] at hlen
  rw [Fits, length_output, reached_nil, cutViolation_eq]
  refine Or.inl ⟨by omega, ?_⟩
  rcases prefix_append_split hcs with hstem | ⟨value, hvalue, ⟨lost, hlost⟩, rfl⟩
  · have hno := not_spells_of_isPrefix (by decide) hstem (fun h => absurd h (by decide))
    rw [verify_of_noise (noise_of_started h hline hno), if_pos hstem.length_le]
  · obtain ⟨found, hfound, -⟩ := readPid?_of_append hvalue hlost
    obtain ⟨i, rfl, hparse⟩ := marker_of_started h hline (.started hfound)
    have hpos := List.length_pos_iff.mpr hvalue
    rw [List.length_append] at hlen ⊢
    rw [verify_ofArrivals_startup hparse, if_neg (by omega), if_pos (by omega)]
    rfl

theorem fits_in_start (h : arrivals.map Prod.fst = text (.processStarted pid) :: Marker.started cs)
    (hcs : cs <+: startText) :
    Fits pid (reached [.processStarted pid] cs) (verify (.ofArrivals started arrivals) minimum) := by
  obtain ⟨i₀, rest, rfl, hrest, hverify⟩ := verify_after_startup started minimum h
  have hline : OneLine cs := .mono hcs (chars_oneLine .shutdownStart)
  have hlen := hcs.length_le
  rw [Fits, length_output, reached_cons, reached_nil, cutViolation_eq, hverify, chars, List.length_append]
  refine Or.inl ⟨by omega, ?_⟩
  by_cases hwhole : cs = startText
  · subst hwhole
    obtain ⟨i, rfl, hparse⟩ := marker_of_started hrest hline .start
    rw [arrivedMarkers_cons hparse, if_neg (by omega), if_neg (by omega), if_pos (by omega)]
    rfl
  · have hno := not_spells_of_isPrefix (by decide) hcs fun _ => hwhole
    have hshort := lt_of_le_of_ne hlen fun h => hwhole (hcs.eq_of_length h)
    rw [arrivedMarkers_eq_nil_iff.mpr (noise_of_started hrest hline hno), if_neg (by omega), if_pos (by omega)]
    rfl

theorem fits_in_pid
    (h : arrivals.map Prod.fst = text (.processStarted pid) :: text .shutdownStart :: Marker.started cs)
    (hcs : cs <+: chars (.shutdownPid pid)) :
    Fits pid (reached [.processStarted pid, .shutdownStart] cs) (verify (.ofArrivals started arrivals) minimum) := by
  obtain ⟨i₀, rest₀, rfl, hrest₀, hverify⟩ := verify_after_startup started minimum h
  obtain ⟨i₁, rest, rfl, hrest⟩ := arrivals_cons hrest₀
  have hline : OneLine cs := .mono hcs (chars_oneLine _)
  have hlen := hcs.length_le
  rw [chars, List.length_append] at hlen
  simp only [Fits, length_output, reached_cons, reached_nil, cutViolation_eq, hverify,
    arrivedMarkers_cons (parse?_text .shutdownStart), chars, List.length_append]
  refine Or.inl ⟨by omega, ?_⟩
  rcases prefix_append_split hcs with hstem | ⟨value, hvalue, ⟨lost, hlost⟩, rfl⟩
  · have hno := not_spells_of_isPrefix (by decide) hstem (fun h => absurd h (by decide))
    have hshort := hstem.length_le
    rw [arrivedMarkers_eq_nil_iff.mpr (noise_of_started hrest hline hno), if_neg (by omega), if_neg (by omega),
      if_pos (by omega)]
    rfl
  · -- the digits that have come are a process id as well, and only all of them are the worker's own
    obtain ⟨found, hfound, hquot⟩ := readPid?_of_append hvalue hlost
    obtain ⟨i, rfl, hparse⟩ := marker_of_started hrest hline (.pid hfound)
    have hsum := congrArg List.length hlost
    have hpos := List.length_pos_iff.mpr hvalue
    rw [List.length_append] at hsum
    rw [arrivedMarkers_cons hparse, List.length_append, if_neg (by omega), if_neg (by omega), if_neg (by omega)]
    by_cases hall : lost = []
    · subst hall
      obtain rfl : found = pid := UInt32.toNat_inj.mp (hquot.trans (Nat.div_one _))
      rw [if_neg (by simp only [List.length_nil] at hsum; omega)]
      exact afterStart_own minimum found i []
    · have hlost' := List.length_pos_iff.mpr hall
      have hne : found ≠ pid := fun heq => by
        have hlt := Decimal.div_pow_lt_of_append hvalue hall hlost
        rw [← hquot, heq] at hlt
        exact Nat.lt_irrefl _ hlt
      rw [if_pos (by omega), Nat.add_sub_add_left, Nat.add_sub_add_left, Nat.add_sub_add_left, ← hsum,
        Nat.add_sub_cancel_left, ← hquot, UInt32.ofNat_toNat]
      exact if_pos hne

theorem fits_in_complete
    (h : arrivals.map Prod.fst =
      text (.processStarted pid) :: text .shutdownStart :: text (.shutdownPid pid) :: Marker.started cs)
    (hcs : cs <+: completeText) (hpart : cs ≠ completeText) :
    Fits pid (reached [.processStarted pid, .shutdownStart, .shutdownPid pid] cs)
      (verify (.ofArrivals started arrivals) minimum) := by
  obtain ⟨i₀, rest₀, rfl, hrest₀, hverify⟩ := verify_after_startup started minimum h
  obtain ⟨i₁, rest₁, rfl, hrest₁⟩ := arrivals_cons hrest₀
  obtain ⟨i₂, rest, rfl, hrest⟩ := arrivals_cons hrest₁
  have hline : OneLine cs := .mono hcs (chars_oneLine .shutdownComplete)
  have hno := not_spells_of_isPrefix (by decide) hcs fun _ => hpart
  have hlen := lt_of_le_of_ne hcs.length_le fun h => hpart (hcs.eq_of_length h)
  simp only [Fits, length_output, reached_cons, reached_nil, cutViolation_eq, hverify,
    arrivedMarkers_cons (parse?_text .shutdownStart), arrivedMarkers_cons (parse?_text (.shutdownPid pid)), chars,
    List.length_append, arrivedMarkers_eq_nil_iff.mpr (noise_of_started hrest hline hno)]
  refine Or.inl ⟨by omega, ?_⟩
  rw [if_neg (by omega), if_neg (by omega), if_neg (by omega), if_neg (by omega)]
  exact afterStart_own minimum pid i₂ []

theorem fits_complete (h : arrivals.map Prod.fst = (markers pid).map text) {n : Nat}
    (hn : (output pid).length ≤ n + 1)
    (hgap : ∀ a b, arrivals[2]? = some a → arrivals[3]? = some b → minimum.nanos ≤ (b.2.since a.2).nanos) :
    Fits pid n (verify (.ofArrivals started arrivals) minimum) := by
  obtain ⟨i₀, rest₀, rfl, hrest₀, hverify⟩ := verify_after_startup started minimum h
  obtain ⟨i₁, rest₁, rfl, hrest₁⟩ := arrivals_cons hrest₀
  obtain ⟨i₂, rest₂, rfl, hrest₂⟩ := arrivals_cons hrest₁
  obtain ⟨i₃, rest₃, rfl, hrest₃⟩ := arrivals_cons hrest₂
  obtain rfl := List.map_eq_nil_iff.mp hrest₃
  have hlong : minimum.nanos ≤ (i₃.since i₂).nanos := hgap _ _ rfl rfl
  refine Or.inr ⟨hn, i₃.since i₂, ?_⟩
  rw [hverify, arrivedMarkers_cons (parse?_text .shutdownStart), arrivedMarkers_cons (parse?_text (.shutdownPid pid)),
    arrivedMarkers_cons (parse?_text .shutdownComplete)]
  refine (afterStart_own minimum pid i₂ _).trans ((afterPid_complete minimum pid i₂ i₃).trans ?_)
  exact if_pos hlong

end

/-- Lines of a worker's output that was cut off after any number of bytes are accepted exactly if at most the last
    line feed is lost, and otherwise the violation is the one that belongs to the place of the cut. -/
theorem verify_truncated (pid : UInt32) {pieces : List (List UInt8)} (hcut : pieces.flatten <+: output pid)
    {arrivals : List (String × Instant)} (htexts : arrivals.map Prod.fst = linesOf pieces) (minimum : Duration)
    (hgap : ∀ a b, arrivals[2]? = some a → arrivals[3]? = some b → minimum.nanos ≤ (b.2.since a.2).nanos)
    (started : Instant) :
    let verdict := verify (.ofArrivals started arrivals) minimum
    let n := pieces.flatten.length
    ((∃ s, verdict = .ok s) ↔ (output pid).length ≤ n + 1) ∧
      (n + 1 < (output pid).length → verdict = .error (cutViolation pid n)) := by
  intro verdict n
  have hfits : Fits pid n verdict := by
    obtain ⟨done, rest, cs, hplace⟩ := exists_cut (markers pid) hcut
    rw [hplace.linesOf] at htexts
    have hn : n = reached done cs := length_of_cut hplace
    rw [hn]
    rcases cut_cases hplace with ⟨rfl, hcs⟩ | ⟨rfl, hcs⟩ | ⟨rfl, hcs⟩ | ⟨rfl, hcs⟩ | ⟨rfl, rfl⟩
    · exact fits_in_startup started minimum htexts hcs
    · exact fits_in_start started minimum htexts hcs
    · exact fits_in_pid started minimum htexts hcs
    · by_cases hwhole : cs = completeText
      · subst hwhole
        have hlast : (output pid).length ≤
            reached [.processStarted pid, .shutdownStart, .shutdownPid pid] completeText + 1 := by
          simp only [length_output, reached_cons, reached_nil, chars, List.length_append]
          omega
        exact fits_complete started minimum htexts hlast hgap
      · exact fits_in_complete started minimum htexts hcs hwhole
    · rw [reached_markers]
      exact fits_complete started minimum (htexts.trans (List.append_nil _)) (Nat.le_succ _) hgap
  rcases hfits with ⟨hn, herr⟩ | ⟨hn, cleanup, hok⟩
  · refine ⟨⟨fun ⟨s, hs⟩ => ?_, fun hall => absurd hn (Nat.not_lt_of_le hall)⟩, fun _ => herr⟩
    cases herr.symm.trans hs
  · exact ⟨⟨fun _ => hn, fun _ => ⟨_, hok⟩⟩, fun hless => absurd hless (Nat.not_lt_of_le hn)⟩

theorem verify_truncated_inside_pid :
    let pieces := [(output 120).take 72]
    let arrivals := (linesOf pieces).map (·, Instant.start)
    pieces.flatten <+: output 120 ∧
      verify (.ofArrivals .start arrivals) .zero = .error (.pidMismatch 120 12) := by
  intro pieces arrivals
  have hdigits : Decimal.digits (120 : UInt32).toNat = ['1', '2', '0'] := by
    have h : (120 : UInt32).toNat = 120 := rfl
    rw [h, Decimal.digits_of_ge (by decide), Decimal.digits_of_ge (by decide), Decimal.digits_of_lt (by decide)]
    rfl
  have hcut : pieces.flatten <+: output 120 := by simp [pieces, List.take_prefix]
  have htexts : arrivals.map Prod.fst = linesOf pieces := by simp [arrivals, Function.comp_def]
  have hlength : (output 120).length = 101 := by
    rw [length_output, hdigits]
    rfl
  have hn : pieces.flatten.length = 72 := by simp [pieces, hlength]
  obtain ⟨-, hviolation⟩ := verify_truncated 120 hcut htexts .zero (fun _ _ _ _ => Nat.zero_le _) .start
  rw [hn, hlength, cutViolation_eq, hdigits] at hviolation
  exact ⟨hcut, hviolation (by decide)⟩

end Worker
end OrderlyExit
