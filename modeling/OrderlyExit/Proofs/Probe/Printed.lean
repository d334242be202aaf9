import OrderlyExit.Proofs.Observer.Rendering
import OrderlyExit.Proofs.Probe.Verdict
import OrderlyExit.Proofs.Sequence.Messages

/-! What a probe prints tells what it found out. The line of an outcome and the line of a verdict tell these, and they
    can be found: no line of the printed transcript looks like the bar behind it, and all that follows the bar is cut in
    one way. -/

namespace OrderlyExit.Probe
open CommandLine (ProbeOptions)

namespace Report

/-! ### Lines of a report -/

/-- No outcome is told with a bracket, so what is said of a shell is no part of one. -/
theorem bracket_notMem_outcome (o : ExitOutcome) : ')' ∉ o.text.toList := by
  intro h
  exact absurd (o.isWordChar_of_mem_text _ h) (by decide)

theorem ne_append_shell (o o' : ExitOutcome) : o.text ≠ o'.text ++ " (shell)" := by
  intro h
  refine bracket_notMem_outcome o ?_
  rw [h, String.toList_append]
  exact List.mem_append_right _ (by decide)

theorem outcome_eq_of_line {r r' : Report} (h : r.outcomeLine = r'.outcomeLine) : r.outcome = r'.outcome := by
  unfold outcomeLine at h
  rw [String.append_assoc, String.append_assoc] at h
  have htext := (String.append_right_inj _).mp h
  cases hr : r.viaShell with
  | false =>
    cases hr' : r'.viaShell with
    | false => exact ExitOutcome.text_injective (by simpa [hr, hr'] using htext)
    | true => exact absurd (by simpa [hr, hr'] using htext) (ne_append_shell r.outcome r'.outcome)
  | true =>
    cases hr' : r'.viaShell with
    | false => exact absurd (by simpa [hr, hr'] using htext.symm) (ne_append_shell r'.outcome r.outcome)
    | true => exact ExitOutcome.text_injective ((String.append_left_inj " (shell)").mp (by simpa [hr, hr'] using htext))

theorem verdictLine_of_error {r : Report} {v : SequenceViolation} (h : r.verdict = .error v) :
    r.verdictLine = "sequence: FAILED (" ++ (v.message ++ ")") := by
  rw [verdictLine, h]
  exact String.append_assoc ..

theorem violation_of_line {r r' : Report} (h : r.verdictLine = r'.verdictLine) {v : SequenceViolation}
    (hv : r.verdict = .error v) : r'.verdict = .error v := by
  cases hv' : r'.verdict with
  | ok s =>
    obtain ⟨s', hs'⟩ := (verdictLine_ok_iff r).mp (h ▸ (verdictLine_ok_iff r').mpr ⟨s, hv'⟩)
    exact nomatch hv.symm.trans hs'
  | error w =>
    rw [verdictLine_of_error hv, verdictLine_of_error hv'] at h
    have hmessage := (String.append_left_inj ")").mp ((String.append_right_inj _).mp h)
    rw [SequenceViolation.message_injective hmessage]

theorem violation_iff_of_line {r r' : Report} (h : r.verdictLine = r'.verdictLine) (v : SequenceViolation) :
    r.verdict = .error v ↔ r'.verdict = .error v :=
  ⟨violation_of_line h, violation_of_line h.symm⟩

/-! ### The whole report -/

/-- What is printed behind the outcome. -/
def ending (r : Report) : String :=
  (if r.drained then "" else "warning: output was still open when capture timed out\n") ++ (r.verdictLine ++ "\n")

theorem text_eq_bar (r : Report) :
    r.text = r.transcript.render ++ ("---\n" ++ (r.outcomeLine ++ ("\n" ++ r.ending))) := by
  unfold text lines ending
  cases r.drained <;> simp [String.join_cons, String.append_assoc]

theorem head?_verdictLine (r : Report) : r.verdictLine.toList.head? = some 's' := by
  unfold verdictLine
  cases r.verdict <;> simp [String.toList_append]

/-- A verdict does not begin as the warning does. -/
theorem verdictLine_eq_of_ending {r r' : Report} (h : r.ending = r'.ending) : r.verdictLine = r'.verdictLine := by
  have hwarned (r r' : Report) : r.verdictLine ++ "\n" ≠
      "warning: output was still open when capture timed out\n" ++ (r'.verdictLine ++ "\n") := by
    intro heq
    have hhead := congrArg (List.head? ∘ String.toList) heq
    simp [String.toList_append, head?_verdictLine] at hhead
  unfold ending at h
  cases hr : r.drained with
  | false =>
    cases hr' : r'.drained with
    | false => simpa [hr, hr'] using h
    | true => exact absurd (by simpa [hr, hr'] using h.symm) (hwarned r' r)
  | true =>
    cases hr' : r'.drained with
    | false => exact absurd (by simpa [hr, hr'] using h) (hwarned r r')
    | true => simpa [hr, hr'] using h

theorem lines_cons_append (line : List Char) (front : List (List Char)) (rest : List Char) :
    (line :: front).flatMap (· ++ ['\n']) ++ rest = line ++ '\n' :: (front.flatMap (· ++ ['\n']) ++ rest) := by
  rw [List.flatMap_cons, List.append_assoc, List.append_assoc, List.singleton_append]

/-- Lines in front of a bar are told apart from it, so what is behind the bar is found. -/
theorem eq_behind_bar {bar : List Char} (hbar : '\n' ∉ bar) :
    ∀ {front front' : List (List Char)} {rest rest' : List Char},
    (∀ line ∈ front, '\n' ∉ line ∧ line ≠ bar) → (∀ line ∈ front', '\n' ∉ line ∧ line ≠ bar) →
    front.flatMap (· ++ ['\n']) ++ (bar ++ '\n' :: rest) = front'.flatMap (· ++ ['\n']) ++ (bar ++ '\n' :: rest') →
    rest = rest'
  | [], [], _, _, _, _, h => (append_cons_inj_of_first hbar hbar h).2
  | [], line :: front', rest, rest', _, hfront', h => by
    obtain ⟨hline, hne⟩ := hfront' line List.mem_cons_self
    rw [lines_cons_append] at h
    exact absurd (append_cons_inj_of_first hbar hline h).1.symm hne
  | line :: front, [], rest, rest', hfront, _, h => by
    obtain ⟨hline, hne⟩ := hfront line List.mem_cons_self
    rw [lines_cons_append] at h
    exact absurd (append_cons_inj_of_first hline hbar h).1 hne
  | line :: front, line' :: front', rest, rest', hfront, hfront', h => by
    rw [lines_cons_append, lines_cons_append] at h
    have hlater := (append_cons_inj_of_first (hfront line List.mem_cons_self).1
      (hfront' line' List.mem_cons_self).1 h).2
    exact eq_behind_bar hbar (fun l hl => hfront l (List.mem_cons_of_mem _ hl))
      (fun l hl => hfront' l (List.mem_cons_of_mem _ hl)) hlater

/-- A printed line begins with a bracket. -/
theorem printed_ne_bar {t : Transcript} (h : t.OneLined) :
    ∀ line ∈ t.entries.map Transcript.printed, '\n' ∉ line ∧ line ≠ ['-', '-', '-'] := by
  intro line hline
  obtain ⟨entry, hentry, rfl⟩ := List.mem_map.mp hline
  refine ⟨Transcript.newline_notMem_printed (h.entries entry hentry), fun heq => ?_⟩
  have hhead : (Transcript.printed entry).head? = some '[' := rfl
  rw [heq] at hhead
  exact absurd hhead (by decide)

theorem toList_text_eq_bar (r : Report) :
    r.text.toList = (r.transcript.entries.map Transcript.printed).flatMap (· ++ ['\n']) ++
      (['-', '-', '-'] ++ '\n' :: (r.outcomeLine.toList ++ '\n' :: r.ending.toList)) := by
  rw [text_eq_bar, String.toList_append, Transcript.toList_render]
  simp [String.toList_append]

theorem newline_notMem_outcomeLine (r : Report) : '\n' ∉ r.outcomeLine.toList := by
  have hword : ∀ o : ExitOutcome, '\n' ∉ o.text.toList := fun o h =>
    absurd (o.isWordChar_of_mem_text _ h) (by decide)
  unfold outcomeLine
  cases r.viaShell <;> simp [String.toList_append, hword]

/-- A printed report tells the line of its outcome and the line of its verdict. -/
theorem lines_eq_of_text {r r' : Report} (ht : r.transcript.OneLined) (ht' : r'.transcript.OneLined)
    (h : r.text = r'.text) : r.outcomeLine = r'.outcomeLine ∧ r.verdictLine = r'.verdictLine := by
  have hlist := congrArg String.toList h
  rw [toList_text_eq_bar, toList_text_eq_bar] at hlist
  have hbehind := eq_behind_bar (by decide) (printed_ne_bar ht) (printed_ne_bar ht') hlist
  obtain ⟨houtcome, hending⟩ :=
    append_cons_inj_of_first r.newline_notMem_outcomeLine r'.newline_notMem_outcomeLine hbehind
  exact ⟨String.toList_inj.mp houtcome, verdictLine_eq_of_ending (String.toList_inj.mp hending)⟩

end Report

/-! ### Reports of probes -/

section
universe u
variable {σ : Type u} {env : System σ} {o : ProbeOptions} {clock : Instant} {s : σ} {w w' w'' : Observation σ}
  {r : Report}

/-- One observation comes of another by calls. -/
def ComesTo (env : System σ) (w w' : Observation σ) : Prop := ∃ calls, w' = (w.performAll env calls).2

theorem ComesTo.trans (h : ComesTo env w w') (h' : ComesTo env w' w'') : ComesTo env w w'' := by
  obtain ⟨calls, rfl⟩ := h
  obtain ⟨more, rfl⟩ := h'
  refine ⟨calls ++ more, ?_⟩
  rw [Observation.performAll_append]

theorem comesTo_perform (env : System σ) (w : Observation σ) (call : Observation.Call) :
    ComesTo env w (w.perform env call).2 := ⟨[call], rfl⟩

theorem comesTo_request (env : System σ) (o : ProbeOptions) (w : Observation σ) :
    ComesTo env w (request env o w).2 := by
  unfold request
  split
  · exact comesTo_perform env w (.signalGroup o.signal)
  · exact comesTo_perform env w (.signal o.signal)

theorem comesTo_settle (env : System σ) (o : ProbeOptions) (w : Observation σ) : ComesTo env w (settle env o w).2 := by
  have hwait := comesTo_perform env w (.wait (.ofMillis o.shutdownTimeout))
  rcases settle_cases env o w with ⟨-, h⟩ | ⟨-, h⟩
  · rw [h]
    exact hwait
  · rw [h]
    exact hwait.trans (comesTo_perform env _ (.stop .zero))

/-- All that a probe does with its program are calls. -/
theorem comesTo_afterDrain (env : System σ) (o : ProbeOptions) (w : Observation σ) :
    ComesTo env w (afterDrain env o w) := by
  have hstartup : ComesTo env w (afterStartup env o w) :=
    comesTo_perform env w (.waitForStartup (.ofMillis o.startupTimeout))
  have hdrain : ComesTo env (afterSettling env o w) (afterDrain env o w) :=
    comesTo_perform env _ (.drain (.ofMillis o.shutdownTimeout))
  exact ((hstartup.trans (comesTo_request env o _)).trans (comesTo_settle env o _)).trans hdrain

theorem transcript_of_observe (h : (observe env o w).1 = .ok r) : r.transcript = (afterDrain env o w).transcript := by
  unfold observe at h
  unfold afterDrain afterSettling afterRequest afterStartup
  rcases hstartup : w.waitForStartup env (.ofMillis o.startupTimeout) with ⟨_ | pid, w₁⟩
  · rw [hstartup] at h
    cases h
  · simp only [hstartup] at h
    rcases hrequest : request env o w₁ with ⟨_ | _, w₂⟩
    · rw [hrequest] at h
      cases h
    · simp only [hrequest] at h
      rcases hsettle : settle env o w₂ with ⟨_ | outcome, w₃⟩
      · rw [hsettle] at h
        cases h
      · simp only [hsettle, conclude] at h
        rcases hdrain : w₃.drain env (.ofMillis o.shutdownTimeout) with ⟨_ | drained, w₄⟩
        · rw [hdrain] at h
          cases h
        · simp only [hdrain] at h
          rw [← Except.ok.inj h]

/-- No transcript of a report of a probe has a line feed in one of its texts. -/
theorem oneLined_of_run (h : run env o clock s = .ok r) : r.transcript.OneLined := by
  unfold run at h
  cases hspawn : Observation.spawn env (launch o) clock s with
  | error e =>
    rw [hspawn] at h
    exact nomatch h
  | ok w =>
    rw [hspawn] at h
    obtain ⟨calls, hcalls⟩ := comesTo_afterDrain env o w
    rw [transcript_of_observe h, hcalls]
    exact Observation.oneLined_performAll hspawn calls

end

/-- Different violations have different messages, and different outcomes different texts. So of two reports the outcome
is the same if the lines of the outcomes are, and the violation if the lines of the verdicts are; and of any two probes
that print the same, whatever their programs wrote, both are the same. -/
theorem printed_report_tells :
    Function.Injective SequenceViolation.message ∧ Function.Injective ExitOutcome.text ∧
    (∀ r r' : Report,
      (r.outcomeLine = r'.outcomeLine → r.outcome = r'.outcome) ∧
      (r.verdictLine = r'.verdictLine → ∀ v, r.verdict = .error v ↔ r'.verdict = .error v)) ∧
    ∀ (σ σ' : Type) (env : System σ) (env' : System σ') (o o' : ProbeOptions) (clock clock' : Instant) (s : σ) (s' : σ')
      (r r' : Report), run env o clock s = .ok r → run env' o' clock' s' = .ok r' →
      output (run env o clock s) = output (run env' o' clock' s') →
      r.outcome = r'.outcome ∧ ∀ v, r.verdict = .error v ↔ r'.verdict = .error v := by
  refine ⟨SequenceViolation.message_injective, ExitOutcome.text_injective,
    fun r r' => ⟨Report.outcome_eq_of_line, Report.violation_iff_of_line⟩, ?_⟩
  intro σ σ' env env' o o' clock clock' s s' r r' hr hr' houtput
  rw [hr, hr'] at houtput
  obtain ⟨houtcome, hverdict⟩ := Report.lines_eq_of_text (oneLined_of_run hr) (oneLined_of_run hr') houtput
  exact ⟨Report.outcome_eq_of_line houtcome, Report.violation_iff_of_line hverdict⟩

/-- Two programs that are killed alike, one of them with a core dump, are reported alike; and texts that nearly say the
same are told apart: a line that is an escape and one that is a line feed, a name with the words behind a name in it, a
signal without a name and an exit code of the same number. -/
theorem printed_report_tells_killed :
    let dumped := run (punctual (.ofSignal 11 true)) {} .start ()
    let plain := run (punctual (.ofSignal 11 false)) {} .start ()
    dumped = .ok (punctualReport (.ofSignal 11 true)) ∧ plain = .ok (punctualReport (.ofSignal 11 false)) ∧
      output dumped = output plain ∧
      (punctualReport (.ofSignal 11 true)).outcome = (punctualReport (.ofSignal 11 false)).outcome ∧
      (SequenceViolation.startupNotFirstLine "\\n").message ≠ (SequenceViolation.startupNotFirstLine "\n").message ∧
      (SequenceViolation.outOfOrder "a, found b" .shutdownStart).message ≠
        (SequenceViolation.outOfOrder "a" .shutdownStart).message ∧
      (ExitOutcome.signaled 200).text ≠ (ExitOutcome.exited 200).text := by
  intro dumped plain
  obtain ⟨hmessage, htext, -, hprinted⟩ := printed_report_tells
  have hdumped : dumped = .ok (punctualReport (.ofSignal 11 true)) := run_punctual _
  have hplain : plain = .ok (punctualReport (.ofSignal 11 false)) := run_punctual _
  have hsame : punctualReport (.ofSignal 11 true) = punctualReport (.ofSignal 11 false) := by
    have houtcome : (WaitStatus.ofSignal 11 true).outcome = (WaitStatus.ofSignal 11 false).outcome := by decide
    rw [punctualReport, punctualReport, houtcome]
  have houtput : output dumped = output plain := by rw [hdumped, hplain, hsame]
  refine ⟨hdumped, hplain, houtput, ?_, fun h => ?_, fun h => ?_, fun h => ?_⟩
  · exact (hprinted _ _ _ _ _ _ _ _ _ _ _ _ hdumped hplain houtput).1
  · exact absurd (hmessage h) (by decide)
  · exact absurd (hmessage h) (by decide)
  · exact absurd (htext h) (by decide)

end OrderlyExit.Probe
