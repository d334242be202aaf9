import OrderlyExit.Probe
import OrderlyExit.Proofs.Observer.Delivery

/-! The verdict of a probe. It goes through five stages, and each of them leaves in the observation whether it
    succeeded: a line that announces a process, a signal that has been sent and not refused, an outcome in time or by
    force, the rest of the output, a transcript that is accepted. A probe ends with success exactly if all five did, and
    under no shell the outcome is one of success too. -/

namespace OrderlyExit.Probe
open CommandLine (ProbeOptions)

universe u
variable {σ : Type u} {env : System σ} {o : ProbeOptions} {w : Observation σ}

/-! ### Stages -/

/-- The observation once the startup has been waited for. -/
def afterStartup (env : System σ) (o : ProbeOptions) (w : Observation σ) : Observation σ :=
  (w.waitForStartup env (.ofMillis o.startupTimeout)).2

/-- The observation once the program has been asked to end. -/
def afterRequest (env : System σ) (o : ProbeOptions) (w : Observation σ) : Observation σ :=
  (request env o (afterStartup env o w)).2

/-- The observation once the end of the program has been waited for, or forced. -/
def afterSettling (env : System σ) (o : ProbeOptions) (w : Observation σ) : Observation σ :=
  (settle env o (afterRequest env o w)).2

/-- The observation once the rest of the output has been read. -/
def afterDrain (env : System σ) (o : ProbeOptions) (w : Observation σ) : Observation σ :=
  ((afterSettling env o w).drain env (.ofMillis o.shutdownTimeout)).2

/-- What a probe sends its signal to. -/
def target (o : ProbeOptions) (pid : UInt32) : SignalTarget := if o.group then .group pid else .process pid

/-- A signal has been sent from `before` to `after`, and the system has not refused it. -/
structure Delivered (env : System σ) (target : SignalTarget) (number : Nat) (before after : Observation σ) : Prop where
  accepted : (env.send before.system target number).1 = none
  sent : after = Observation.seeAll
    { before with system := (env.send before.system target number).2.2, sent := before.sent ++ [(target, number)] }
    (env.send before.system target number).2.1

/-- The program has been reaped from `before` to `after`: its end has come in time, or it has been forced. -/
inductive Reaped (env : System σ) (o : ProbeOptions) (before after : Observation σ) (outcome : ExitOutcome) : Prop
  | inTime (h : before.wait env (.ofMillis o.shutdownTimeout) = (.ok outcome, after))
  | forced {e : ObserverError} {late : Observation σ}
      (h : before.wait env (.ofMillis o.shutdownTimeout) = (.error e, late))
      (hstop : late.stop env .zero = (.ok outcome, after))

/-- A probe of the program `w` has had its announcement, has sent its signal, has reaped it and accepts its transcript;
and the program has succeeded unless it ran under a shell. -/
structure Passes (env : System σ) (o : ProbeOptions) (w : Observation σ) : Prop where
  announced : ∃ l ∈ (afterStartup env o w).transcript.lines, ∃ pid, l.marker = some (.processStarted pid)
  delivered : Delivered env (target o w.pid) o.signal.number (afterStartup env o w) (afterRequest env o w)
  reaped : ∃ outcome, Reaped env o (afterRequest env o w) (afterSettling env o w) outcome ∧
    (o.viaShell = true ∨ outcome = .exited 0)
  accepted : ∃ s, ShutdownSequence.verify (afterDrain env o w).transcript ShutdownSequence.minCleanup = .ok s

/-- The rest of the output could be read, whether it was closed in time or not. -/
def ReadsRest (env : System σ) (o : ProbeOptions) (w : Observation σ) : Prop :=
  ∃ drained, ((afterSettling env o w).drain env (.ofMillis o.shutdownTimeout)).1 = .ok drained

theorem request_eq_send (env : System σ) (o : ProbeOptions) (w : Observation σ) :
    request env o w = w.send env (target o w.pid) o.signal.number := by
  unfold request target
  split <;> rfl

theorem request_eq_ok_iff :
    (request env o w).1 = .ok () ↔ Delivered env (target o w.pid) o.signal.number w (request env o w).2 := by
  rw [request_eq_send, Observation.send_eq_ok_iff]
  exact ⟨fun h => ⟨h, Observation.send_snd env _ _ w⟩, fun h => h.accepted⟩

theorem within_request : Observation.Within 0 w (request env o w).2 := by
  rw [request_eq_send]
  exact Observation.within_send env _ _ w

/-- The end of a program is noted in time, or it is forced. -/
theorem settle_cases (env : System σ) (o : ProbeOptions) (w : Observation σ) :
    let waited := w.wait env (.ofMillis o.shutdownTimeout)
    ((∃ outcome, waited.1 = .ok outcome) ∧ settle env o w = waited) ∨
      (∃ e, waited.1 = .error e) ∧ settle env o w = waited.2.stop env .zero := by
  unfold settle
  rcases w.wait env (.ofMillis o.shutdownTimeout) with ⟨r, w'⟩
  cases r with
  | error e => exact Or.inr ⟨⟨e, rfl⟩, rfl⟩
  | ok outcome => exact Or.inl ⟨⟨outcome, rfl⟩, rfl⟩

theorem Reaped.settle_eq {after : Observation σ} {outcome : ExitOutcome} (h : Reaped env o w after outcome) :
    settle env o w = (.ok outcome, after) := by
  cases h with
  | inTime h => simp only [settle, h]
  | forced h hstop => simp only [settle, h, hstop]

theorem settle_eq_ok_iff {outcome : ExitOutcome} :
    (settle env o w).1 = .ok outcome ↔ Reaped env o w (settle env o w).2 outcome := by
  refine ⟨fun hok => ?_, fun h => congrArg Prod.fst h.settle_eq⟩
  rcases settle_cases env o w with ⟨-, h⟩ | ⟨⟨e, he⟩, h⟩
  · rw [h] at hok ⊢
    exact .inTime (Prod.ext hok rfl)
  · rw [h] at hok ⊢
    exact .forced (Prod.ext he rfl) (Prod.ext hok rfl)

/-- A program is reaped with one outcome. -/
theorem Reaped.unique {after after' : Observation σ} {outcome outcome' : ExitOutcome}
    (h : Reaped env o w after outcome) (h' : Reaped env o w after' outcome') : outcome = outcome' :=
  Except.ok.inj (congrArg Prod.fst (h.settle_eq.symm.trans h'.settle_eq))

theorem Reaped.noted {after : Observation σ} {outcome : ExitOutcome} (h : Reaped env o w after outcome) :
    after.outcome = some outcome := by
  cases h with
  | inTime h =>
    have hnoted := Observation.wait_eq_ok_iff.mp (congrArg Prod.fst h)
    rwa [h] at hnoted
  | forced _ hstop =>
    have hnoted := Observation.stop_eq_ok_iff.mp (congrArg Prod.fst hstop)
    rwa [hstop] at hnoted

/-- The longest time that the end of a program takes, in nanoseconds. -/
def settlingTime : Nat := Instant.farAhead.nanos + Observation.killWait.nanos

theorem within_settle : Observation.Within settlingTime w (settle env o w).2 := by
  have hwait := Observation.within_wait env (.ofMillis o.shutdownTimeout) w
  rcases settle_cases env o w with ⟨-, h⟩ | ⟨-, h⟩
  · rw [h]
    exact hwait.mono (Nat.le_trans (Nat.min_le_right _ _) (Nat.le_add_right _ _))
  · rw [h]
    refine (hwait.trans (Observation.within_stop env .zero _)).mono ?_
    rw [show Duration.zero.nanos = 0 from rfl, Nat.zero_min, Nat.zero_add]
    exact Nat.add_le_add_right (Nat.min_le_right _ _) _

/-- After the startup nothing is read until the end of the program. -/
theorem within_afterSettling : Observation.Within settlingTime (afterStartup env o w) (afterSettling env o w) :=
  (within_request.trans within_settle).mono (Nat.le_of_eq (Nat.zero_add _))

/-! ### A program that has just been started -/

/-- An observation that begins. -/
structure Fresh (w : Observation σ) : Prop where
  clock : w.clock = .start
  lines : w.transcript.lines = []
  sound : w.Sound
  coherent : w.Coherent

theorem fresh_of_spawn {launch : Launch} {s : σ} (h : Observation.spawn env launch .start s = .ok w) : Fresh w := by
  have hcoherent := Observation.coherent_of_spawn h
  obtain ⟨s', pid, seen, rfl⟩ := Observation.spawn_eq_ok h
  have hsound : Observation.Sound
      ({ system := s', pid := pid, clock := .start, transcript := { started := .start } } : Observation σ) :=
    ⟨List.forall_mem_nil _, fun _ hout => nomatch hout⟩
  refine ⟨Observation.clock_seeAll _ seen, ?_, hsound.seeAll seen, hcoherent⟩
  rw [(Observation.passive_seeAll _ seen).transcript]

namespace Fresh

theorem startup_fits (fresh : Fresh w) (hstartup : o.startupTimeout < UInt64.size) :
    (w.clock.plus (.ofMillis o.startupTimeout)).nanos ≤ Instant.last.nanos := by
  have hlast : Instant.last.nanos = 9223372036854775807999999999 := by decide
  rw [fresh.clock, hlast]
  simp only [Instant.plus, Instant.start, Duration.ofMillis, UInt64.size] at hstartup ⊢
  omega

/-- What waiting for the startup of a program that begins comes to. -/
theorem startup_cases (fresh : Fresh w) (env : System σ) (hstartup : o.startupTimeout < UInt64.size) :
    Observation.Read (w.clock.plus (.ofMillis o.startupTimeout)) w (afterStartup env o w).transcript.lines
        (afterStartup env o w) ∧
      ((∃ pid, (w.waitForStartup env (.ofMillis o.startupTimeout)).1 = .ok pid ∧
          ∃ l ∈ (afterStartup env o w).transcript.lines, l.marker = some (.processStarted pid)) ∨
        (∃ e, (w.waitForStartup env (.ofMillis o.startupTimeout)).1 = .error (.failed e)) ∧
          ∀ l ∈ (afterStartup env o w).transcript.lines, Observation.announces l = false) := by
  obtain ⟨ls, hread, hcases⟩ := Observation.waitForStartup_spec env (fresh.startup_fits hstartup)
  have hlines : (afterStartup env o w).transcript.lines = ls := by
    rw [afterStartup, hread.lines, fresh.lines, List.nil_append]
  rw [hlines]
  exact ⟨hread, hcases⟩

/-- The lines that a program had for its announcement arrived in time. -/
theorem stamp_le (fresh : Fresh w) (hstartup : o.startupTimeout < UInt64.size) {l : ObservedLine}
    (h : l ∈ (afterStartup env o w).transcript.lines) : l.stamp.nanos ≤ (Duration.ofMillis o.startupTimeout).nanos := by
  obtain ⟨hread, -⟩ := fresh.startup_cases env hstartup
  have hstamp := hread.stamps fresh.sound l h
  have hclock := hread.clock_le
  rw [fresh.clock] at hclock
  simp only [Instant.plus, Instant.start] at hclock
  omega

theorem sound_afterSettling (fresh : Fresh w) (env : System σ) (hstartup : o.startupTimeout < UInt64.size) :
    (afterSettling env o w).Sound :=
  within_afterSettling.sound ((fresh.startup_cases env hstartup).1.sound fresh.sound)

/-- From its start to the end of its program a probe takes no longer than its waits. -/
theorem clock_afterSettling_le (fresh : Fresh w) (env : System σ) (hstartup : o.startupTimeout < UInt64.size) :
    (afterSettling env o w).clock.nanos ≤ (Duration.ofMillis o.startupTimeout).nanos + settlingTime := by
  have hstart := (fresh.startup_cases env hstartup).1.clock_le
  have hsettle := @within_afterSettling _ env o w |>.clock_le
  rw [fresh.clock] at hstart
  simp only [Instant.plus, Instant.start] at hstart
  omega

theorem drain_fits (fresh : Fresh w) (env : System σ) (hstartup : o.startupTimeout < UInt64.size)
    (hshutdown : o.shutdownTimeout < UInt64.size) :
    ((afterSettling env o w).clock.plus (.ofMillis o.shutdownTimeout)).nanos ≤ Instant.last.nanos := by
  have hlast : Instant.last.nanos = 9223372036854775807999999999 := by decide
  have htime : settlingTime = 946080001000000000 := by decide
  have hclock := fresh.clock_afterSettling_le env hstartup
  rw [hlast]
  simp only [Instant.plus, Duration.ofMillis, UInt64.size, htime] at hstartup hshutdown hclock ⊢
  omega

/-- What is read at the end follows what was read at first. -/
theorem lines_afterDrain (fresh : Fresh w) (env : System σ) (hstartup : o.startupTimeout < UInt64.size)
    (hshutdown : o.shutdownTimeout < UInt64.size) :
    ∃ ls, (afterDrain env o w).transcript.lines = (afterStartup env o w).transcript.lines ++ ls := by
  obtain ⟨ls, hread⟩ := Observation.read_drain env (fresh.drain_fits env hstartup hshutdown)
  exact ⟨ls, hread.lines.trans (congrArg (·.lines ++ ls) within_afterSettling.transcript)⟩

theorem coherent_afterSettling (fresh : Fresh w) (env : System σ) (o : ProbeOptions) :
    (afterSettling env o w).Coherent := by
  have hkeeps := Observation.keeps_coherent env
  have hasked : (afterRequest env o w).Coherent := by
    rw [afterRequest, request_eq_send]
    exact hkeeps.send _ _ (hkeeps.waitForStartup _ fresh.coherent)
  have hwaited := hkeeps.wait (.ofMillis o.shutdownTimeout) hasked
  unfold afterSettling
  rcases settle_cases env o (afterRequest env o w) with ⟨-, h⟩ | ⟨-, h⟩
  · rw [h]
    exact hwaited
  · rw [h]
    exact hkeeps.stop .zero hwaited

/-- The rest of the output can be read, unless the system fails to read it. -/
theorem drain_cases (fresh : Fresh w) (env : System σ) (hstartup : o.startupTimeout < UInt64.size)
    (hshutdown : o.shutdownTimeout < UInt64.size) :
    ReadsRest env o w ∨
      (∃ e, ((afterSettling env o w).drain env (.ofMillis o.shutdownTimeout)).1 = .error (.failed (.io e))) ∧
        (afterDrain env o w).capture = .broken :=
  Observation.drain_ok_or_broken (fresh.coherent_afterSettling env o) env (fresh.drain_fits env hstartup hshutdown)

end Fresh

/-! ### Reports -/

/-- What a report says about a probe of the program `w` that came to its end. -/
structure Tells (env : System σ) (o : ProbeOptions) (w : Observation σ) (r : Report) : Prop where
  viaShell : r.viaShell = o.viaShell
  announced : ∃ l ∈ (afterStartup env o w).transcript.lines, ∃ pid, l.marker = some (.processStarted pid)
  delivered : Delivered env (target o w.pid) o.signal.number (afterStartup env o w) (afterRequest env o w)
  outcome : Reaped env o (afterRequest env o w) (afterSettling env o w) r.outcome
  drained : ((afterSettling env o w).drain env (.ofMillis o.shutdownTimeout)).1 = .ok r.drained
  transcript : r.transcript = (afterDrain env o w).transcript
  verdict : r.verdict = ShutdownSequence.verify r.transcript ShutdownSequence.minCleanup

/-- A probe comes to its end with a report, or a stage fails and with it the probe. -/
theorem observe_cases (fresh : Fresh w) (hstartup : o.startupTimeout < UInt64.size)
    (hshutdown : o.shutdownTimeout < UInt64.size) :
    (∃ r, (observe env o w).1 = .ok r ∧ Tells env o w r) ∨
      (∃ e, (observe env o w).1 = .error (.failed e)) ∧ ¬(Passes env o w ∧ ReadsRest env o w) := by
  obtain ⟨hread, ⟨pid, hok, l, hl, hmarker⟩ | ⟨⟨e, herr⟩, hnone⟩⟩ := fresh.startup_cases env hstartup
  -- each stage that succeeds shows what is said of it, and a stage that fails refutes the same
  · have hstart : w.waitForStartup env (.ofMillis o.startupTimeout) = (.ok pid, afterStartup env o w) :=
      Prod.ext hok rfl
    have hdelivered := @request_eq_ok_iff _ env o (afterStartup env o w)
    rw [hread.pid] at hdelivered
    simp only [observe, hstart]
    rcases hrequest : request env o (afterStartup env o w) with ⟨r₁, w₂⟩
    obtain rfl : afterRequest env o w = w₂ := congrArg Prod.snd hrequest
    rw [hrequest] at hdelivered
    cases r₁ with
    | error e => exact Or.inr ⟨⟨e, rfl⟩, fun h => nomatch hdelivered.mpr h.1.delivered⟩
    | ok =>
      have hreaped (outcome : ExitOutcome) := @settle_eq_ok_iff _ env o (afterRequest env o w) outcome
      simp only
      rcases hsettle : settle env o (afterRequest env o w) with ⟨r₂, w₃⟩
      obtain rfl : afterSettling env o w = w₃ := congrArg Prod.snd hsettle
      rw [hsettle] at hreaped
      cases r₂ with
      | error e =>
        refine Or.inr ⟨⟨e, rfl⟩, fun h => ?_⟩
        obtain ⟨outcome, hout, -⟩ := h.1.reaped
        exact nomatch (hreaped outcome).mpr hout
      | ok outcome =>
        simp only
        rcases fresh.drain_cases env hstartup hshutdown with ⟨ended, hdrain⟩ | ⟨⟨e, hdrain⟩, -⟩
        · have hrest : (afterSettling env o w).drain env (.ofMillis o.shutdownTimeout) =
              (.ok ended, afterDrain env o w) := Prod.ext hdrain rfl
          simp only [conclude, hrest]
          exact Or.inl ⟨_, rfl, rfl, ⟨l, hl, pid, hmarker⟩, hdelivered.mp rfl, (hreaped outcome).mp rfl, hdrain, rfl,
            rfl⟩
        · have hrest : (afterSettling env o w).drain env (.ofMillis o.shutdownTimeout) =
              (.error (.failed (.io e)), afterDrain env o w) := Prod.ext hdrain rfl
          simp only [conclude, hrest]
          exact Or.inr ⟨⟨_, rfl⟩, fun ⟨_, ended, hended⟩ => nomatch hdrain.symm.trans hended⟩
  · have hstart : w.waitForStartup env (.ofMillis o.startupTimeout) = (.error (.failed e), afterStartup env o w) :=
      Prod.ext herr rfl
    simp only [observe, hstart]
    refine Or.inr ⟨⟨e, rfl⟩, fun h => ?_⟩
    obtain ⟨l, hl, hpid⟩ := h.1.announced
    exact nomatch (hnone l hl).symm.trans (Observation.announces_iff.mpr hpid)

theorem success_iff {outcome : ExitOutcome} : outcome.success = true ↔ outcome = .exited 0 := by
  cases outcome <;> simp [ExitOutcome.success]

theorem toBool_eq_true_iff {ε α : Type} {r : Except ε α} : r.toBool = true ↔ ∃ a, r = .ok a := by
  cases r <;> simp [Except.toBool]

/-- A report is one of success exactly if all stages succeeded. -/
theorem Tells.passes_iff {r : Report} (h : Tells env o w r) : r.passes = true ↔ Passes env o w := by
  rw [Report.passes, Bool.and_eq_true, Bool.or_eq_true, toBool_eq_true_iff, success_iff, h.verdict, h.viaShell,
    h.transcript]
  constructor
  · rintro ⟨haccepted, hended⟩
    exact ⟨h.announced, h.delivered, ⟨r.outcome, h.outcome, hended⟩, haccepted⟩
  · intro hpasses
    obtain ⟨outcome, hreaped, hended⟩ := hpasses.reaped
    obtain rfl : r.outcome = outcome := h.outcome.unique hreaped
    exact ⟨hpasses.accepted, hended⟩

/-! ### What is printed -/

/-- The last line that is printed for a report is its verdict. -/
theorem Report.text_eq (r : Report) : ∃ body, r.text = body ++ r.verdictLine ++ "\n" := by
  refine ⟨r.transcript.render ++ String.join ((["---", r.outcomeLine] ++
    (if r.drained then [] else ["warning: output was still open when capture timed out"])).map (· ++ "\n")), ?_⟩
  rw [Report.text, Report.lines, List.map_append, String.join_append]
  simp [String.append_assoc]

/-- The verdict line says that the sequence is in order exactly if it is. -/
theorem Report.verdictLine_ok_iff (r : Report) :
    "sequence: ok".toList <+: r.verdictLine.toList ↔ ∃ s, r.verdict = .ok s := by
  unfold Report.verdictLine
  cases r.verdict with
  | ok s =>
    refine iff_of_true ?_ ⟨s, rfl⟩
    have hhead : "sequence: ok (pid ".toList = "sequence: ok".toList ++ " (pid ".toList := by decide
    simp only [String.toList_append, List.append_assoc, hhead]
    exact List.prefix_append _ _
  | error violation =>
    refine iff_of_false (fun h => ?_) fun ⟨s, hs⟩ => nomatch hs
    have hok : "sequence: ok".toList = "sequence: ".toList ++ ['o', 'k'] := by decide
    have hfailed : "sequence: FAILED (".toList = "sequence: ".toList ++ 'F' :: "AILED (".toList := by decide
    rw [String.toList_append, String.toList_append, hok, hfailed, List.append_assoc, List.append_assoc,
      List.prefix_append_right_inj, List.cons_append, List.cons_prefix_cons] at h
    exact absurd h.1 (by decide)

/-! ### Exit codes -/

/-- A probe ends with the report of its program, or it fails and one of its stages has failed. -/
theorem run_cases (env : System σ) (hstartup : o.startupTimeout < UInt64.size)
    (hshutdown : o.shutdownTimeout < UInt64.size) (s : σ) :
    (∃ w r, Observation.spawn env (launch o) .start s = .ok w ∧ run env o .start s = .ok r ∧ Tells env o w r) ∨
      (∃ e, run env o .start s = .error (.failed e)) ∧
        ∀ w, Observation.spawn env (launch o) .start s = .ok w → ¬(Passes env o w ∧ ReadsRest env o w) := by
  unfold run
  cases hspawn : Observation.spawn env (launch o) .start s with
  | error e => exact Or.inr ⟨⟨e, rfl⟩, fun w h => nomatch h⟩
  | ok w =>
    rcases observe_cases (fresh_of_spawn hspawn) hstartup hshutdown with ⟨r, hr, htells⟩ | ⟨herr, hfails⟩
    · exact Or.inl ⟨w, r, rfl, hr, htells⟩
    · refine Or.inr ⟨herr, fun w' h => ?_⟩
      obtain rfl : w = w' := Except.ok.inj h
      exact hfails

theorem exitCode_report (r : Report) : exitCode (.ok r) = if r.passes then 0 else 1 := rfl

theorem exitCode_report_eq_zero_iff {r : Report} : exitCode (.ok r) = 0 ↔ r.passes = true := by
  rw [exitCode_report]
  split
  · rename_i h
    exact iff_of_true rfl h
  · rename_i h
    exact iff_of_false Nat.one_ne_zero h

theorem exitCode_eq_zero_or_one (env : System σ) (hstartup : o.startupTimeout < UInt64.size)
    (hshutdown : o.shutdownTimeout < UInt64.size) (s : σ) :
    exitCode (run env o .start s) = 0 ∨ exitCode (run env o .start s) = 1 := by
  rcases run_cases env hstartup hshutdown s with ⟨w, r, -, hr, -⟩ | ⟨⟨e, he⟩, -⟩
  · rw [hr, exitCode_report]
    split
    · exact Or.inl rfl
    · exact Or.inr rfl
  · rw [he]
    exact Or.inr rfl

theorem exitCode_eq_zero_iff (env : System σ) (hstartup : o.startupTimeout < UInt64.size)
    (hshutdown : o.shutdownTimeout < UInt64.size) (s : σ) :
    exitCode (run env o .start s) = 0 ↔
      ∃ w, Observation.spawn env (launch o) .start s = .ok w ∧ Passes env o w ∧ ReadsRest env o w := by
  rcases run_cases env hstartup hshutdown s with ⟨w, r, hspawn, hr, htells⟩ | ⟨⟨e, he⟩, hfails⟩
  · rw [hr, exitCode_report_eq_zero_iff, htells.passes_iff]
    refine ⟨fun h => ⟨w, hspawn, h, _, htells.drained⟩, ?_⟩
    rintro ⟨w', hspawn', h, -⟩
    obtain rfl : w = w' := Except.ok.inj (hspawn.symm.trans hspawn')
    exact h
  · rw [he]
    exact iff_of_false Nat.one_ne_zero fun ⟨w, hspawn, h⟩ => hfails w hspawn h

/-- Where reading does not fail, it is the program that decides. -/
theorem exitCode_eq_zero_iff_passes (env : System σ) (hstartup : o.startupTimeout < UInt64.size)
    (hshutdown : o.shutdownTimeout < UInt64.size) {s : σ} (hspawn : Observation.spawn env (launch o) .start s = .ok w)
    (hwhole : (afterDrain env o w).capture ≠ .broken) : exitCode (run env o .start s) = 0 ↔ Passes env o w := by
  have hrest : ReadsRest env o w :=
    ((fresh_of_spawn hspawn).drain_cases env hstartup hshutdown).resolve_right fun h => hwhole h.2
  refine (exitCode_eq_zero_iff env hstartup hshutdown s).trans ⟨?_, fun h => ⟨w, hspawn, h, hrest⟩⟩
  rintro ⟨w', hspawn', h, -⟩
  obtain rfl : w = w' := Except.ok.inj (hspawn.symm.trans hspawn')
  exact h

/-- Without a shell no report of success is one of a death by a signal. -/
theorem Tells.exitCode_ne_zero {r : Report} (h : Tells env o w r) (hdirect : o.viaShell = false) {n : Int}
    (hkilled : r.outcome = .signaled n) : exitCode (.ok r) ≠ 0 := by
  intro hzero
  rw [exitCode_report_eq_zero_iff, h.passes_iff] at hzero
  obtain ⟨outcome, hreaped, hended⟩ := hzero.reaped
  obtain rfl : r.outcome = outcome := h.outcome.unique hreaped
  rcases hended with hshell | hended
  · exact nomatch hdirect.symm.trans hshell
  · exact nomatch hkilled.symm.trans hended

/-- A probe exits with code zero exactly if its program could be started and passes and the rest of the output could be
read, and with code one otherwise; so unless the system fails to read, it is the program alone that decides. The lines
in which it looks for an announcement arrived in time, the transcript that it judges begins with them, and an outcome is
that of a status that was seen. What it prints ends with the verdict on the transcript, and a program that was killed by
a signal, under no shell, never passes, whatever it printed. -/
theorem exitCode_run_eq_zero_iff (env : System σ) (o : ProbeOptions) (hstartup : o.startupTimeout < UInt64.size)
    (hshutdown : o.shutdownTimeout < UInt64.size) (s : σ) :
    let result := run env o .start s
    (exitCode result = 0 ∨ exitCode result = 1) ∧
    (exitCode result = 0 ↔
      ∃ w, Observation.spawn env (launch o) .start s = .ok w ∧ Passes env o w ∧ ReadsRest env o w) ∧
    (∀ w, Observation.spawn env (launch o) .start s = .ok w →
      ((afterDrain env o w).capture ≠ .broken → (exitCode result = 0 ↔ Passes env o w)) ∧
      (∀ l ∈ (afterStartup env o w).transcript.lines, l.stamp.nanos ≤ (Duration.ofMillis o.startupTimeout).nanos) ∧
      (∃ ls, (afterDrain env o w).transcript.lines = (afterStartup env o w).transcript.lines ++ ls) ∧
      ∀ outcome, Reaped env o (afterRequest env o w) (afterSettling env o w) outcome →
        ∃ status, (afterSettling env o w).status = some status ∧ outcome = status.outcome) ∧
    ∀ r, result = .ok r →
      (∃ w, Observation.spawn env (launch o) .start s = .ok w ∧ Tells env o w r) ∧
      (o.viaShell = false → ∀ n, r.outcome = .signaled n → exitCode result ≠ 0) ∧
      ∃ body, output result = body ++ r.verdictLine ++ "\n" ∧
        ("sequence: ok".toList <+: r.verdictLine.toList ↔
          ∃ sequence, ShutdownSequence.verify r.transcript ShutdownSequence.minCleanup = .ok sequence) := by
  intro result
  refine ⟨exitCode_eq_zero_or_one env hstartup hshutdown s, exitCode_eq_zero_iff env hstartup hshutdown s,
    fun w hspawn => ?_, fun r hr => ?_⟩
  · have fresh := fresh_of_spawn hspawn
    exact ⟨exitCode_eq_zero_iff_passes env hstartup hshutdown hspawn, fun l => fresh.stamp_le hstartup,
      fresh.lines_afterDrain env hstartup hshutdown,
      fun outcome hreaped => (fresh.sound_afterSettling env hstartup).outcome outcome hreaped.noted⟩
  · rcases run_cases env hstartup hshutdown s with ⟨w, r', hspawn, hr', htells⟩ | ⟨⟨e, he⟩, -⟩
    · obtain rfl : r' = r := Except.ok.inj (hr'.symm.trans hr)
      obtain ⟨body, hbody⟩ := r'.text_eq
      refine ⟨⟨w, hspawn, htells⟩, fun hdirect n hkilled => ?_, body, ?_, ?_⟩
      · rw [hr]
        exact htells.exitCode_ne_zero hdirect hkilled
      · rw [hr]
        exact hbody
      · rw [r'.verdictLine_ok_iff, htells.verdict]
    · exact nomatch he.symm.trans hr

/-- A system with one program: it writes three lines at once, and a fifth of a second later it writes the last one and
ends with a status, whatever it is sent. -/
def punctual (status : WaitStatus) : System Unit where
  spawn _ _ := (.ok {
    pid := some 7
    seen := [.output ([.processStarted 7, .shutdownStart, .shutdownPid 7].flatMap Marker.line)] }, ())
  advance _ _ _ :=
    (some (⟨200000000⟩, [.output ([.shutdownComplete].flatMap Marker.line), .ended status, .closed]), ())
  send _ _ _ := (none, [], ())
  reap _ _ := ()

/-- What a probe reports of it. -/
def punctualReport (status : WaitStatus) : Report where
  viaShell := false
  outcome := status.outcome
  drained := true
  transcript := { lines := [.arrive (Marker.processStarted 7).text .start, .arrive Marker.shutdownStart.text .start,
    .arrive (Marker.shutdownPid 7).text .start, .arrive Marker.shutdownComplete.text ⟨200000000⟩] }
  verdict := .ok ⟨7, ⟨200000000⟩⟩

theorem verify_punctual (status : WaitStatus) :
    ShutdownSequence.verify (punctualReport status).transcript ShutdownSequence.minCleanup =
      .ok ⟨7, ⟨200000000⟩⟩ := by
  simp only [punctualReport, ShutdownSequence.verify, ShutdownSequence.startup, ShutdownSequence.opensWithOther,
    Transcript.markers, ObservedLine.arrive, Marker.parse?_text, List.filterMap_cons, Option.map_some]
  rfl

theorem run_punctual (status : WaitStatus) : run (punctual status) {} .start () = .ok (punctualReport status) := by
  let begun : Observation Unit :=
    { system := (), pid := 7, clock := .start, transcript := {}
      unread := [.arrive (Marker.processStarted 7).text .start, .arrive Marker.shutdownStart.text .start,
        .arrive (Marker.shutdownPid 7).text .start] }
  let announced : Observation Unit :=
    { begun with
      unread := [.arrive Marker.shutdownStart.text .start, .arrive (Marker.shutdownPid 7).text .start]
      transcript := { lines := [.arrive (Marker.processStarted 7).text .start] } }
  let asked : Observation Unit := { announced with sent := [(.process 7, 15)] }
  let ended : Observation Unit :=
    { asked with
      clock := ⟨200000000⟩
      unread := asked.unread ++ [.arrive Marker.shutdownComplete.text ⟨200000000⟩]
      capture := .closed, status := some status }
  have hspawn : Observation.spawn (punctual status) (launch {}) .start () = .ok begun := by
    show Except.ok (Observation.see ({ system := (), pid := 7, clock := .start, transcript := {} } : Observation Unit)
      (.output ([.processStarted 7, .shutdownStart, .shutdownPid 7].flatMap Marker.line))) = _
    rw [Observation.see_lines _ rfl rfl]
    rfl
  have hstartup : begun.waitForStartup (punctual status) (.ofMillis 5000) = (.ok 7, announced) := by
    have hmarker : (ObservedLine.arrive (Marker.processStarted 7).text .start).marker = some (.processStarted 7) :=
      Marker.parse?_text _
    have hdeadline : begun.clock.after? (.ofMillis 5000) = some ⟨5000000000⟩ := by decide
    have hnext := @Observation.nextLine_of_unread _ begun _ _ rfl rfl (punctual status)
      (Instant.since ⟨5000000000⟩ begun.clock)
    simp only [Observation.waitForStartup, Observation.expectMarker, hdeadline, Observation.seek_of_line hnext, hmarker,
      Option.any_some, Marker.isProcessStarted, ↓reduceIte]
    rfl
  have hrequest : request (punctual status) {} announced = (.ok (), asked) := rfl
  have hseen : Observation.seeAll { asked with clock := ⟨200000000⟩ }
      [.output ([.shutdownComplete].flatMap Marker.line), .ended status, .closed] = ended := by
    rw [Observation.seeAll, List.foldl_cons, Observation.see_lines _ rfl rfl]
    rfl
  have hawait : asked.await (punctual status) Observation.answerable ⟨10000000000⟩ = ended := by
    have hadvance := @Observation.await_of_advance _ (punctual status) Observation.answerable ⟨10000000000⟩ asked
      ⟨200000000⟩ [.output ([.shutdownComplete].flatMap Marker.line), .ended status, .closed] () rfl rfl (by decide)
      (by decide)
    rw [hadvance, hseen]
    exact Observation.await_of_enough rfl
  have hsettle : settle (punctual status) {} asked =
      (.ok status.outcome, { ended with outcome := some status.outcome }) := by
    have halarm : asked.clock.alarm (.ofMillis 10000) = ⟨10000000000⟩ := by decide
    have hunnoted : asked.outcome = none ∧ ended.outcome = none ∧ ended.waitError = none ∧
        ended.status = some status := ⟨rfl, rfl, rfl, rfl⟩
    simp only [settle, Observation.wait, Observation.tryWait, halarm, hawait, hunnoted]
  have hfits : (ended.clock.plus (.ofMillis 10000)).nanos ≤ Instant.last.nanos := by
    show (10200000000 : Int) ≤ Instant.last.nanos
    decide
  have hstopped : ended.capture ≠ .running := fun h => by cases h
  have hdrain := @Observation.drain_of_closed _ { ended with outcome := some status.outcome } (punctual status)
    (.ofMillis 10000) hfits rfl hstopped rfl
  have htranscript : (Observation.readOut { ended with outcome := some status.outcome }).transcript =
      (punctualReport status).transcript := rfl
  simp only [run, hspawn, observe, hstartup, hrequest, hsettle, conclude, hdrain, htranscript, verify_punctual]
  rfl

/-- Of a program that writes its lines in time, what a probe says depends on its end: it passes if it exits with
success, and not if it is killed, although its lines are in order. -/
theorem exitCode_run_punctual :
    (∃ w, Observation.spawn (punctual (.ofExit 0)) (launch {}) .start () = .ok w ∧
        Passes (punctual (.ofExit 0)) {} w ∧ ReadsRest (punctual (.ofExit 0)) {} w) ∧
      (punctualReport (.ofSignal 9 false)).outcome = .signaled 9 ∧
      exitCode (run (punctual (.ofSignal 9 false)) {} .start ()) = 1 ∧
      "sequence: ok".toList <+: (punctualReport (.ofSignal 9 false)).verdictLine.toList := by
  obtain ⟨-, hzero, -⟩ := exitCode_run_eq_zero_iff (punctual (.ofExit 0)) {} (by decide) (by decide) ()
  obtain ⟨hcodes, -, -, hreport⟩ :=
    exitCode_run_eq_zero_iff (punctual (.ofSignal 9 false)) {} (by decide) (by decide) ()
  have hkilled : (punctualReport (.ofSignal 9 false)).outcome = .signaled 9 := by decide
  obtain ⟨-, hfails, body, -, hverdict⟩ := hreport _ (run_punctual (.ofSignal 9 false))
  refine ⟨hzero.mp ?_, hkilled, hcodes.resolve_left (hfails rfl 9 hkilled), ?_⟩
  · rw [run_punctual]
    decide
  · exact hverdict.mpr ⟨_, verify_punctual _⟩

end OrderlyExit.Probe
