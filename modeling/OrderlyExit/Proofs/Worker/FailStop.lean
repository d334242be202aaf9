import OrderlyExit.Proofs.Worker.Session

/-! A worker is fail-stop. As far as the clock and the outlet go, its life follows the plan of its four markers,
    so a call that fails ends it at once: what has been let out is the part of the plan before, and no further
    call is made. -/

namespace OrderlyExit
namespace Worker
open Session

variable {σ : Type}

/-- The markers of a worker, each with the time at which it emits it. -/
def plan (w : Worker) (after : Nat) : List (Nat × Marker) :=
  [(0, .processStarted w.pid), (waitTime after, .shutdownStart), (waitTime after, .shutdownPid w.pid),
    (waitTime after + waitTime w.settings.cleanupDelay, .shutdownComplete)]

/-- The answer of a worker that is asked to end by `signal`, from what became of its plan. -/
def answer (signal : ShutdownSignal) : Except IoError Unit → Except Stop ShutdownSignal
  | .ok () => .ok signal
  | .error e => .error (.failed (.output e))

/-- The markers of a worker that idles for `idled` milliseconds, each with the time at which it emits it. -/
def timetable (w : Worker) (idled : Nat) : List (Nat × Marker) :=
  [(0, .processStarted w.pid), (idled, .shutdownStart), (idled, .shutdownPid w.pid),
    (idled + waitTime w.settings.cleanupDelay, .shutdownComplete)]

theorem plan_eq_timetable (w : Worker) (after : Nat) : w.plan after = w.timetable (waitTime after) := rfl

/-- The orderly exit follows the last three lines of the timetable. -/
theorem perform_shutdown (env : Surroundings σ) (pid : UInt32) (cleanupDelay clock : Nat) (s : Session σ) :
    let life := Outlet.follow env.sink clock s.outlet [(s.clock, .shutdownStart), (s.clock, .shutdownPid pid),
      (s.clock + waitTime cleanupDelay, .shutdownComplete)]
    let run := s.perform (shutdown env pid cleanupDelay)
    run.1 = life.result ∧ run.2.clock = life.clock ∧ run.2.outlet = life.outlet := by
  simp only [shutdown, perform_bind, perform_emit, perform_sleep, Outlet.follow]
  -- both sides take the same emissions in turn, and end together where one fails
  rcases s.outlet.emit env.sink s.clock .shutdownStart with ⟨r₁, o₁⟩
  cases r₁ with
  | error e => exact ⟨rfl, rfl, rfl⟩
  | ok =>
    simp only [emitted_clock, emitted_outlet]
    rcases o₁.emit env.sink s.clock (.shutdownPid pid) with ⟨r₂, o₂⟩
    cases r₂ with
    | error e => exact ⟨rfl, rfl, rfl⟩
    | ok =>
      simp only [emitted_clock, emitted_outlet, later_clock, later_outlet]
      rcases o₂.emit env.sink (s.clock + waitTime cleanupDelay) .shutdownComplete with ⟨r₃, o₃⟩
      cases r₃ <;> exact ⟨rfl, rfl, rfl⟩

/-- The life of a worker follows its timetable, however it comes to idle for as long as that. -/
theorem perform_runUntil_of_idle (env : Surroundings σ) (w : Worker) (request : Request) (s : Session σ)
    (start : s.clock = 0) (idled : Nat) {signal : ShutdownSignal}
    (hidle : ∀ o, ∃ t, (s.emitted env o).perform (idle env w.settings.tick request) = (.ok signal, t) ∧
      t.clock = idled ∧ t.outlet = o) :
    let life := Outlet.follow env.sink 0 s.outlet (w.timetable idled)
    let run := s.perform (w.runUntil env request)
    run.1 = answer signal life.result ∧ run.2.clock = life.clock ∧ run.2.outlet = life.outlet := by
  rw [timetable, Outlet.follow]
  simp only [runUntil, announce, perform_bind, perform_writing, perform_adapt, perform_emit, start]
  rcases s.outlet.emit env.sink 0 (.processStarted w.pid) with ⟨r, o⟩
  cases r with
  | error e => exact ⟨rfl, rfl, rfl⟩
  | ok =>
    obtain ⟨t, ht, rfl, rfl⟩ := hidle o
    simp only [mapError_ok, ht]
    obtain ⟨hresult, hclock, houtlet⟩ := perform_shutdown env w.pid w.settings.cleanupDelay 0 t
    rw [← hresult, ← hclock, ← houtlet]
    rcases t.perform (shutdown env w.pid w.settings.cleanupDelay) with ⟨r, u⟩
    cases r <;> exact ⟨rfl, rfl, rfl⟩

/-- The life of a worker follows its plan. -/
theorem perform_runUntil (env : Surroundings σ) (w : Worker) (positive : 0 < w.settings.tick) (after : Nat)
    (signal : ShutdownSignal) (o : Outlet σ) :
    let life := Outlet.follow env.sink 0 o (w.plan after)
    let run := ({ outlet := o } : Session σ).perform (w.runUntil env (.after after signal))
    run.1 = answer signal life.result ∧ run.2.clock = life.clock ∧ run.2.outlet = life.outlet := by
  rw [plan_eq_timetable]
  refine perform_runUntil_of_idle env w (.after after signal) { outlet := o } rfl (waitTime after)
    fun o' => ⟨_, perform_idle_after _ env positive after signal, ?_, rfl⟩
  rw [later_clock, emitted_clock]
  exact Nat.zero_add _

/-- A run that came to its end: all four lines are out, each at its time, and no call failed. -/
structure Finished (w : Worker) (after : Nat) (signal : ShutdownSignal)
    (run : Except Stop ShutdownSignal × Session σ) : Prop where
  result : run.1 = .ok signal
  clock : run.2.clock = waitTime after + waitTime w.settings.cleanupDelay
  flushed : run.2.outlet.flushed = (w.plan after).map Outlet.entry
  pending : run.2.outlet.pending = []
  calls : Unbroken run.2.outlet.calls

/-- A run that broke off in the emission of `m`, once those in `done` were out: its last call, and only that one,
    failed, and the error is the run's. -/
structure BrokeOff (done : List (Nat × Marker)) (m : Marker) (last : SinkCall) (e : IoError)
    (run : Except Stop ShutdownSignal × Session σ) : Prop where
  result : run.1 = .error (.failed (.output e))
  flushed : run.2.outlet.flushed = done.map Outlet.entry
  isPrefix : run.2.outlet.pending <+: m.line
  whole : last.isFlush = true ↔ run.2.outlet.pending = m.line
  failure : last.failure? = some e
  calls : ∃ cs, Unbroken cs ∧ run.2.outlet.calls = cs ++ [last]

theorem runUntil_cases (env : Surroundings σ) (w : Worker) (positive : 0 < w.settings.tick) (after : Nat)
    (signal : ShutdownSignal) (start : σ) {run : Except Stop ShutdownSignal × Session σ}
    (hrun : ({ outlet := { state := start } } : Session σ).perform (w.runUntil env (.after after signal)) = run) :
    Finished w after signal run ∨
    ∃ done m rest last e, w.plan after = done ++ (run.2.clock, m) :: rest ∧ BrokeOff done m last e run := by
  obtain ⟨hresult, hclock, houtlet⟩ := perform_runUntil env w positive after signal { state := start }
  rw [hrun] at hresult hclock houtlet
  rcases Outlet.follow_cases env.sink 0 { state := start } rfl (w.plan after) with
    ⟨hok, htime, hout⟩ | ⟨done, time, m, rest, e, last, taken, before, hplan, herr, htime, hdone, hbroke⟩
  · rw [← houtlet] at hout
    obtain ⟨cs, hcs, hcalls⟩ := hout.calls
    refine Or.inl ⟨by rw [hresult, hok]; rfl, by rw [hclock, htime]; rfl, hout.flushed, hout.pending, ?_⟩
    rw [hcalls]
    exact hcs
  · rw [← houtlet] at hbroke
    obtain ⟨cs, hcs, hcalls⟩ := hdone.calls
    obtain ⟨ds, hds, hcalls'⟩ := hbroke.calls
    have hpending : run.2.outlet.pending = taken := by rw [hbroke.pending, hdone.pending, List.nil_append]
    have hflushed : run.2.outlet.flushed = done.map Outlet.entry := by rw [hbroke.flushed, hdone.flushed]; rfl
    refine Or.inr ⟨done, m, rest, last, e, by rw [hplan, hclock, htime], by rw [hresult, herr]; rfl, hflushed,
      hpending ▸ hbroke.isPrefix, hpending ▸ hbroke.whole, hbroke.failure, cs ++ ds, hcs.append hds, ?_⟩
    rw [hcalls', hcalls]
    rfl

/-- Surroundings in which nothing goes wrong and no signal is raised. -/
def calm : Surroundings SinkScript.State := { sink := ({} : SinkScript).sink }

/-- With a sink that takes everything, a worker comes to its end. -/
theorem finished_of_willing (env : Surroundings σ) (willing : env.sink.Willing) (w : Worker)
    (positive : 0 < w.settings.tick) (after : Nat) (signal : ShutdownSignal) (start : σ) :
    Finished w after signal
      (({ outlet := { state := start } } : Session σ).perform (w.runUntil env (.after after signal))) := by
  obtain ⟨hresult, -⟩ := perform_runUntil env w positive after signal { state := start }
  rw [Outlet.follow_of_unfailing willing.unfailing] at hresult
  rcases runUntil_cases env w positive after signal start rfl with hfin | ⟨done, m, rest, last, e, -, hbroke⟩
  · exact hfin
  · cases hresult.symm.trans hbroke.result

/-- The first call that fails is the last one. -/
theorem eq_last_of_failure {cs ds later : List SinkCall} {c last : SinkCall} {e : IoError} (hds : Unbroken ds)
    (h : cs ++ c :: later = ds ++ [last]) (hc : c.failure? = some e) : later = [] ∧ c = last := by
  rcases List.eq_nil_or_concat later with rfl | ⟨later, d, rfl⟩
  · obtain ⟨-, hlast⟩ := List.append_inj' h rfl
    exact ⟨rfl, List.singleton_inj.mp hlast⟩
  · -- with a call behind it, `c` would be among those that did not fail
    rw [List.concat_eq_append, ← List.cons_append, ← List.append_assoc] at h
    obtain ⟨rfl, -⟩ := List.append_inj' h rfl
    have hnone : c.failure? = none := hds c (by simp)
    rw [hnone] at hc
    cases hc

/-- A worker whose calls all succeed lets its four lines out and ends with the signal. As soon as one call fails
    it is over: no further call is made, its error is the result, the clock stands where this marker was due, the
    lines of the markers before are out, and of its own line a prefix is pending, the whole one if it is the flush
    that failed. -/
theorem runUntil_failStop (env : Surroundings σ) (w : Worker) (positive : 0 < w.settings.tick) (after : Nat)
    (signal : ShutdownSignal) (start : σ) :
    let run := ({ outlet := { state := start } } : Session σ).perform (w.runUntil env (.after after signal))
    let o := run.2.outlet
    (Unbroken o.calls →
      run.1 = .ok signal ∧ run.2.clock = waitTime after + waitTime w.settings.cleanupDelay ∧
      o.flushed = (w.plan after).map Outlet.entry ∧ o.pending = []) ∧
    ∀ cs c later e, o.calls = cs ++ c :: later → c.failure? = some e →
      later = [] ∧ run.1 = .error (.failed (.output e)) ∧
      ∃ k m, (w.plan after)[k]? = some (run.2.clock, m) ∧ o.flushed = ((w.plan after).take k).map Outlet.entry ∧
        o.pending <+: m.line ∧ (c.isFlush = true ↔ o.pending = m.line) := by
  intro run o
  rcases runUntil_cases env w positive after signal start (show _ = run from rfl) with
    hfin | ⟨done, m, rest, last, e, hplan, hbroke⟩
  · refine ⟨fun _ => ⟨hfin.result, hfin.clock, hfin.flushed, hfin.pending⟩, fun cs c later e hcalls hc => ?_⟩
    have hnone : c.failure? = none := hfin.calls c (by rw [hcalls]; simp)
    rw [hnone] at hc
    cases hc
  · obtain ⟨ds, hds, hcalls⟩ := hbroke.calls
    refine ⟨fun hall => ?_, fun cs c later e' hcalls' hc => ?_⟩
    · have hnone : last.failure? = none := hall last (by rw [hcalls]; simp)
      rw [hbroke.failure] at hnone
      cases hnone
    · obtain ⟨rfl, rfl⟩ := eq_last_of_failure hds (hcalls'.symm.trans hcalls) hc
      obtain rfl : e = e' := Option.some.inj (hbroke.failure.symm.trans hc)
      refine ⟨rfl, hbroke.result, done.length, m, ?_, ?_, hbroke.isPrefix, hbroke.whole⟩
      · rw [hplan]
        simp
      · rw [hplan, List.take_left]
        exact hbroke.flushed

theorem runUntil_failStop_undisturbed :
    let w : Worker := ⟨{ cleanupDelay := 200 }, 7⟩
    let run := ({ outlet := { state := {} } } : Session SinkScript.State).perform
      (w.runUntil calm (.after 500 .terminate))
    0 < w.settings.tick ∧ run.1 = .ok .terminate ∧ run.2.clock = 700 ∧
      run.2.outlet.flushed = (w.plan 500).map Outlet.entry ∧ run.2.outlet.pending = [] := by
  intro w run
  have positive : 0 < w.settings.tick := by decide
  obtain ⟨hall, -⟩ := runUntil_failStop calm w positive 500 .terminate {}
  obtain ⟨hresult, hclock, hflushed, hpending⟩ :=
    hall (finished_of_willing calm SinkScript.willing w positive 500 .terminate {}).calls
  exact ⟨positive, hresult, hclock.trans (by decide), hflushed, hpending⟩

theorem waitTime_lt {delay : Nat} (long : Instant.farAhead.millis < delay) : waitTime delay < delay :=
  Nat.lt_of_le_of_lt (Nat.min_le_right _ _) long

/-- A cleanup of more than thirty years is cut short: a worker whose calls all succeed ends before the sum of its
delays. -/
theorem runUntil_clock_lt (env : Surroundings σ) (w : Worker) (positive : 0 < w.settings.tick) (after : Nat)
    (signal : ShutdownSignal) (start : σ) (long : Instant.farAhead.millis < w.settings.cleanupDelay) :
    let run := ({ outlet := { state := start } } : Session σ).perform (w.runUntil env (.after after signal))
    Unbroken run.2.outlet.calls → run.2.clock < after + w.settings.cleanupDelay := by
  intro run whole
  rcases runUntil_cases env w positive after signal start (show _ = run from rfl) with
    hfin | ⟨done, m, rest, last, e, -, hbroke⟩
  · rw [hfin.clock]
    exact Nat.add_lt_add_of_le_of_lt (Nat.min_le_left _ _) (waitTime_lt long)
  · obtain ⟨cs, -, hcalls⟩ := hbroke.calls
    have hnone : last.failure? = none := whole last (by rw [hcalls]; simp)
    cases hnone.symm.trans hbroke.failure

/-- This worker ends a millisecond before the sum of its delays. -/
theorem runUntil_clock_ne_sum :
    let w : Worker := ⟨{ cleanupDelay := 946080000001 }, 7⟩
    let run := ({ outlet := { state := {} } } : Session SinkScript.State).perform
      (w.runUntil calm (.after 500 .terminate))
    0 < w.settings.tick ∧ Unbroken run.2.outlet.calls ∧ run.1 = .ok .terminate ∧
      run.2.clock ≠ 500 + w.settings.cleanupDelay := by
  intro w run
  have positive : 0 < w.settings.tick := by decide
  have hfin := finished_of_willing calm SinkScript.willing w positive 500 .terminate {}
  have hcut : run.2.clock < 500 + w.settings.cleanupDelay :=
    runUntil_clock_lt calm w positive 500 .terminate {} (by decide) hfin.calls
  exact ⟨positive, hfin.calls, hfin.result, Nat.ne_of_lt hcut⟩

end Worker
end OrderlyExit
