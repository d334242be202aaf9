import Mathlib.Data.Nat.Find
import OrderlyExit.Proofs.Worker.FailStop
import OrderlyExit.Proofs.Worker.Listener

/-! Signals at any moment. A worker that has registered for signals idles until the first one is there, be it raised
    before it idles or while it does. What has been raised up to that moment decides which signal it ends with, and
    what is raised from then on is absorbed: its life follows the same timetable. -/

namespace OrderlyExit
open Session

/-! ### Schedules of signals -/

namespace Raises

/-- The signals raised at a worker that idles, up to a time: those of its first flush, and those of the times up to
then. -/
def upTo (r : Raises) (time : Nat) : List ShutdownSignal :=
  (r.timed.filter (·.1 ≤ time)).map (·.2) ++ r.afterFlush 1

theorem mem_upTo {r : Raises} {time : Nat} {kind : ShutdownSignal} :
    kind ∈ r.upTo time ↔ (∃ t ≤ time, (t, kind) ∈ r.timed) ∨ kind ∈ r.afterFlush 1 := by
  simp only [upTo, List.mem_append, List.mem_map, List.mem_filter, decide_eq_true_eq, Prod.exists, exists_eq_right]
  simp only [and_comm]

/-- The time at which the first signal is there. -/
structure First (r : Raises) (time : Nat) : Prop where
  raised : r.upTo time ≠ []
  before : ∀ t < time, r.upTo t = []

/-- Where a signal is raised at all there is a first time. -/
theorem exists_first {r : Raises} {time : Nat} (h : r.upTo time ≠ []) : ∃ t ≤ time, r.First t := by
  classical
  have hex : ∃ t, r.upTo t ≠ [] := ⟨time, h⟩
  exact ⟨Nat.find hex, Nat.find_min' hex h, Nat.find_spec hex, fun t ht => not_not.mp (Nat.find_min hex ht)⟩

/-- When nothing has been raised before the worker idles, the first signal is the earliest of those with a time. -/
theorem First.min?_timed {r : Raises} {time : Nat} (first : r.First time) (h : time ≠ 0) :
    ((r.timed.filter (0 < ·.1)).map (·.1)).min? = some time := by
  have hnone : ∀ t < time, ∀ kind, kind ∉ r.upTo t := fun t ht => List.eq_nil_iff_forall_not_mem.mp (first.before t ht)
  obtain ⟨kind, hkind⟩ := List.exists_mem_of_ne_nil _ first.raised
  rw [List.min?_eq_some_iff]
  constructor
  · rcases mem_upTo.mp hkind with ⟨t, ht, hmem⟩ | hflush
    · have htime : t = time := by
        refine Nat.le_antisymm ht (Nat.not_lt.mp fun hlt => ?_)
        exact hnone t hlt kind (mem_upTo.mpr (Or.inl ⟨t, Nat.le_refl t, hmem⟩))
      subst htime
      exact List.mem_map.mpr ⟨_, List.mem_filter.mpr ⟨hmem, decide_eq_true (Nat.pos_of_ne_zero h)⟩, rfl⟩
    · exact absurd (mem_upTo.mpr (Or.inr hflush)) (hnone 0 (Nat.pos_of_ne_zero h) kind)
  · intro t ht
    obtain ⟨⟨t, kind⟩, hmem, rfl⟩ := List.mem_map.mp ht
    refine Nat.not_lt.mp fun hlt => ?_
    exact hnone t hlt kind (mem_upTo.mpr (Or.inl ⟨t, Nat.le_refl t, (List.mem_filter.mp hmem).1⟩))

/-- Two schedules that agree up to a time, as far as a listener can tell. -/
def SameUpTo (r r' : Raises) (time : Nat) : Prop := ∀ t ≤ time, ∀ kind, kind ∈ r'.upTo t ↔ kind ∈ r.upTo t

theorem First.of_sameUpTo {r r' : Raises} {time : Nat} (first : r.First time) (h : r.SameUpTo r' time) :
    r'.First time where
  raised := by
    obtain ⟨kind, hkind⟩ := List.exists_mem_of_ne_nil _ first.raised
    exact List.ne_nil_of_mem ((h time (Nat.le_refl time) kind).mpr hkind)
  before t ht := by
    rw [List.eq_nil_iff_forall_not_mem]
    intro kind hkind
    have hmem := (h t (Nat.le_of_lt ht) kind).mp hkind
    rw [first.before t ht] at hmem
    cases hmem

end Raises

theorem mem_raisedBetween {timed : List (Nat × ShutdownSignal)} {start stop : Nat} {kind : ShutdownSignal} :
    kind ∈ raisedBetween timed start stop ↔ ∃ t, start < t ∧ t ≤ stop ∧ (t, kind) ∈ timed := by
  simp only [raisedBetween, List.mem_map, List.mem_filter, Bool.and_eq_true, decide_eq_true_eq, Prod.exists,
    exists_eq_right]
  constructor
  · rintro ⟨t, hmem, hstart, hstop⟩
    exact ⟨t, hstart, hstop, hmem⟩
  · rintro ⟨t, hstart, hstop, hmem⟩
    exact ⟨t, hmem, hstart, hstop⟩

namespace Worker

variable {σ : Type}

/-! ### Registration -/

/-- The session of a worker that has just registered. -/
def registered (env : Surroundings σ) (o : Outlet σ) : Session σ :=
  { outlet := o, listener := .raiseAll {} ((env.raises.timed.filter (·.1 = 0)).map (·.2)) }

theorem perform_run_of_registered (env : Surroundings σ) {refusal : ShutdownSignal → Option IoError}
    (hrefusal : ∀ kind, refusal kind = none) (w : Worker) (o : Outlet σ) :
    ({ outlet := o } : Session σ).perform (w.run env refusal) =
      (registered env o).perform (w.runUntil env .raised) := by
  simp only [run, Listener.register, hrefusal]
  rfl

/-- A worker that cannot register does nothing else. -/
theorem perform_run_of_refused (env : Surroundings σ) {refusal : ShutdownSignal → Option IoError}
    {signal : ShutdownSignal} {source : IoError} (hrefusal : Listener.register refusal = .error (signal, source))
    (w : Worker) (s : Session σ) :
    s.perform (w.run env refusal) = (.error (.failed (.registration signal source)), s) := by
  simp only [run, hrefusal]
  rfl

/-! ### Idling until the first signal -/

theorem listener_emitted (env : Surroundings σ) (o o' : Outlet σ) :
    ((registered env o).emitted env o').listener = .raiseAll {} (env.raises.upTo 0) := by
  show Listener.raiseAll (.raiseAll {} _) (env.raises.afterFlush 1) = _
  rw [← Listener.raiseAll_append]
  refine Listener.raiseAll_congr (fun kind => ?_) {}
  simp [Raises.mem_upTo]

/-- A listener that is sent signals while a worker idles holds all that has been raised up to then. -/
theorem listener_later (env : Surroundings σ) {s : Session σ} (start : s.clock = 0)
    (h : s.listener = .raiseAll {} (env.raises.upTo 0)) (delay : Nat) :
    (s.later env delay).listener = .raiseAll {} (env.raises.upTo delay) := by
  show s.listener.raiseAll _ = _
  rw [h, start, Nat.zero_add, ← Listener.raiseAll_append]
  refine Listener.raiseAll_congr (fun kind => ?_) {}
  rw [List.mem_append, mem_raisedBetween, Raises.mem_upTo, Raises.mem_upTo]
  constructor
  · rintro ((⟨t, ht, hmem⟩ | hflush) | ⟨t, -, ht, hmem⟩)
    · exact Or.inl ⟨t, Nat.le_trans ht (Nat.zero_le delay), hmem⟩
    · exact Or.inr hflush
    · exact Or.inl ⟨t, ht, hmem⟩
  · rintro (⟨t, ht, hmem⟩ | hflush)
    · rcases Nat.eq_zero_or_pos t with rfl | hpos
      · exact Or.inl (Or.inl ⟨0, Nat.le_refl 0, hmem⟩)
      · exact Or.inr ⟨t, hpos, ht, hmem⟩
    · exact Or.inl (Or.inr hflush)

/-- A worker idles until the first signal is there. -/
theorem requestDelay?_raised (env : Surroundings σ) {s : Session σ} (start : s.clock = 0)
    (h : s.listener = .raiseAll {} (env.raises.upTo 0)) {idled : Nat} (first : env.raises.First idled) :
    s.requestDelay? env .raised = some idled := by
  simp only [requestDelay?, start, h, Nat.sub_zero]
  rcases Nat.eq_zero_or_pos idled with rfl | hpos
  · rw [if_pos]
    exact Option.isSome_iff_ne_none.mpr fun hnone => first.raised (Listener.ready?_raiseAll_eq_none_iff.mp hnone)
  · rw [if_neg, first.min?_timed (Nat.ne_of_gt hpos)]
    rw [Listener.ready?_raiseAll_eq_none_iff.mpr (first.before 0 hpos)]
    exact Bool.false_ne_true

/-- The life of a worker that has registered follows the timetable of the first signal, and what has been raised by
then decides which signal it ends with. -/
theorem perform_run_of_first (env : Surroundings σ) {refusal : ShutdownSignal → Option IoError}
    (hrefusal : ∀ kind, refusal kind = none) (w : Worker) (positive : 0 < w.settings.tick) (o : Outlet σ)
    {idled : Nat} (first : env.raises.First idled) :
    ∃ signal, (Listener.raiseAll {} (env.raises.upTo idled)).ready? env.interruptFirst = some signal ∧
      let life := Outlet.follow env.sink 0 o (w.timetable idled)
      let run := ({ outlet := o } : Session σ).perform (w.run env refusal)
      run.1 = answer signal life.result ∧ run.2.clock = life.clock ∧ run.2.outlet = life.outlet := by
  have hfound : (Listener.raiseAll {} (env.raises.upTo idled)).ready? env.interruptFirst ≠ none :=
    fun hnone => first.raised (Listener.ready?_raiseAll_eq_none_iff.mp hnone)
  obtain ⟨signal, hsignal⟩ := Option.ne_none_iff_exists'.mp hfound
  refine ⟨signal, hsignal, ?_⟩
  rw [perform_run_of_registered env hrefusal]
  refine perform_runUntil_of_idle env w .raised (registered env o) rfl idled fun o' => ?_
  have hlistener := listener_emitted env o o'
  refine ⟨_, perform_idle_raised _ env positive (requestDelay?_raised env rfl hlistener first) ?_, ?_, rfl⟩
  · rw [listener_later env rfl hlistener]
    exact hsignal
  · exact Nat.zero_add idled

/-- With a sink that never fails the timetable is kept to its end. -/
theorem run_of_first (env : Surroundings σ) {refusal : ShutdownSignal → Option IoError}
    (hrefusal : ∀ kind, refusal kind = none) (w : Worker) (positive : 0 < w.settings.tick)
    (unfailing : env.sink.Unfailing) (start : σ) {idled : Nat} (first : env.raises.First idled) :
    ∃ signal, (Listener.raiseAll {} (env.raises.upTo idled)).ready? env.interruptFirst = some signal ∧
      let run := ({ outlet := { state := start } } : Session σ).perform (w.run env refusal)
      run.1 = .ok signal ∧ run.2.clock = idled + waitTime w.settings.cleanupDelay ∧
        run.2.outlet.flushed = (w.timetable idled).map Outlet.entry ∧ run.2.outlet.pending = [] := by
  obtain ⟨signal, hsignal, hresult, hclock, houtlet⟩ :=
    perform_run_of_first env hrefusal w positive { state := start } first
  obtain ⟨hend, hout⟩ := Outlet.follow_letOut unfailing 0 { state := start } rfl (w.timetable idled)
  refine ⟨signal, hsignal, ?_, hclock.trans hend, ?_, ?_⟩
  · rw [hresult, Outlet.follow_of_unfailing unfailing]
    rfl
  · rw [houtlet, hout.flushed]
    rfl
  · rw [houtlet, hout.pending]

/-- Signals may be raised at a worker at any moment and in any number. When the system refuses one of the two kinds,
the worker names that kind and does not make a single call on its sink. When it has registered for both and at least
one signal is raised up to some time of idling, it idles until the first one is there and not longer, lets its four
lines out, each once and in their order, and the cleanup takes its full time, thirty years at most; it ends with one
of the signals that had been raised when it ceased to idle. Whatever is raised from then on, and whatever that does to
the writes on the way, the result, the lines and their times are the same. -/
theorem run_absorbs_signals (env : Surroundings σ) (w : Worker) (start : σ)
    (refusal : ShutdownSignal → Option IoError) :
    let launch : Session σ := { outlet := { state := start } }
    let run := launch.perform (w.run env refusal)
    (∀ source, refusal .interrupt = some source →
      run = (.error (.failed (.registration .interrupt source)), launch)) ∧
    (∀ source, refusal .interrupt = none → refusal .terminate = some source →
      run = (.error (.failed (.registration .terminate source)), launch)) ∧
    ((∀ kind, refusal kind = none) → 0 < w.settings.tick → env.sink.Unfailing →
      ∀ time, env.raises.upTo time ≠ [] →
        ∃ idled ≤ time, env.raises.First idled ∧ ∃ signal ∈ env.raises.upTo idled, run.1 = .ok signal ∧
          run.2.clock = idled + waitTime w.settings.cleanupDelay ∧
          run.2.outlet.flushed =
            [⟨0, (Marker.processStarted w.pid).line⟩, ⟨idled, Marker.shutdownStart.line⟩,
              ⟨idled, (Marker.shutdownPid w.pid).line⟩,
              ⟨idled + waitTime w.settings.cleanupDelay, Marker.shutdownComplete.line⟩] ∧
          run.2.outlet.pending = [] ∧
          ∀ (env' : Surroundings σ) (start' : σ), env'.sink.Unfailing → env'.interruptFirst = env.interruptFirst →
            env.raises.SameUpTo env'.raises idled →
              let run' := ({ outlet := { state := start' } } : Session σ).perform (w.run env' refusal)
              run'.1 = run.1 ∧ run'.2.clock = run.2.clock ∧ run'.2.outlet.flushed = run.2.outlet.flushed ∧
                run'.2.outlet.pending = run.2.outlet.pending) := by
  intro launch run
  refine ⟨fun source hi => ?_, fun source hi ht => ?_, fun hrefusal positive unfailing time asked => ?_⟩
  · exact perform_run_of_refused env (by simp only [Listener.register, hi]) w launch
  · exact perform_run_of_refused env (by simp only [Listener.register, hi, ht]) w launch
  obtain ⟨idled, hle, first⟩ := Raises.exists_first asked
  obtain ⟨signal, hsignal, hresult, hclock, hflushed, hpending⟩ :=
    run_of_first env hrefusal w positive unfailing start first
  refine ⟨idled, hle, first, signal, Listener.mem_of_ready?_raiseAll hsignal, hresult, hclock, hflushed, hpending, ?_⟩
  intro env' start' unfailing' hchoice hsame
  obtain ⟨signal', hsignal', hresult', hclock', hflushed', hpending'⟩ :=
    run_of_first env' hrefusal w positive unfailing' start' (first.of_sameUpTo hsame)
  -- a listener to which the same kinds were delivered makes the same choice
  have hlistener : Listener.raiseAll {} (env'.raises.upTo idled) = Listener.raiseAll {} (env.raises.upTo idled) :=
    Listener.raiseAll_congr (hsame idled (Nat.le_refl idled)) {}
  rw [hchoice, hlistener, hsignal] at hsignal'
  obtain rfl : signal = signal' := Option.some.inj hsignal'
  exact ⟨hresult'.trans hresult.symm, hclock'.trans hclock.symm, hflushed'.trans hflushed.symm,
    hpending'.trans hpending.symm⟩

/-- A worker that is refused one kind of signal, and one that is sent a signal while it idles and two more while it
ends, over a sink that takes three bytes at a time and interrupts every other write. When it is sent nothing more, and
its sink takes whole lines, it does the same. -/
theorem run_absorbs_signals_late :
    let env : Surroundings SinkScript.State :=
      { sink := SinkScript.sink { chunk := some 3, interrupts := true }
        raises := { afterFlush := fun n => if n = 3 then [.interrupt] else [],
                    timed := [(800, .interrupt), (700, .terminate)] } }
    let env' : Surroundings SinkScript.State := { calm with raises := { timed := [(700, .terminate)] } }
    let w : Worker := ⟨{ cleanupDelay := 200 }, 7⟩
    let launch : Session SinkScript.State := { outlet := { state := {} } }
    let refusal : ShutdownSignal → Option IoError := fun kind =>
      if kind = .terminate then some (.ofErrno .invalidArgument) else none
    let run := launch.perform (w.run env fun _ => none)
    let run' := launch.perform (w.run env' fun _ => none)
    (refusal .interrupt = none ∧ refusal .terminate = some (.ofErrno .invalidArgument) ∧
      launch.perform (w.run env refusal) =
        (.error (.failed (.registration .terminate (.ofErrno .invalidArgument))), launch)) ∧
    (0 < w.settings.tick ∧ env.sink.Unfailing ∧ env.raises.upTo 700 ≠ [] ∧ run.1 = .ok .terminate ∧
      run.2.clock = 900 ∧ run.2.outlet.flushed.map (·.time) = [0, 700, 700, 900]) ∧
    env'.sink.Unfailing ∧ env.raises.SameUpTo env'.raises 700 ∧ run'.1 = run.1 ∧ run'.2.clock = run.2.clock ∧
      run'.2.outlet.flushed = run.2.outlet.flushed := by
  intro env env' w launch refusal run run'
  have hrefused : refusal .interrupt = none ∧ refusal .terminate = some (.ofErrno .invalidArgument) := ⟨rfl, rfl⟩
  have positive : 0 < w.settings.tick := by decide
  have unfailing : env.sink.Unfailing := SinkScript.unfailing rfl (by decide) rfl
  have unfailing' : env'.sink.Unfailing := SinkScript.willing.unfailing
  have asked : env.raises.upTo 700 ≠ [] := by decide
  have same : env.raises.SameUpTo env'.raises 700 := by
    intro t ht kind
    rw [Raises.mem_upTo, Raises.mem_upTo]
    constructor
    · rintro (⟨u, hu, hmem⟩ | hflush)
      · exact Or.inl ⟨u, hu, List.mem_cons_of_mem _ hmem⟩
      · cases hflush
    · rintro (⟨u, hu, hmem⟩ | hflush)
      · rcases List.mem_cons.mp hmem with heq | hmem
        · obtain ⟨rfl, -⟩ := Prod.mk.inj heq
          omega
        · exact Or.inl ⟨u, hu, hmem⟩
      · cases hflush
  obtain ⟨-, hterminate, -⟩ := run_absorbs_signals env w {} refusal
  obtain ⟨-, -, hrun⟩ := run_absorbs_signals env w {} fun _ => none
  obtain ⟨idled, hle, first, signal, hmem, hresult, hclock, hflushed, -, habsorbed⟩ :=
    hrun (fun _ => rfl) positive unfailing 700 asked
  -- nothing is raised before, and the other signal comes later
  obtain rfl : idled = 700 := by
    obtain ⟨kind, hkind⟩ := List.exists_mem_of_ne_nil _ first.raised
    have hkind := Raises.mem_upTo.mp hkind
    simp only [env, List.mem_cons, List.not_mem_nil, or_false, Prod.mk.injEq, Nat.reduceEqDiff, ↓reduceIte] at hkind
    obtain ⟨t, ht, h⟩ := hkind
    omega
  obtain rfl : signal = .terminate := by
    have hall : ∀ kind ∈ env.raises.upTo 700, kind = .terminate := by decide
    exact hall signal hmem
  obtain ⟨hresult', hclock', hflushed', -⟩ := habsorbed env' {} unfailing' rfl same
  refine ⟨⟨hrefused.1, hrefused.2, hterminate _ hrefused.1 hrefused.2⟩,
    ⟨positive, unfailing, asked, hresult, ?_, ?_⟩, unfailing', same, hresult', hclock', hflushed'⟩
  · exact hclock.trans (by decide)
  · rw [hflushed]
    decide

/-- A cleanup of more than thirty years is cut short, also where nothing fails and nothing more is raised. -/
theorem run_cleanup_lt (env : Surroundings σ) {refusal : ShutdownSignal → Option IoError}
    (hrefusal : ∀ kind, refusal kind = none) (w : Worker) (positive : 0 < w.settings.tick)
    (unfailing : env.sink.Unfailing) (start : σ) {idled : Nat} (first : env.raises.First idled)
    (long : Instant.farAhead.millis < w.settings.cleanupDelay) :
    let run := ({ outlet := { state := start } } : Session σ).perform (w.run env refusal)
    ∃ lines completed, run.2.outlet.flushed =
        lines ++ [⟨idled, (Marker.shutdownPid w.pid).line⟩, ⟨completed, Marker.shutdownComplete.line⟩] ∧
      completed - idled < w.settings.cleanupDelay := by
  intro run
  obtain ⟨-, -, -, -, hflushed, -⟩ := run_of_first env hrefusal w positive unfailing start first
  refine ⟨[⟨0, (Marker.processStarted w.pid).line⟩, ⟨idled, Marker.shutdownStart.line⟩],
    idled + waitTime w.settings.cleanupDelay, hflushed, ?_⟩
  rw [Nat.add_sub_cancel_left]
  exact waitTime_lt long

/-- This one is cut short by a millisecond. -/
theorem run_cleanup_cut_short :
    let env : Surroundings SinkScript.State :=
      { calm with raises := { afterFlush := fun n => if n = 1 then [.interrupt] else [] } }
    let w : Worker := ⟨{ cleanupDelay := 946080000001 }, 7⟩
    let run := ({ outlet := { state := {} } } : Session SinkScript.State).perform (w.run env fun _ => none)
    0 < w.settings.tick ∧ env.sink.Unfailing ∧ env.raises.upTo 0 = [.interrupt] ∧ run.1 = .ok .interrupt ∧
      ∃ lines announced completed, run.2.outlet.flushed =
          lines ++ [⟨announced, (Marker.shutdownPid w.pid).line⟩, ⟨completed, Marker.shutdownComplete.line⟩] ∧
        completed - announced < w.settings.cleanupDelay := by
  intro env w run
  have positive : 0 < w.settings.tick := by decide
  have unfailing : env.sink.Unfailing := SinkScript.willing.unfailing
  have first : env.raises.First 0 := ⟨by decide, fun t ht => absurd ht (Nat.not_lt_zero t)⟩
  obtain ⟨signal, hsignal, hresult, -⟩ := run_of_first env (fun _ => rfl) w positive unfailing {} first
  obtain rfl : signal = .interrupt := List.mem_singleton.mp (Listener.mem_of_ready?_raiseAll hsignal)
  obtain ⟨lines, completed, hflushed, hcut⟩ :=
    run_cleanup_lt env (fun _ => rfl) w positive unfailing {} first (by decide)
  exact ⟨positive, unfailing, by decide, hresult, lines, 0, completed, hflushed, hcut⟩

/-! ### Either signal -/

/-- Nothing but the answer tells which signal ended a worker. Of two runs with one process id, one cleanup, one delay
until the request, and one sink, whatever the signals are, the periods of idling, the levels of their reports and the
choices between things of one instant, the outlets are the same, with all calls, lines and times, and so are the
clocks. Both runs succeed, each with its own signal, or both fail with one and the same error. -/
theorem runUntil_indifferent (env₁ env₂ : Surroundings σ) (sink : env₁.sink = env₂.sink) (w₁ w₂ : Worker)
    (pid : w₁.pid = w₂.pid) (cleanup : w₁.settings.cleanupDelay = w₂.settings.cleanupDelay)
    (positive₁ : 0 < w₁.settings.tick) (positive₂ : 0 < w₂.settings.tick) (after : Nat)
    (signal₁ signal₂ : ShutdownSignal) (start : σ) :
    let run₁ := ({ outlet := { state := start } } : Session σ).perform (w₁.runUntil env₁ (.after after signal₁))
    let run₂ := ({ outlet := { state := start } } : Session σ).perform (w₂.runUntil env₂ (.after after signal₂))
    run₁.2.outlet = run₂.2.outlet ∧ run₁.2.clock = run₂.2.clock ∧
      ((run₁.1 = .ok signal₁ ∧ run₂.1 = .ok signal₂) ∨
        ∃ e, run₁.1 = .error (.failed (.output e)) ∧ run₂.1 = .error (.failed (.output e))) := by
  intro run₁ run₂
  obtain ⟨hresult₁, hclock₁, houtlet₁⟩ := perform_runUntil env₁ w₁ positive₁ after signal₁ { state := start }
  obtain ⟨hresult₂, hclock₂, houtlet₂⟩ := perform_runUntil env₂ w₂ positive₂ after signal₂ { state := start }
  have hplan : w₁.plan after = w₂.plan after := by rw [plan, plan, pid, cleanup]
  rw [sink, hplan] at hresult₁ hclock₁ houtlet₁
  refine ⟨houtlet₁.trans houtlet₂.symm, hclock₁.trans hclock₂.symm, ?_⟩
  cases hlife : (Outlet.follow env₂.sink 0 { state := start } (w₂.plan after)).result with
  | ok =>
    rw [hlife] at hresult₁ hresult₂
    exact Or.inl ⟨hresult₁, hresult₂⟩
  | error e =>
    rw [hlife] at hresult₁ hresult₂
    exact Or.inr ⟨e, hresult₁, hresult₂⟩

/-- Two workers that differ in all that may differ, over a sink whose third flush fails. -/
theorem runUntil_indifferent_flush_fails :
    let sink := SinkScript.sink { chunk := some 5, interrupts := true, flushFailsAt := some 3 }
    let env₁ : Surroundings SinkScript.State := { sink }
    let env₂ : Surroundings SinkScript.State := { sink, tickFirst := fun n => n % 2 = 0, interruptFirst := false }
    let w₁ : Worker := ⟨{ tick := 100, logLevel := "trace" }, 7⟩
    let w₂ : Worker := ⟨{ tick := 7, logLevel := "off" }, 7⟩
    let run₁ := ({ outlet := { state := {} } } : Session SinkScript.State).perform
      (w₁.runUntil env₁ (.after 700 .interrupt))
    let run₂ := ({ outlet := { state := {} } } : Session SinkScript.State).perform
      (w₂.runUntil env₂ (.after 700 .terminate))
    0 < w₁.settings.tick ∧ 0 < w₂.settings.tick ∧ run₁.2.outlet = run₂.2.outlet ∧ run₁.2.clock = run₂.2.clock ∧
      ((run₁.1 = .ok .interrupt ∧ run₂.1 = .ok .terminate) ∨
        ∃ e, run₁.1 = .error (.failed (.output e)) ∧ run₂.1 = .error (.failed (.output e))) := by
  intro sink env₁ env₂ w₁ w₂ run₁ run₂
  have positive₁ : 0 < w₁.settings.tick := by decide
  have positive₂ : 0 < w₂.settings.tick := by decide
  exact ⟨positive₁, positive₂,
    runUntil_indifferent env₁ env₂ rfl w₁ w₂ rfl rfl positive₁ positive₂ 700 .interrupt .terminate {}⟩

end Worker
end OrderlyExit
