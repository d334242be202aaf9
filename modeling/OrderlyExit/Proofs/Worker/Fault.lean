import OrderlyExit.Proofs.Settings.Document
import OrderlyExit.Proofs.Settings.Valid
import OrderlyExit.Proofs.Worker.Signals
import OrderlyExit.Worker.Program

/-! Faults of the idle loop. A worker without a period faults as soon as it has announced itself, and at no other time
    does one fault or wait on after the request to end is there. Settings from a file always have a period, so no file
    makes the program fault; one that gives no settings keeps it from writing anything. -/

namespace OrderlyExit
open Session

/-! ### Idling -/

/-- A reception finds a signal when one is pending. -/
theorem Listener.exists_ready?_of_isPending {l : Listener} {kind : ShutdownSignal} (h : l.isPending kind = true)
    (interruptFirst : Bool) : ∃ signal, l.ready? interruptFirst = some signal := by
  refine Option.ne_none_iff_exists'.mp fun hnone => ?_
  obtain ⟨hi, ht⟩ := ready?_eq_none_iff.mp hnone
  cases kind
  · exact nomatch hi.symm.trans h
  · exact nomatch ht.symm.trans h

namespace Session

variable {σ : Type} (s : Session σ) (env : Surroundings σ)

/-- A session that has idled until the request is there has a signal to receive. -/
theorem exists_ready?_later {s : Session σ} {env : Surroundings σ} {delay : Nat}
    (h : s.requestDelay? env .raised = some delay) :
    ∃ signal, (s.later env delay).listener.ready? env.interruptFirst = some signal := by
  have hlater (kind : ShutdownSignal) : (s.later env delay).listener.isPending kind =
      (s.listener.isPending kind || decide (kind ∈ raisedBetween env.raises.timed s.clock (s.clock + delay))) :=
    Listener.isPending_raiseAll s.listener _ kind
  simp only [requestDelay?] at h
  split at h
  -- a signal that is pending already stays so; else the wait lasts to the moment at which the next one is raised
  · rename_i hready
    obtain ⟨kind, hkind⟩ := Option.isSome_iff_exists.mp hready
    refine @Listener.exists_ready?_of_isPending _ kind ?_ _
    rw [hlater, Listener.isPending_of_ready? hkind, Bool.true_or]
  · have hmem := (List.min?_eq_some_iff.mp h).1
    obtain ⟨⟨time, kind⟩, htimed, rfl⟩ := List.mem_map.mp hmem
    obtain ⟨htimed, hclock⟩ := List.mem_filter.mp htimed
    have hclock : s.clock < time := of_decide_eq_true hclock
    refine @Listener.exists_ready?_of_isPending _ kind ?_ _
    rw [hlater, Bool.or_eq_true]
    exact Or.inr (decide_eq_true (mem_raisedBetween.mpr ⟨time, hclock, by omega, htimed⟩))

theorem perform_idle_zero (request : Request) : s.perform (idle env 0 request) = (.error .zeroPeriod, s) := rfl

theorem perform_idle_of_unasked {tick : Nat} (positive : 0 < tick) {request : Request}
    (h : s.requestDelay? env request = none) : s.perform (idle env tick request) = (.error .neverAsked, s) := by
  have hget : s.perform (get : Act σ IdleFault (Session σ)) = (.ok s, s) := rfl
  simp only [idle, positive, ↓reduceDIte, perform_bind, hget, h]
  rfl

/-- Idling with a period lasts exactly until the request is there. -/
theorem perform_idle_of_asked {tick : Nat} (positive : 0 < tick) {request : Request} {delay : Nat}
    (h : s.requestDelay? env request = some delay) :
    ∃ signal t, s.perform (idle env tick request) = (.ok signal, t) ∧ t.clock = s.clock + delay ∧
      t.outlet = s.outlet := by
  cases request with
  | after after signal =>
    obtain rfl : waitTime after = delay := Option.some.inj h
    exact ⟨signal, _, perform_idle_after s env positive after signal, rfl, rfl⟩
  | raised =>
    obtain ⟨signal, hready⟩ := exists_ready?_later h
    exact ⟨signal, _, perform_idle_raised s env positive h hready, rfl, rfl⟩

end Session

namespace Worker

variable {σ : Type}

/-! ### Lives -/

/-- An announcement that succeeds lets its line out, and nothing else has happened then. -/
theorem letOut_of_announce (env : Surroundings σ) (pid : UInt32) {s t : Session σ}
    (h : s.perform (announce env pid) = (.ok (), t)) :
    ∃ o, t = s.emitted env o ∧
      Outlet.LetOut s.outlet o [⟨s.clock, s.outlet.pending ++ (Marker.processStarted pid).line⟩] := by
  rw [announce, perform_emit] at h
  have hcases := Outlet.emit_cases env.sink s.clock s.outlet (.processStarted pid)
  rcases he : s.outlet.emit env.sink s.clock (.processStarted pid) with ⟨r, o⟩
  rw [he] at h hcases
  rcases hcases with ⟨hok, hout⟩ | ⟨e, last, taken, herr, -⟩
  · obtain rfl : r = .ok () := hok
    exact ⟨o, (Prod.mk.inj h).2.symm, hout⟩
  · obtain rfl : r = .error e := herr
    cases (Prod.mk.inj h).1

theorem announce_clock (env : Surroundings σ) (pid : UInt32) (s : Session σ) :
    (s.perform (announce env pid)).2.clock = s.clock := by
  rw [announce, perform_emit]
  rcases s.outlet.emit env.sink s.clock (.processStarted pid) with ⟨r, o⟩
  cases r <;> rfl

theorem announce_of_unfailing {env : Surroundings σ} (unfailing : env.sink.Unfailing) (pid : UInt32) (s : Session σ) :
    (s.perform (announce env pid)).1 = .ok () := by
  have hemit := Outlet.emit_of_unfailing unfailing s.clock s.outlet (.processStarted pid)
  rw [announce, perform_emit]
  rcases he : s.outlet.emit env.sink s.clock (.processStarted pid) with ⟨r, o⟩
  rw [he] at hemit
  obtain rfl : r = .ok () := hemit
  rfl

/-- All that a life can come to: a failure to announce, a fault of the idle loop, or an orderly exit that begins when
the request is there. -/
inductive Life (env : Surroundings σ) (w : Worker) (request : Request) (s : Session σ) :
    Except Stop ShutdownSignal × Session σ → Prop
  | unannounced {e : IoError} {t : Session σ} (h : s.perform (announce env w.pid) = (.error e, t)) :
    Life env w request s (.error (.failed (.output e)), t)
  | zeroPeriod {t : Session σ} (h : s.perform (announce env w.pid) = (.ok (), t)) (tick : w.settings.tick = 0) :
    Life env w request s (.error (.idle .zeroPeriod), t)
  | neverAsked {t : Session σ} (h : s.perform (announce env w.pid) = (.ok (), t)) (positive : 0 < w.settings.tick)
    (unasked : t.requestDelay? env request = none) : Life env w request s (.error (.idle .neverAsked), t)
  | asked {t u : Session σ} {delay : Nat} {signal : ShutdownSignal} (h : s.perform (announce env w.pid) = (.ok (), t))
    (positive : 0 < w.settings.tick) (asked : t.requestDelay? env request = some delay)
    (clock : u.clock = t.clock + delay) (outlet : u.outlet = t.outlet) :
    Life env w request s (answer signal (u.perform (shutdown env w.pid w.settings.cleanupDelay)).1,
      (u.perform (shutdown env w.pid w.settings.cleanupDelay)).2)

theorem life_runUntil (env : Surroundings σ) (w : Worker) (request : Request) (s : Session σ) :
    Life env w request s (s.perform (w.runUntil env request)) := by
  simp only [runUntil, perform_bind, perform_writing, perform_adapt]
  rcases h : s.perform (announce env w.pid) with ⟨r, t⟩
  cases r with
  | error e => exact .unannounced h
  | ok =>
    simp only [mapError_ok]
    rcases Nat.eq_zero_or_pos w.settings.tick with htick | positive
    · rw [htick, perform_idle_zero]
      exact .zeroPeriod h htick
    · cases hdelay : t.requestDelay? env request with
      | none =>
        rw [perform_idle_of_unasked t env positive hdelay]
        exact .neverAsked h positive hdelay
      | some delay =>
        obtain ⟨signal, u, hidle, hclock, houtlet⟩ := perform_idle_of_asked t env positive hdelay
        have hlife := @Life.asked σ env w request s t u delay signal h positive hdelay hclock houtlet
        simp only [hidle, mapError_ok]
        rcases hshutdown : u.perform (shutdown env w.pid w.settings.cleanupDelay) with ⟨r, v⟩
        rw [hshutdown] at hlife
        cases r <;> exact hlife

/-- The orderly exit takes no longer than the cleanup. -/
theorem shutdown_clock_le (env : Surroundings σ) (pid : UInt32) (cleanupDelay : Nat) (s : Session σ) :
    (s.perform (shutdown env pid cleanupDelay)).2.clock ≤ s.clock + cleanupDelay := by
  obtain ⟨-, hclock, -⟩ := perform_shutdown env pid cleanupDelay s.clock s
  have hwait : waitTime cleanupDelay ≤ cleanupDelay := Nat.min_le_left _ _
  rw [hclock]
  refine Outlet.follow_clock_le (Nat.le_add_right _ _) fun x hx => ?_
  simp only [List.mem_cons, List.not_mem_nil, or_false] at hx
  rcases hx with rfl | rfl | rfl
  · exact Nat.le_add_right _ _
  · exact Nat.le_add_right _ _
  · exact Nat.add_le_add_left hwait _

/-! ### Settings and faults -/

theorem answer_ne_idle (signal : ShutdownSignal) (result : Except IoError Unit) (fault : IdleFault) :
    answer signal result ≠ .error (.idle fault) := by
  cases result <;> exact fun h => nomatch h

namespace Life

variable {env : Surroundings σ} {w : Worker} {request : Request} {s : Session σ}
  {run : Except Stop ShutdownSignal × Session σ}

/-- A worker faults for want of a period exactly if it has none and could announce itself. -/
theorem zeroPeriod_iff (h : Life env w request s run) :
    run.1 = .error (.idle .zeroPeriod) ↔ w.settings.tick = 0 ∧ (s.perform (announce env w.pid)).1 = .ok () := by
  cases h with
  | unannounced h =>
    rw [h]
    exact iff_of_false (fun hrun => nomatch hrun) fun hok => nomatch hok.2
  | zeroPeriod h tick => exact iff_of_true rfl ⟨tick, by rw [h]⟩
  | neverAsked h positive => exact iff_of_false (fun hrun => nomatch hrun) fun hok => Nat.ne_of_gt positive hok.1
  | asked h positive => exact iff_of_false (answer_ne_idle _ _ _) fun hok => Nat.ne_of_gt positive hok.1

/-- A worker that faults for want of a period has only announced itself. -/
theorem announce_of_zeroPeriod (h : Life env w request s run) (hfault : run.1 = .error (.idle .zeroPeriod)) :
    s.perform (announce env w.pid) = (.ok (), run.2) := by
  cases h with
  | unannounced h => exact nomatch hfault
  | zeroPeriod h tick => exact h
  | neverAsked h => exact nomatch hfault
  | asked h => exact absurd hfault (answer_ne_idle _ _ _)

/-- A worker with a period that is asked to end does not fault, and its exit takes no longer than its cleanup. -/
theorem of_asked (h : Life env w request s run) (positive : 0 < w.settings.tick) {delay : Nat}
    (hdelay : (s.perform (announce env w.pid)).2.requestDelay? env request = some delay) :
    (∀ fault, run.1 ≠ .error (.idle fault)) ∧ run.2.clock ≤ s.clock + delay + w.settings.cleanupDelay := by
  have hclock := announce_clock env w.pid s
  cases h with
  | @unannounced e t h =>
    rw [h] at hclock
    have hend : t.clock = s.clock := hclock
    refine ⟨fun fault hrun => (nomatch hrun), ?_⟩
    rw [hend, Nat.add_assoc]
    exact Nat.le_add_right _ _
  | zeroPeriod _ tick => exact absurd tick (Nat.ne_of_gt positive)
  | neverAsked h _ unasked =>
    rw [h] at hdelay
    exact nomatch unasked.symm.trans hdelay
  | @asked t u delay' signal h _ hasked hlater houtlet =>
    rw [h] at hdelay hclock
    obtain rfl : delay' = delay := Option.some.inj (hasked.symm.trans hdelay)
    have hstart : t.clock = s.clock := hclock
    have hend := shutdown_clock_le env w.pid w.settings.cleanupDelay u
    rw [hlater, hstart] at hend
    exact ⟨answer_ne_idle _ _, hend⟩

end Life

/-! ### The program -/

theorem perform_program_of_load {env : Surroundings σ} {content : Except IoError (List UInt8)} {pid : UInt32}
    {request : Request} {s : Session σ} {c : Settings} (h : Settings.load content = .ok c) :
    s.perform (program env (some content) pid request) =
      ((s.perform (runUntil env ⟨c, pid⟩ request)).1.mapError .stopped,
        (s.perform (runUntil env ⟨c, pid⟩ request)).2) := by
  simp only [program, settingsFrom, h, perform_adapt]

theorem perform_program_of_refused {env : Surroundings σ} {content : Except IoError (List UInt8)} {pid : UInt32}
    {request : Request} {s : Session σ} {e : ConfigError} (h : Settings.load content = .error e) :
    s.perform (program env (some content) pid request) = (.error (.configuration e), s) := by
  simp only [program, settingsFrom, h]
  rfl

/-- For want of a period a worker faults when it has announced itself: its first line is out, no time has passed, and
every signal that was delivered is still pending. Settings that a file gives are valid, so with them a worker never
faults so, and as soon as the request is there it ends within its cleanup, of ten seconds at most. Where a file gives
no settings, the program leaves everything as it is. -/
theorem loaded_never_faults (env : Surroundings σ) (pid : UInt32) (request : Request) (listener : Listener)
    (start : σ) :
    let s : Session σ := { outlet := { state := start }, listener }
    let announced := s.perform (announce env pid)
    (∀ settings : Settings,
      let run := s.perform (runUntil env ⟨settings, pid⟩ request)
      (run.1 = .error (.idle .zeroPeriod) ↔ settings.tick = 0 ∧ announced.1 = .ok ()) ∧
        (run.1 = .error (.idle .zeroPeriod) →
          run.2.outlet.flushed = [⟨0, (Marker.processStarted pid).line⟩] ∧ run.2.outlet.pending = [] ∧
            run.2.clock = 0 ∧ run.2.listener = listener.raiseAll (env.raises.afterFlush 1))) ∧
    ∀ content,
      (∀ c, Settings.load content = .ok c →
        let run := s.perform (runUntil env ⟨c, pid⟩ request)
        c.validate = .ok c ∧ 1 ≤ c.cleanupDelay ∧ c.cleanupDelay ≤ 10000 ∧
          run.1 ≠ .error (.idle .zeroPeriod) ∧
          (∀ delay, announced.2.requestDelay? env request = some delay →
            (∀ fault, run.1 ≠ .error (.idle fault)) ∧ run.2.clock ≤ delay + c.cleanupDelay) ∧
          s.perform (program env (some content) pid request) = (run.1.mapError .stopped, run.2)) ∧
      ∀ e, Settings.load content = .error e →
        s.perform (program env (some content) pid request) = (.error (.configuration e), s) := by
  intro s announced
  refine ⟨fun settings => ⟨(life_runUntil env ⟨settings, pid⟩ request s).zeroPeriod_iff, fun hfault => ?_⟩,
    fun content => ⟨fun c hload => ?_, fun e => perform_program_of_refused⟩⟩
  · have hannounce := (life_runUntil env ⟨settings, pid⟩ request s).announce_of_zeroPeriod hfault
    obtain ⟨o, ht, hout⟩ := letOut_of_announce env pid hannounce
    rw [ht]
    exact ⟨hout.flushed, hout.pending, rfl, rfl⟩
  · have hvalid := Settings.valid_of_load hload
    refine ⟨Settings.validate_eq_ok_iff.mpr ⟨rfl, hvalid⟩, hvalid.cleanupDelay.1, hvalid.cleanupDelay.2,
      fun hfault => ?_, fun delay hdelay => ?_, perform_program_of_load hload⟩
    · obtain ⟨htick, -⟩ := (life_runUntil env ⟨c, pid⟩ request s).zeroPeriod_iff.mp hfault
      exact absurd htick (Nat.ne_of_gt hvalid.tick.1)
    · have hasked := (life_runUntil env ⟨c, pid⟩ request s).of_asked hvalid.tick.1 hdelay
      rwa [Nat.zero_add] at hasked

/-- A worker without a period, to which both signals were delivered, faults all the same; with the settings of an empty
file it ends within the cleanup; a file of a wrong type gives no settings. -/
theorem loaded_never_faults_instances :
    let listener : Listener := ⟨true, true⟩
    let s : Session SinkScript.State := { outlet := { state := {} }, listener }
    let idle := s.perform (runUntil calm ⟨{ tick := 0 }, 7⟩ .raised)
    let run := s.perform (runUntil calm ⟨{}, 7⟩ .raised)
    idle.1 = .error (.idle .zeroPeriod) ∧ idle.2.listener = listener ∧
      idle.2.outlet.flushed = [⟨0, (Marker.processStarted 7).line⟩] ∧
      Settings.load (.ok []) = .ok {} ∧ (∀ fault, run.1 ≠ .error (.idle fault)) ∧ run.2.clock ≤ 200 ∧
      Settings.load (.ok (Utf8.ofString "idle=1")) = .error .parse ∧
      s.perform (program calm (some (.ok (Utf8.ofString "idle=1"))) 7 .raised) =
        (.error (.configuration .parse), s) := by
  intro listener s idle run
  obtain ⟨hfaults, hfile⟩ := loaded_never_faults calm 7 .raised listener {}
  have hannounced : (s.perform (announce calm 7)).1 = .ok () :=
    announce_of_unfailing SinkScript.willing.unfailing 7 s
  obtain ⟨hiff, honly⟩ := hfaults { tick := 0 }
  have hfault := hiff.mpr ⟨rfl, hannounced⟩
  obtain ⟨hflushed, -, -, hlistener⟩ := honly hfault
  have hempty : Settings.ofText? [] = some {} := by decide +kernel
  have hload : Settings.load (.ok []) = .ok {} :=
    (Settings.load_of_ofText?_some (Utf8.decode?_encode []) hempty).trans rfl
  have hrefused : Settings.load (.ok (Utf8.ofString "idle=1")) = .error .parse :=
    Settings.load_of_ofText?_none (Utf8.decode?_encode _) (by decide +kernel)
  obtain ⟨-, -, -, -, hasked, -⟩ := (hfile (.ok [])).1 {} hload
  have hdelay : (s.perform (announce calm 7)).2.requestDelay? calm .raised = some 0 := by
    rcases he : s.perform (announce calm 7) with ⟨r, t⟩
    rw [he] at hannounced
    obtain rfl : r = .ok () := hannounced
    obtain ⟨o, rfl, -⟩ := letOut_of_announce calm 7 he
    rfl
  obtain ⟨hnever, hclock⟩ := hasked 0 hdelay
  exact ⟨hfault, hlistener, hflushed, hload, hnever, hclock, hrefused, (hfile _).2 _ hrefused⟩

end Worker
end OrderlyExit
