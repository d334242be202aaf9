import OrderlyExit.Proofs.Observer.Delivery

/-! Timeouts that lead beyond the clock. A call that sets an alarm takes every timeout: one that is too long for an
    alarm counts as the longest. A call that goes by a deadline has to add its timeout to the clock first, and where the
    clock cannot show the sum it faults and has done nothing. -/

namespace OrderlyExit.Observation

universe u
variable {σ : Type u}

/-! ### Deadlines -/

theorem after?_eq_none_iff {i : Instant} {d : Duration} :
    i.after? d = none ↔ Instant.last.nanos < i.nanos + d.nanos := by
  unfold Instant.after?
  split
  · rename_i hle
    exact iff_of_false (nomatch ·) (Int.not_lt.mpr hle)
  · rename_i hgt
    exact iff_of_true rfl (Int.not_le.mp hgt)

theorem markerAnswer_ne_overflow (description : String) (timeout : Duration)
    (r : Except ObserverError (Option ObservedLine)) : markerAnswer description timeout r ≠ .error .clockOverflow := by
  rcases r with e | _ | l
  · cases e <;> exact (nomatch ·)
  · exact (nomatch ·)
  · exact (nomatch ·)

theorem drainAnswer_ne_overflow (r : Except ObserverError (Option ObservedLine)) :
    drainAnswer r ≠ .error .clockOverflow := by
  rcases r with e | answer
  · cases e <;> exact (nomatch ·)
  · exact (nomatch ·)

/-- Looking for the process id in a line that was found never faults by itself. -/
theorem startupPid_eq_overflow_iff {result : Except Fault ObservedLine} :
    startupPid result = .error .clockOverflow ↔ result = .error .clockOverflow := by
  cases result with
  | error e => simp only [startupPid, Except.error.injEq]
  | ok l =>
    have hfound : startupPid (.ok l) ≠ .error .clockOverflow := by
      unfold startupPid
      split
      · contradiction
      · split <;> simp
    exact iff_of_false hfound (by simp)

section
variable (env : System σ) (description : String) (timeout : Duration) (wanted : Marker → Bool) (o : Observation σ)

theorem expectMarker_overflow_iff :
    (o.expectMarker env description timeout wanted).1 = .error .clockOverflow ↔ o.clock.after? timeout = none := by
  cases hdeadline : o.clock.after? timeout with
  | none =>
    rw [expectMarker_of_overflow hdeadline]
    exact iff_of_true rfl rfl
  | some deadline =>
    rw [expectMarker_of_fits hdeadline]
    exact iff_of_false (markerAnswer_ne_overflow _ _ _) (nomatch ·)

theorem waitForStartup_overflow_iff :
    (o.waitForStartup env timeout).1 = .error .clockOverflow ↔ o.clock.after? timeout = none := by
  rw [waitForStartup_eq]
  exact startupPid_eq_overflow_iff.trans (expectMarker_overflow_iff env _ timeout _ o)

theorem drain_overflow_iff : (o.drain env timeout).1 = .error .clockOverflow ↔ o.clock.after? timeout = none := by
  cases hdeadline : o.clock.after? timeout with
  | none =>
    rw [drain_of_overflow hdeadline]
    exact iff_of_true rfl rfl
  | some deadline =>
    rw [drain_of_fits hdeadline]
    exact iff_of_false (drainAnswer_ne_overflow _) (nomatch ·)

end

/-! ### Alarms -/

/-- An alarm that is set for too long goes off as the longest one does. -/
theorem alarm_of_far {d : Duration} (h : Instant.farAhead.nanos ≤ d.nanos) (i : Instant) :
    i.alarm d = i.alarm Instant.farAhead := by
  have hlong : min d Instant.farAhead = Instant.farAhead := congrArg Duration.mk (Nat.min_eq_right h)
  have hfar : min Instant.farAhead Instant.farAhead = Instant.farAhead := congrArg Duration.mk (Nat.min_self _)
  rw [Instant.alarm, Instant.alarm, hlong, hfar]

theorem nextLine_snd_of_alarm {timeout timeout' : Duration} {o : Observation σ}
    (h : o.clock.alarm timeout = o.clock.alarm timeout') (env : System σ) :
    (o.nextLine env timeout).2 = (o.nextLine env timeout').2 := by
  unfold nextLine
  rw [h]
  cases o.sawEnd with
  | true => rfl
  | false =>
    generalize o.await env readable (o.clock.alarm timeout') = a
    simp only [Bool.false_eq_true, ↓reduceIte]
    cases a.unread with
    | cons l rest => rfl
    | nil =>
      cases a.readError with
      | some e => rfl
      | none => simp only; split <;> rfl

theorem wait_snd (env : System σ) (timeout : Duration) (o : Observation σ) :
    (o.wait env timeout).2 =
      if o.outcome.isSome then o else ((o.await env answerable (o.clock.alarm timeout)).tryWait env).2 := by
  unfold wait
  cases o.outcome with
  | some outcome => rfl
  | none =>
    simp only
    rcases (o.await env answerable (o.clock.alarm timeout)).tryWait env with ⟨_ | _ | outcome, o'⟩ <;> rfl

/-! ### Both side by side -/

/-- Waiting for a marker, for the startup and for the rest of the output fault exactly where the clock cannot show their
deadline, and then they have done nothing. Reading the next line and waiting for the end of the program never do: a
timeout that is too long for an alarm is to them the longest one. -/
theorem deadline_overflows_iff (env : System σ) (description : String) (timeout : Duration) (wanted : Marker → Bool)
    (o : Observation σ) :
    let beyond := Instant.last.nanos < o.clock.nanos + timeout.nanos
    ((o.expectMarker env description timeout wanted).1 = .error .clockOverflow ↔ beyond) ∧
    ((o.waitForStartup env timeout).1 = .error .clockOverflow ↔ beyond) ∧
    ((o.drain env timeout).1 = .error .clockOverflow ↔ beyond) ∧
    (beyond → (o.expectMarker env description timeout wanted).2 = o ∧ (o.waitForStartup env timeout).2 = o ∧
      (o.drain env timeout).2 = o) ∧
    (Instant.farAhead.nanos ≤ timeout.nanos →
      (o.nextLine env timeout).2 = (o.nextLine env Instant.farAhead).2 ∧
        (o.wait env timeout).2 = (o.wait env Instant.farAhead).2) := by
  intro beyond
  have hbeyond : o.clock.after? timeout = none ↔ beyond := after?_eq_none_iff
  refine ⟨(expectMarker_overflow_iff env _ _ _ o).trans hbeyond, (waitForStartup_overflow_iff env _ o).trans hbeyond,
    (drain_overflow_iff env _ o).trans hbeyond, fun h => ?_, fun hfar => ?_⟩
  · have hdeadline := hbeyond.mpr h
    rw [waitForStartup_eq, expectMarker_of_overflow hdeadline, expectMarker_of_overflow hdeadline,
      drain_of_overflow hdeadline]
    exact ⟨rfl, rfl, rfl⟩
  · refine ⟨nextLine_snd_of_alarm (alarm_of_far hfar _) env, ?_⟩
    rw [wait_snd, wait_snd, alarm_of_far hfar]

/-- With the longest timeout of all a line that is there is read at once, and yet no call with a deadline reads it. -/
theorem deadline_overflows_iff_longest :
    let longest : Duration := ⟨18446744073709551615 * 1000000000 + 999999999⟩
    Instant.last.nanos < tardyStart.clock.nanos + longest.nanos ∧ Instant.farAhead.nanos ≤ longest.nanos ∧
      (tardyStart.nextLine tardy longest).1 = .ok (some (.arrive (Marker.processStarted 7).text .start)) ∧
      (tardyStart.nextLine tardy longest).2 = (tardyStart.nextLine tardy Instant.farAhead).2 ∧
      tardyStart.expectMarker tardy "startup" longest Marker.isProcessStarted = (.error .clockOverflow, tardyStart) ∧
      (tardyStart.waitForStartup tardy longest).1 = .error .clockOverflow ∧
      (tardyStart.drain tardy longest).1 = .error .clockOverflow := by
  intro longest
  have hbeyond : Instant.last.nanos < tardyStart.clock.nanos + longest.nanos := by decide
  have hfar : Instant.farAhead.nanos ≤ longest.nanos := by decide
  obtain ⟨hmarker, hstartup, hdrain, hnothing, hlong⟩ :=
    deadline_overflows_iff tardy "startup" longest Marker.isProcessStarted tardyStart
  have hread : tardyStart.nextLine tardy longest =
      (.ok (some (.arrive (Marker.processStarted 7).text .start)), tardyRead) := nextLine_tardyStart longest
  exact ⟨hbeyond, hfar, by rw [hread], (hlong hfar).1, Prod.ext (hmarker.mpr hbeyond) (hnothing hbeyond).1,
    hstartup.mpr hbeyond, hdrain.mpr hbeyond⟩

end OrderlyExit.Observation
