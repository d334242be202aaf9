import OrderlyExit.Proofs.Observer.Waiting

/-! The end of a program. Waiting for it succeeds exactly if the end is noted, whether by waiting alone or by force, and
    none of it reads a line; it takes its time out at most, and by force a second more. -/

namespace OrderlyExit.Observation

universe u
variable {σ : Type u} {env : System σ} {o o' o'' : Observation σ} {timeout : Duration} {d d' : Nat}

/-! ### Time without reading -/

/-- Nothing has been read from `o` to `o'`, and at most `d` nanoseconds have passed. -/
structure Within (d : Nat) (o o' : Observation σ) : Prop where
  pid : o'.pid = o.pid
  transcript : o'.transcript = o.transcript
  clock_le : o'.clock.nanos ≤ o.clock.nanos + d
  sound : o.Sound → o'.Sound

theorem Within.refl (o : Observation σ) : Within 0 o o := ⟨rfl, rfl, Int.le_of_eq (Int.add_zero _).symm, id⟩

theorem Within.trans (h : Within d o o') (h' : Within d' o' o'') : Within (d + d') o o'' where
  pid := h'.pid.trans h.pid
  transcript := h'.transcript.trans h.transcript
  clock_le := by
    have := h.clock_le
    have := h'.clock_le
    omega
  sound hs := h'.sound (h.sound hs)

theorem Within.mono (h : Within d o o') (hle : d ≤ d') : Within d' o o' :=
  { h with clock_le := Int.le_trans h.clock_le (by omega) }

/-- A signal that is sent changes what is seen at once, and what is known to have been sent. -/
theorem send_snd (env : System σ) (target : SignalTarget) (number : Nat) (o : Observation σ) :
    (o.send env target number).2 =
      seeAll { o with system := (env.send o.system target number).2.2, sent := o.sent ++ [(target, number)] }
        (env.send o.system target number).2.1 := by
  unfold send
  rcases env.send o.system target number with ⟨_ | errno, seen, s⟩ <;> rfl

/-- A signal that is sent is known to have been sent; beyond that nothing is read, sent or noted. -/
theorem passive_send (env : System σ) (target : SignalTarget) (number : Nat) (o : Observation σ) :
    Passive { o with sent := o.sent ++ [(target, number)] } (o.send env target number).2 := by
  rw [send_snd]
  exact { passive_seeAll { o with
    system := (env.send o.system target number).2.2, sent := o.sent ++ [(target, number)] } _ with }

theorem clock_send (env : System σ) (target : SignalTarget) (number : Nat) (o : Observation σ) :
    (o.send env target number).2.clock = o.clock := by
  rw [send_snd, clock_seeAll]

/-- Sending a signal takes no time. -/
theorem within_send (env : System σ) (target : SignalTarget) (number : Nat) (o : Observation σ) :
    Within 0 o (o.send env target number).2 where
  pid := (passive_send env target number o).pid
  transcript := (passive_send env target number o).transcript
  clock_le := by
    rw [clock_send]
    omega
  sound hs := by
    have hstart : Sound
        { o with system := (env.send o.system target number).2.2, sent := o.sent ++ [(target, number)] } :=
      ⟨hs.unread, hs.outcome⟩
    rw [send_snd]
    exact hstart.seeAll _

/-- Sending a signal succeeds exactly if the system does not refuse it. -/
theorem send_eq_ok_iff {target : SignalTarget} {number : Nat} :
    (o.send env target number).1 = .ok () ↔ (env.send o.system target number).1 = none := by
  unfold send
  rcases env.send o.system target number with ⟨failure, seen, s⟩
  cases failure <;> simp

/-! ### Waiting for the end -/

/-- Taking note of an end finds one that has been noted, or meets a failure, or notes one that has been seen, or does
nothing. -/
theorem tryWait_cases (env : System σ) (o : Observation σ) :
    (∃ outcome, o.outcome = some outcome ∧ o.tryWait env = (.ok (some outcome), o)) ∨
    o.outcome = none ∧
      ((∃ e, o.waitError = some e ∧ o.tryWait env = (.error (.io e), { o with waitError := none })) ∨
        (∃ status, o.waitError = none ∧ o.status = some status ∧ o.tryWait env =
          (.ok (some status.outcome), { o with system := env.reap o.system o.pid, outcome := some status.outcome })) ∨
        o.waitError = none ∧ o.status = none ∧ o.tryWait env = (.ok none, o)) := by
  unfold tryWait
  cases hout : o.outcome with
  | some outcome => exact Or.inl ⟨outcome, rfl, rfl⟩
  | none =>
    refine Or.inr ⟨rfl, ?_⟩
    cases hfailed : o.waitError with
    | some e => exact Or.inl ⟨e, rfl, rfl⟩
    | none =>
      cases hstatus : o.status with
      | some status => exact Or.inr (Or.inl ⟨status, rfl, rfl, rfl⟩)
      | none => exact Or.inr (Or.inr ⟨rfl, rfl, rfl⟩)

/-- Waiting finds an end that has been noted, or meets a failure, or notes an end that it has seen, or gives up. -/
theorem wait_cases (env : System σ) (timeout : Duration) (o : Observation σ) :
    (∃ outcome, o.outcome = some outcome ∧ o.wait env timeout = (.ok outcome, o)) ∨
    o.outcome = none ∧ let a := o.await env answerable (o.clock.alarm timeout)
      (∃ e, a.waitError = some e ∧ o.wait env timeout = (.error (.io e), { a with waitError := none })) ∨
      (∃ status, a.waitError = none ∧ a.status = some status ∧ o.wait env timeout =
        (.ok status.outcome, { a with system := env.reap a.system a.pid, outcome := some status.outcome })) ∨
      a.waitError = none ∧ a.status = none ∧
        o.wait env timeout = (.error (.timeout ((SignalTarget.process o.pid).text ++ " to exit") timeout), a) := by
  unfold wait
  cases hout : o.outcome with
  | some outcome => exact Or.inl ⟨outcome, rfl, rfl⟩
  | none =>
    refine Or.inr ⟨rfl, ?_⟩
    have hpassive := @passive_await σ env answerable (o.clock.alarm timeout) o
    generalize o.await env answerable (o.clock.alarm timeout) = a at hpassive
    rcases tryWait_cases env a with ⟨outcome, hnoted, -⟩ | ⟨-, ⟨e, hfailed, htry⟩ | ⟨status, hfailed, hstatus, htry⟩ |
      ⟨hfailed, hstatus, htry⟩⟩
    -- a wait notes nothing
    · cases hnoted.symm.trans (hpassive.outcome.trans hout)
    · exact Or.inl ⟨e, hfailed, by rw [htry]⟩
    · exact Or.inr (Or.inl ⟨status, hfailed, hstatus, by rw [htry]⟩)
    · exact Or.inr (Or.inr ⟨hfailed, hstatus, by simp only [htry, hpassive.pid]⟩)

/-- The outcome that waiting comes to is the one that is noted then. -/
theorem wait_eq_ok_iff {outcome : ExitOutcome} :
    (o.wait env timeout).1 = .ok outcome ↔ (o.wait env timeout).2.outcome = some outcome := by
  have hunset {e : ObserverError} {o' : Observation σ} (h : o'.outcome = none) :
      Except.error e = Except.ok outcome ↔ o'.outcome = some outcome :=
    iff_of_false (fun h => nomatch h) fun hout => nomatch h.symm.trans hout
  rcases wait_cases env timeout o with ⟨noted, hout, hwait⟩ | ⟨hout, ⟨e, -, hwait⟩ | ⟨status, -, -, hwait⟩ |
    ⟨-, -, hwait⟩⟩
  · rw [hwait, hout, Except.ok.injEq, Option.some.injEq]
  · rw [hwait]
    exact hunset (passive_await.outcome.trans hout)
  · rw [hwait, Except.ok.injEq, Option.some.injEq]
  · rw [hwait]
    exact hunset (passive_await.outcome.trans hout)

theorem within_wait (env : System σ) (timeout : Duration) (o : Observation σ) :
    Within (min timeout.nanos Instant.farAhead.nanos) o (o.wait env timeout).2 := by
  have hclock := @clock_await_le σ env answerable (o.clock.alarm timeout) o
  have halarm := nanos_alarm o.clock timeout
  have hpassive := @passive_await σ env answerable (o.clock.alarm timeout) o
  have hwaited : Within (min timeout.nanos Instant.farAhead.nanos) o (o.await env answerable (o.clock.alarm timeout)) :=
    ⟨hpassive.pid, hpassive.transcript, by omega, Sound.await⟩
  rcases wait_cases env timeout o with ⟨noted, -, hwait⟩ | ⟨-, ⟨e, -, hwait⟩ | ⟨status, -, hstatus, hwait⟩ |
    ⟨-, -, hwait⟩⟩
  · rw [hwait]
    exact (Within.refl o).mono (Nat.zero_le _)
  · rw [hwait]
    exact { hwaited with sound := fun hs => ⟨hs.await.unread, hs.await.outcome⟩ }
  · rw [hwait]
    refine { hwaited with sound := fun hs => ⟨hs.await.unread, fun outcome hout => ?_⟩ }
    exact ⟨status, hstatus, (Option.some.inj hout).symm⟩
  · rw [hwait]
    exact hwaited

/-! ### Ending by force -/

/-- A wait fails because its time has run out, or because the system does not tell of the end. -/
theorem wait_error_cases {e : ObserverError} (h : (o.wait env timeout).1 = .error e) :
    (∃ source, e = .io source) ∨ e = .timeout ((SignalTarget.process o.pid).text ++ " to exit") timeout := by
  rcases wait_cases env timeout o with ⟨noted, -, hwait⟩ | ⟨-, ⟨source, -, hwait⟩ | ⟨status, -, -, hwait⟩ |
    ⟨-, -, hwait⟩⟩
  · cases h.symm.trans (congrArg Prod.fst hwait)
  · exact Or.inl ⟨source, Except.error.inj (h.symm.trans (congrArg Prod.fst hwait))⟩
  · cases h.symm.trans (congrArg Prod.fst hwait)
  · exact Or.inr (Except.error.inj (h.symm.trans (congrArg Prod.fst hwait)))

/-- Ending a program is a wait for its end after one signal; and only if the time for that has run out, another wait
after a second signal. -/
theorem stop_cases (env : System σ) (grace : Duration) (o : Observation σ) :
    let asked := (o.signalGroup env .terminate).2
    let waited := asked.wait env grace
    (((∃ outcome, waited.1 = .ok outcome) ∨ ∃ source, waited.1 = .error (.io source)) ∧ o.stop env grace = waited) ∨
      (∃ text, waited.1 = .error (.timeout text grace)) ∧
        o.stop env grace = (waited.2.send env (.group waited.2.pid) killNumber).2.wait env killWait := by
  unfold stop
  dsimp only
  generalize (o.signalGroup env .terminate).2 = asked
  have hcases {e : ObserverError} (h : (asked.wait env grace).1 = .error e) := wait_error_cases h
  generalize asked.wait env grace = waited at hcases
  obtain ⟨e | outcome, o'⟩ := waited
  · rcases hcases rfl with ⟨source, rfl⟩ | rfl
    · exact Or.inl ⟨Or.inr ⟨source, rfl⟩, rfl⟩
    · exact Or.inr ⟨⟨_, rfl⟩, rfl⟩
  · exact Or.inl ⟨Or.inl ⟨outcome, rfl⟩, rfl⟩

/-- The outcome that ending a program comes to is the one that is noted then. -/
theorem stop_eq_ok_iff {grace : Duration} {outcome : ExitOutcome} :
    (o.stop env grace).1 = .ok outcome ↔ (o.stop env grace).2.outcome = some outcome := by
  rcases stop_cases env grace o with ⟨-, hstop⟩ | ⟨-, hstop⟩
  · rw [hstop]
    exact wait_eq_ok_iff
  · rw [hstop]
    exact wait_eq_ok_iff

theorem within_stop (env : System σ) (grace : Duration) (o : Observation σ) :
    Within (min grace.nanos Instant.farAhead.nanos + killWait.nanos) o (o.stop env grace).2 := by
  have hasked : Within (min grace.nanos Instant.farAhead.nanos) o ((o.signalGroup env .terminate).2.wait env grace).2 :=
    Nat.zero_add (min grace.nanos _) ▸ (within_send env _ _ o).trans (within_wait env grace _)
  rcases stop_cases env grace o with ⟨-, hstop⟩ | ⟨-, hstop⟩
  · rw [hstop]
    exact hasked.mono (Nat.le_add_right _ _)
  · rw [hstop]
    refine ((hasked.trans (within_send env _ _ _)).trans (within_wait env killWait _)).mono ?_
    rw [Nat.add_zero]
    exact Nat.add_le_add_left (Nat.min_le_left _ _) _

end OrderlyExit.Observation
