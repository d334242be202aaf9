import OrderlyExit.Proofs.Observer.Calls

/-! The outcome of a program. Once a call has returned how the program ended, every later call returns the same, and
    at once. Killing is the last resort of ending it, and a call that fails leaves its end to later ones. -/

namespace OrderlyExit

universe u
variable {σ : Type u}

/-- The same system, except that it reports other failures of the signals that are sent. -/
def System.reporting (env : System σ) (failure : σ → SignalTarget → Nat → Option Errno) : System σ :=
  { env with send := fun s target number => (failure s target number, (env.send s target number).2) }

namespace Observation

variable {env : System σ} {limit : Instant} {o : Observation σ} {timeout grace : Duration} {outcome : ExitOutcome}
  {e : ObserverError}

/-! ### What is noted -/

theorem sent_tryWait (env : System σ) (o : Observation σ) : (o.tryWait env).2.sent = o.sent := by
  rcases tryWait_cases env o with ⟨noted, -, htry⟩ | ⟨-, ⟨e, -, htry⟩ | ⟨status, -, -, htry⟩ | ⟨-, -, htry⟩⟩ <;>
    rw [htry]

theorem sent_wait (env : System σ) (timeout : Duration) (o : Observation σ) : (o.wait env timeout).2.sent = o.sent := by
  rcases wait_cases env timeout o with ⟨noted, -, hwait⟩ | ⟨-, ⟨e, -, hwait⟩ | ⟨status, -, -, hwait⟩ | ⟨-, -, hwait⟩⟩
  · rw [hwait]
  all_goals
    rw [hwait]
    exact passive_await.sent

/-- It has been noted how the program ended, and it did end so. -/
structure Noted (outcome : ExitOutcome) (o : Observation σ) : Prop where
  noted : o.outcome = some outcome
  seen : ∃ status, o.status = some status ∧ outcome = status.outcome

/-- What has been noted is how the program ended. -/
def Honest (o : Observation σ) : Prop := ∀ outcome, o.outcome = some outcome → o.Noted outcome

theorem status_see {status : WaitStatus} (h : o.status = some status) (x : Sighting) :
    (o.see x).status = some status := by
  cases x with
  | output bytes | closed | readFailed e =>
    simp only [see]
    split <;> exact h
  | ended other =>
    simp only [see, h, Option.isSome_some, ↓reduceIte]
  | waitFailed e => exact h

theorem keeps_status (env : System σ) (status : WaitStatus) : Keeps env fun o => o.status = some status :=
  keeps_of_see (fun _ x h => status_see h x) (fun _ _ _ _ _ _ h => h) (fun _ h => h) (fun _ h => h) (fun _ h => h)

/-- What has been noted is never noted otherwise. -/
theorem keeps_noted (env : System σ) (outcome : ExitOutcome) : Keeps env (Noted outcome) where
  await enough limit h := by
    obtain ⟨status, hstatus, hsame⟩ := h.seen
    exact ⟨passive_await.outcome.trans h.noted, status, (keeps_status env status).await enough limit hstatus, hsame⟩
  take _ h := ⟨h.noted, h.seen⟩
  meetEnd _ h := ⟨h.noted, h.seen⟩
  send target number h := by
    obtain ⟨status, hstatus, hsame⟩ := h.seen
    exact ⟨(passive_send env target number _).outcome.trans h.noted, status,
      (keeps_status env status).send target number hstatus, hsame⟩
  note hnote h := by
    -- what is noted now is the end that was seen first, and so the one that was noted before
    obtain ⟨status, hstatus, rfl⟩ := h.seen
    obtain rfl := Option.some.inj (hnote.symm.trans hstatus)
    exact ⟨rfl, _, hstatus, rfl⟩
  reportRead _ h := ⟨h.noted, h.seen⟩
  reportWait h := ⟨h.noted, h.seen⟩

theorem keeps_honest (env : System σ) : Keeps env Honest where
  await enough limit h outcome hout :=
    (keeps_noted env outcome).await enough limit (h outcome (passive_await.outcome.symm.trans hout))
  take hunread h outcome hout := (keeps_noted env outcome).take hunread (h outcome hout)
  meetEnd hexhausted h outcome hout := (keeps_noted env outcome).meetEnd hexhausted (h outcome hout)
  send target number h outcome hout :=
    (keeps_noted env outcome).send target number
      (h outcome ((passive_send env target number _).outcome.symm.trans hout))
  note hstatus _ _ hout := ⟨hout, _, hstatus, (Option.some.inj hout).symm⟩
  reportRead hunread h outcome hout := (keeps_noted env outcome).reportRead hunread (h outcome hout)
  reportWait h outcome hout := (keeps_noted env outcome).reportWait (h outcome hout)

theorem honest_of_spawn {launch : Launch} {clock : Instant} {s : σ} (h : spawn env launch clock s = .ok o) :
    o.Honest := fun _ hout => nomatch (passive_spawn h).outcome.symm.trans hout

/-! ### What callers are told -/

/-- How the program ended, as an answer tells it. -/
def Answer.outcome? : Answer → Option ExitOutcome
  | .tryWait (.ok (some outcome)) | .wait (.ok outcome) => some outcome
  | _ => none

theorem outcome_of_answer {call : Call} (h : (o.perform env call).1.outcome? = some outcome) :
    (o.perform env call).2.outcome = some outcome := by
  have hwait {result : Except ObserverError ExitOutcome} (h : (Answer.wait result).outcome? = some outcome) :
      result = .ok outcome := by
    cases result with
    | error e => cases h
    | ok noted => exact congrArg Except.ok (Option.some.inj h)
  cases call with
  | tryWait =>
    replace h : (Answer.tryWait (o.tryWait env).1).outcome? = some outcome := h
    show (o.tryWait env).2.outcome = some outcome
    rcases tryWait_cases env o with ⟨noted, hout, htry⟩ | ⟨-, ⟨e, -, htry⟩ | ⟨status, -, -, htry⟩ | ⟨-, -, htry⟩⟩
    · rw [htry] at h ⊢
      exact hout.trans h
    · rw [htry] at h
      cases h
    · rw [htry] at h ⊢
      exact h
    · rw [htry] at h
      cases h
  | wait timeout => exact wait_eq_ok_iff.mp (hwait h)
  | stop grace => exact stop_eq_ok_iff.mp (hwait h)
  | nextLine _ | expectMarker _ _ _ | waitForStartup _ | drain _ | signal _ | signalGroup _ | pause _ => cases h

/-- What a caller has been told is noted, whatever has been called since. -/
theorem noted_of_answer (hhonest : o.Honest) {calls : List Call} {answer : Answer}
    (hmem : answer ∈ (o.performAll env calls).1) (h : answer.outcome? = some outcome) :
    (o.performAll env calls).2.Noted outcome := by
  induction calls generalizing o with
  | nil => cases hmem
  | cons call calls ih =>
    have hhonest' := (keeps_honest env).perform call hhonest
    rcases List.mem_cons.mp hmem with rfl | hmem
    · exact (keeps_noted env outcome).performAll calls (hhonest' outcome (outcome_of_answer h))
    · exact ih hhonest' hmem

/-- Every call that asks for the end of the program returns this outcome, and does not wait for it. -/
structure Settled (env : System σ) (outcome : ExitOutcome) (o : Observation σ) : Prop where
  tryWait : o.tryWait env = (.ok (some outcome), o)
  wait : ∀ timeout, o.wait env timeout = (.ok outcome, o)
  stop : ∀ grace, o.stop env grace = (.ok outcome, (o.signalGroup env .terminate).2)
  clock : ∀ grace, (o.stop env grace).2.clock = o.clock

theorem wait_of_noted (h : o.outcome = some outcome) (env : System σ) (timeout : Duration) :
    o.wait env timeout = (.ok outcome, o) := by
  simp only [Observation.wait, h]

theorem stop_of_ok (h : ((o.signalGroup env .terminate).2.wait env grace).1 = .ok outcome) :
    o.stop env grace = (o.signalGroup env .terminate).2.wait env grace := by
  rcases stop_cases env grace o with ⟨-, hstop⟩ | ⟨⟨text, hout⟩, -⟩
  · exact hstop
  · cases h.symm.trans hout

theorem Noted.settled (h : o.Noted outcome) : Settled env outcome o := by
  have hasked (grace : Duration) : (o.signalGroup env .terminate).2.wait env grace =
      (.ok outcome, (o.signalGroup env .terminate).2) :=
    wait_of_noted ((keeps_noted env outcome).send _ _ h).noted env grace
  have hstop (grace : Duration) : o.stop env grace = (.ok outcome, (o.signalGroup env .terminate).2) :=
    (stop_of_ok (congrArg Prod.fst (hasked grace))).trans (hasked grace)
  refine ⟨?_, wait_of_noted h.noted env, hstop, fun grace => ?_⟩
  · simp only [Observation.tryWait, h.noted]
  · rw [hstop]
    exact clock_send env _ _ o

/-! ### Calls that fail -/

/-- The end of the program can be had by any call that asks for it; by force, if the system still tells of it once the
program's group has been asked to end. -/
structure Reapable (env : System σ) (outcome : ExitOutcome) (o : Observation σ) : Prop where
  tryWait : (o.tryWait env).1 = .ok (some outcome)
  wait : ∀ timeout, (o.wait env timeout).1 = .ok outcome
  stop : (o.signalGroup env .terminate).2.waitError = none → ∀ grace, (o.stop env grace).1 = .ok outcome

theorem wait_of_status (hhonest : o.Honest) {status : WaitStatus} (h : o.status = some status)
    (told : o.waitError = none) (timeout : Duration) : (o.wait env timeout).1 = .ok status.outcome := by
  have hquick : o.await env answerable (o.clock.alarm timeout) = o :=
    await_of_enough (by rw [answerable, h, Option.isSome_some, Bool.true_or])
  rcases wait_cases env timeout o with ⟨noted, hout, hwait⟩ | ⟨-, ⟨e, hfailed, -⟩ | ⟨status', -, hstatus, hwait⟩ |
    ⟨-, hnone, -⟩⟩
  · obtain ⟨-, status', hstatus, rfl⟩ := hhonest noted hout
    rw [hwait, Option.some.inj (h.symm.trans hstatus)]
  · rw [hquick] at hfailed
    cases told.symm.trans hfailed
  · rw [hquick] at hstatus
    rw [hwait, Option.some.inj (h.symm.trans hstatus)]
  · rw [hquick] at hnone
    cases h.symm.trans hnone

theorem reapable_of_status (hhonest : o.Honest) {status : WaitStatus} (h : o.status = some status)
    (told : o.waitError = none) : Reapable env status.outcome o where
  tryWait := by
    rcases tryWait_cases env o with ⟨noted, hout, htry⟩ | ⟨-, ⟨e, hfailed, -⟩ | ⟨status', -, hstatus, htry⟩ |
      ⟨-, hnone, -⟩⟩
    · obtain ⟨-, status', hstatus, rfl⟩ := hhonest noted hout
      rw [htry, Option.some.inj (h.symm.trans hstatus)]
    · cases told.symm.trans hfailed
    · rw [htry, Option.some.inj (h.symm.trans hstatus)]
    · cases h.symm.trans hnone
  wait := wait_of_status hhonest h told
  stop hasked grace := by
    have hwaited : ((o.signalGroup env .terminate).2.wait env grace).1 = .ok status.outcome :=
      wait_of_status ((keeps_honest env).send _ _ hhonest) ((keeps_status env status).send _ _ h) hasked grace
    exact (congrArg Prod.fst (stop_of_ok hwaited)).trans hwaited

/-- It has not been noted how the program ended; and whenever its end is seen later, any call will return it, unless the
system fails to tell of it then. -/
structure Unsettled (env : System σ) (o : Observation σ) : Prop where
  outcome : o.outcome = none
  reapable : ∀ more status, (o.performAll env more).2.status = some status →
    (o.performAll env more).2.waitError = none → Reapable env status.outcome (o.performAll env more).2

/-- The observation after a call has waited in vain, up to the limit: the program has not ended by then. -/
structure InVain (env : System σ) (limit : Instant) (o : Observation σ) : Prop extends Unsettled env o where
  status : o.status = none
  le_clock : limit.nanos ≤ o.clock.nanos

/-- How a wait for the end of a program fails, and how it leaves the observation: its time has run out in vain, or the
system has failed to tell of the end. -/
inductive GivesUp (env : System σ) (pid : UInt32) (timeout : Duration) (limit : Instant) (after : Observation σ) :
    ObserverError → Prop
  | expired (h : InVain env limit after) :
      GivesUp env pid timeout limit after (.timeout ((SignalTarget.process pid).text ++ " to exit") timeout)
  | untold {source : IoError} (h : Unsettled env after) : GivesUp env pid timeout limit after (.io source)

theorem unsettled_of_unset (h : o.outcome = none) : Unsettled env o where
  outcome := h
  reapable more _ hstatus htold :=
    have hhonest : Honest o := fun _ hnoted => nomatch h.symm.trans hnoted
    reapable_of_status ((keeps_honest env).performAll more hhonest) hstatus htold

theorem tryWait_gives_up (h : (o.tryWait env).1 = .error e) :
    ∃ source, e = .io source ∧ Unsettled env (o.tryWait env).2 := by
  rcases tryWait_cases env o with ⟨noted, -, htry⟩ | ⟨hout, ⟨source, -, htry⟩ | ⟨status, -, -, htry⟩ | ⟨-, -, htry⟩⟩
  case' inr.inl =>
    rw [htry] at h ⊢
    exact ⟨source, (Except.error.inj h).symm, unsettled_of_unset hout⟩
  all_goals cases h.symm.trans (congrArg Prod.fst htry)

theorem wait_gives_up (h : (o.wait env timeout).1 = .error e) :
    o.outcome = none ∧ GivesUp env o.pid timeout (o.clock.alarm timeout) (o.wait env timeout).2 e := by
  have hends := enough_or_le_await env answerable (o.clock.alarm timeout) o
  have hpassive := @passive_await σ env answerable (o.clock.alarm timeout) o
  rcases wait_cases env timeout o with ⟨noted, -, hwait⟩ | ⟨hout, ⟨source, -, hwait⟩ | ⟨status, -, -, hwait⟩ |
    ⟨hfailed, hstatus, hwait⟩⟩
  · cases h.symm.trans (congrArg Prod.fst hwait)
  · rw [hwait] at h ⊢
    obtain rfl := Except.error.inj h
    exact ⟨hout, .untold (unsettled_of_unset (hpassive.outcome.trans hout))⟩
  · cases h.symm.trans (congrArg Prod.fst hwait)
  · rw [hwait] at h ⊢
    obtain rfl := Except.error.inj h
    have hover := hends.resolve_left (by simp [answerable, hstatus, hfailed])
    have hunsettled : Unsettled env (o.await env answerable (o.clock.alarm timeout)) :=
      unsettled_of_unset (hpassive.outcome.trans hout)
    exact ⟨hout, .expired { hunsettled with status := hstatus, le_clock := hover }⟩

/-! ### Ending by force -/

section Reporting
variable (env) (failure : σ → SignalTarget → Nat → Option Errno)

theorem await_reporting (enough : Observation σ → Bool) (limit : Instant) (o : Observation σ) :
    o.await (env.reporting failure) enough limit = o.await env enough limit := by
  fun_induction await env enough limit o with
  | case1 o h => exact await_of_enough h
  | case2 o h hlt time seen s hadvance hle ih =>
    refine Eq.trans ?_ ih
    exact await_of_advance (Bool.eq_false_iff.mpr h) hadvance hle.1 hle.2
  | case3 o h hlt time seen s hadvance hquiet =>
    refine await_of_quiet (Bool.eq_false_iff.mpr h) hlt hadvance fun time' seen' hnext => ?_
    obtain ⟨rfl, rfl⟩ := Prod.mk.inj (Option.some.inj hnext)
    exact hquiet
  | case4 o h hlt s hadvance =>
    refine await_of_quiet (Bool.eq_false_iff.mpr h) hlt hadvance fun _ _ hnext => ?_
    cases hnext
  | case5 o _ hover => exact await_of_over hover

theorem wait_reporting (timeout : Duration) (o : Observation σ) :
    o.wait (env.reporting failure) timeout = o.wait env timeout := by
  unfold Observation.wait
  rw [await_reporting]
  rfl

theorem send_reporting (target : SignalTarget) (number : Nat) (o : Observation σ) :
    (o.send (env.reporting failure) target number).2 = (o.send env target number).2 := by
  rw [send_snd, send_snd]
  rfl

theorem stop_reporting (grace : Duration) (o : Observation σ) :
    o.stop (env.reporting failure) grace = o.stop env grace := by
  simp only [Observation.stop, signalGroup, send_reporting, wait_reporting]

end Reporting

/-- A program is killed as the last resort, once its group has been asked to end and its time has gone by in vain. A
wait that has learned of the end, or that the system has failed, is the last one. Ending a program fails only if it has
been waited for in vain or the system has failed, and never for a signal that could not be sent. -/
structure LastResort (env : System σ) (grace : Duration) (o : Observation σ) : Prop where
  sent : let waited := (o.signalGroup env .terminate).2.wait env grace
    let requested := o.sent ++ [(.group o.pid, ShutdownSignal.terminate.number)]
    ((∃ outcome, waited.1 = .ok outcome) ∨ ∃ source, waited.1 = .error (.io source)) ∧
        o.stop env grace = waited ∧ (o.stop env grace).2.sent = requested ∨
      (o.outcome = none ∧ InVain env (o.clock.alarm grace) waited.2) ∧
        o.stop env grace = (waited.2.send env (.group o.pid) killNumber).2.wait env killWait ∧
        (o.stop env grace).2.sent = requested ++ [(.group o.pid, killNumber)]
  fails : ∀ e, (o.stop env grace).1 = .error e →
    GivesUp env o.pid killWait ((o.clock.alarm grace).plus killWait) (o.stop env grace).2 e
  reporting : ∀ failure, o.stop (env.reporting failure) grace = o.stop env grace

theorem asked_in_vain {text : String}
    (h : ((o.signalGroup env .terminate).2.wait env grace).1 = .error (.timeout text grace)) :
    o.outcome = none ∧ InVain env (o.clock.alarm grace) ((o.signalGroup env .terminate).2.wait env grace).2 := by
  obtain ⟨hunset, hgives⟩ := wait_gives_up h
  rw [show (o.signalGroup env .terminate).2.clock = o.clock from clock_send env _ _ o] at hgives
  cases hgives with
  | expired hvain => exact ⟨(passive_send env _ _ o).outcome.symm.trans hunset, hvain⟩

theorem pid_asked_wait (env : System σ) (grace : Duration) (o : Observation σ) :
    ((o.signalGroup env .terminate).2.wait env grace).2.pid = o.pid :=
  (within_wait env grace _).pid.trans (passive_send env _ _ o).pid

theorem InVain.mono {earlier : Instant} (h : InVain env limit o) (hle : earlier.nanos ≤ limit.nanos) :
    InVain env earlier o :=
  { h with le_clock := Int.le_trans hle h.le_clock }

theorem lastResort (env : System σ) (grace : Duration) (o : Observation σ) : LastResort env grace o where
  sent := by
    have hrequested := (passive_send env (.group o.pid) ShutdownSignal.terminate.number o).sent
    rcases stop_cases env grace o with ⟨hanswer, hstop⟩ | ⟨⟨text, hout⟩, hstop⟩
    · refine Or.inl ⟨hanswer, hstop, ?_⟩
      rw [hstop, sent_wait]
      exact hrequested
    · rw [pid_asked_wait] at hstop
      refine Or.inr ⟨asked_in_vain hout, hstop, ?_⟩
      rw [hstop, sent_wait, (passive_send env _ killNumber _).sent, sent_wait]
      exact congrArg (· ++ [(SignalTarget.group o.pid, killNumber)]) hrequested
  fails e herror := by
    rcases stop_cases env grace o with ⟨⟨outcome, hok⟩ | ⟨source, hfailed⟩, hstop⟩ | ⟨⟨text, hout⟩, hstop⟩
    · rw [hstop] at herror
      cases hok.symm.trans herror
    · rw [hstop] at herror ⊢
      obtain rfl := Except.error.inj (hfailed.symm.trans herror)
      cases (wait_gives_up herror).2 with
      | untold hunsettled => exact .untold hunsettled
    · rw [hstop, pid_asked_wait] at herror ⊢
      obtain ⟨-, hgives⟩ := wait_gives_up herror
      rw [(passive_send env _ killNumber _).pid, pid_asked_wait] at hgives
      cases hgives with
      | expired hvain =>
        -- killing takes no time, so the second wait begins where the first one has ended
        refine .expired (hvain.mono ?_)
        rw [clock_send]
        exact Int.add_le_add_right (asked_in_vain hout).2.le_clock _
      | untold hunsettled => exact .untold hunsettled
  reporting failure := stop_reporting env failure grace o

/-- Once a caller has been told how the program ended, every later call that asks for it returns the same without
waiting. Of these calls only ending the program sends signals, and the one that kills as the last resort. A call that
fails has waited in vain or met a failure of the system, and leaves the end of the program to be returned by later
ones. -/
theorem outcome_final_kill_last {launch : Launch} {clock : Instant} {s : σ}
    (hspawn : spawn env launch clock s = .ok o) (calls : List Call) :
    let now := (o.performAll env calls).2
    (∀ answer ∈ (o.performAll env calls).1, ∀ outcome, answer.outcome? = some outcome → Settled env outcome now) ∧
    (∀ timeout e, (now.wait env timeout).1 = .error e →
      GivesUp env now.pid timeout (now.clock.alarm timeout) (now.wait env timeout).2 e) ∧
    (∀ e, (now.tryWait env).1 = .error e → ∃ source, e = .io source ∧ Unsettled env (now.tryWait env).2) ∧
    (∀ timeout, (now.wait env timeout).2.sent = now.sent) ∧ (now.tryWait env).2.sent = now.sent ∧
    ∀ grace, LastResort env grace now := by
  intro now
  refine ⟨fun answer hmem outcome htold => ?_, fun timeout e he => (wait_gives_up he).2,
    fun e he => tryWait_gives_up he, fun timeout => sent_wait env timeout now, sent_tryWait env now,
    fun grace => lastResort env grace now⟩
  exact (noted_of_answer (honest_of_spawn hspawn) hmem htold).settled

/-- A system with one program, which ends only when it is killed. -/
def stubborn : System Unit where
  spawn _ _ := (.ok { pid := some 7 }, ())
  advance _ _ _ := (none, ())
  send _ _ number := (none, if number = killNumber then [.ended (.ofSignal 9 false)] else [], ())
  reap _ _ := ()

def stubbornStart : Observation Unit := { system := (), pid := 7, clock := .start, transcript := {} }

def stubbornAsked : Observation Unit := { stubbornStart with sent := [(.group 7, 15)] }

def stubbornKilled : Observation Unit :=
  { stubbornStart with
    sent := [(.group 7, 15), (.group 7, 9)], status := some (.ofSignal 9 false), outcome := some (.signaled 9) }

theorem wait_stubbornAsked : (stubbornStart.signalGroup stubborn .terminate).2.wait stubborn .zero =
    (.error (.timeout ((SignalTarget.process 7).text ++ " to exit") .zero), stubbornAsked) := by
  show stubbornAsked.wait stubborn .zero = _
  unfold Observation.wait
  rw [await_of_over (by decide)]
  rfl

theorem stop_stubbornStart : stubbornStart.stop stubborn .zero = (.ok (.signaled 9), stubbornKilled) := by
  unfold Observation.stop
  rw [wait_stubbornAsked]
  show wait stubborn killWait { stubbornKilled with outcome := none } = _
  unfold Observation.wait
  rw [await_of_enough rfl]
  rfl

/-- It has been asked in vain before it is killed, and then its outcome stays what it is. -/
theorem outcome_final_kill_last_stubborn :
    spawn stubborn { program := [] } .start () = .ok stubbornStart ∧
    stubbornStart.stop stubborn .zero = (.ok (.signaled 9), stubbornKilled) ∧
    InVain stubborn .start stubbornAsked ∧ Settled stubborn (.signaled 9) stubbornKilled := by
  have hspawn : spawn stubborn { program := [] } .start () = .ok stubbornStart := rfl
  obtain ⟨-, -, -, -, -, hends⟩ := outcome_final_kill_last hspawn []
  obtain ⟨hsettled, -⟩ := outcome_final_kill_last hspawn [.stop .zero]
  simp only [performAll, perform, stop_stubbornStart] at hsettled
  have hsent := (hends .zero).sent
  simp only [performAll, wait_stubbornAsked] at hsent
  rcases hsent with ⟨⟨outcome, hok⟩ | ⟨source, hfailed⟩, -⟩ | ⟨⟨-, hvain⟩, -⟩
  · cases hok
  · cases hfailed
  · exact ⟨hspawn, stop_stubbornStart, hvain, hsettled _ List.mem_cons_self _ rfl⟩

end Observation

end OrderlyExit
