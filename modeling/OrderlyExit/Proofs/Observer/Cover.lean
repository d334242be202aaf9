import OrderlyExit.Proofs.Observer.Calls

/-! Systems that show the same. What a system does not show, an observer does not notice: if the states of one system
    can be read off those of another one that shows the same, so can its observations, call by call. -/

namespace OrderlyExit

universe u v
variable {σ : Type u} {τ : Type v} {env : System σ} {env' : System τ} {f : τ → σ}

/-! ### Systems that show the same -/

/-- The second system shows what the first one does, whose states are read off its own. -/
structure System.Covers (env : System σ) (env' : System τ) (f : τ → σ) : Prop where
  spawn : ∀ t invocation, env.spawn (f t) invocation = (env'.spawn t invocation).map id f
  advance : ∀ t now limit, env.advance (f t) now limit = (env'.advance t now limit).map id f
  send : ∀ t target number, env.send (f t) target number = (env'.send t target number).map id (Prod.map id f)
  reap : ∀ t pid, env.reap (f t) pid = f (env'.reap t pid)

namespace Observation

/-- The observation with the state that is read off. -/
def project (f : τ → σ) (o : Observation τ) : Observation σ := { o with system := f o.system }

theorem project_see (f : τ → σ) (o : Observation τ) (x : Sighting) : (o.see x).project f = (o.project f).see x := by
  cases x with
  | waitFailed => rfl
  | _ => exact apply_ite (project f) _ _ _

theorem project_seeAll (f : τ → σ) (o : Observation τ) (seen : List Sighting) :
    (o.seeAll seen).project f = (o.project f).seeAll seen := by
  induction seen generalizing o with
  | nil => rfl
  | cons x seen ih => exact (ih (o.see x)).trans (congrArg (seeAll · seen) (project_see f o x))

section Covers
variable (C : env.Covers env' f) {limit : Instant} {o : Observation τ}
include C

theorem project_await {enough : Observation σ → Bool} {enough' : Observation τ → Bool}
    (hagree : ∀ o, enough' o = enough (o.project f)) :
    (o.await env' enough' limit).project f = (o.project f).await env enough limit := by
  have hadvance' (o : Observation τ) {next s} (h : env'.advance o.system o.clock limit = (next, s)) :
      env.advance (o.project f).system (o.project f).clock limit = (next, f s) :=
    (C.advance _ _ _).trans (congrArg (Prod.map id f) h)
  -- both waits see the same sightings at the same moments, so one goes on exactly if the other does
  fun_induction await env' enough' limit o with
  | case1 o henough => exact (await_of_enough ((hagree o).symm.trans henough)).symm
  | case2 o henough hlt time seen s hadvance hle ih =>
    have henough' := (hagree o).symm.trans (Bool.eq_false_iff.mpr henough)
    rw [ih, project_seeAll]
    exact (await_of_advance henough' (hadvance' o hadvance) hle.1 hle.2).symm
  | case3 o henough hlt time seen s hadvance hle =>
    have henough' := (hagree o).symm.trans (Bool.eq_false_iff.mpr henough)
    refine (await_of_quiet henough' hlt (hadvance' o hadvance) fun time' seen' hnext => ?_).symm
    obtain ⟨rfl, rfl⟩ := Prod.mk.inj (Option.some.inj hnext)
    exact hle
  | case4 o henough hlt s hadvance =>
    have henough' := (hagree o).symm.trans (Bool.eq_false_iff.mpr henough)
    exact (await_of_quiet henough' hlt (hadvance' o hadvance) fun _ _ hnext => by cases hnext).symm
  | case5 o henough hlt => exact (await_of_over (o := o.project f) hlt).symm

theorem project_nextLine (timeout : Duration) :
    (o.project f).nextLine env timeout = (o.nextLine env' timeout).map id (project f) := by
  have hawait : (o.await env' readable (o.clock.alarm timeout)).project f =
      (o.project f).await env readable (o.clock.alarm timeout) := project_await C fun _ => rfl
  unfold nextLine
  rw [show (o.project f).clock = o.clock from rfl, show (o.project f).sawEnd = o.sawEnd from rfl, ← hawait]
  generalize o.await env' readable (o.clock.alarm timeout) = a
  obtain ⟨system, pid, clock, partialLine, unread, readError, capture, status, waitError, transcript, outcome, sawEnd,
    sent⟩ := a
  cases o.sawEnd with
  | true => rfl
  | false =>
    cases unread with
    | cons l rest => rfl
    | nil =>
      cases readError with
      | some e => rfl
      | none => cases capture <;> rfl

theorem project_seek {deadline : Instant} (wanted : ObservedLine → Bool) :
    (o.project f).seek env deadline wanted = (o.seek env' deadline wanted).map id (project f) := by
  have hnext {o : Observation τ} {r o'} (h : o.nextLine env' (deadline.since o.clock) = (r, o')) :
      (o.project f).nextLine env (deadline.since (o.project f).clock) = (r, o'.project f) :=
    (project_nextLine C _).trans (congrArg (Prod.map id (project f)) h)
  fun_induction seek env' deadline wanted o with
  | case1 o l o' h hw => rw [seek_of_line (hnext h), if_pos hw]; rfl
  | case2 o l o' h hw ih => rw [seek_of_line (hnext h), if_neg hw, ih]
  | case3 o o' h => exact seek_of_end (hnext h) wanted
  | case4 o e o' h => exact seek_of_error (hnext h) wanted

theorem project_expectMarker (description : String) (timeout : Duration) (wanted : Marker → Bool) :
    (o.project f).expectMarker env description timeout wanted =
      (o.expectMarker env' description timeout wanted).map id (project f) := by
  cases hdeadline : o.clock.after? timeout with
  | none =>
    rw [expectMarker_of_overflow hdeadline, expectMarker_of_overflow (o := o.project f) hdeadline]
    rfl
  | some deadline =>
    rw [expectMarker_of_fits hdeadline, expectMarker_of_fits (o := o.project f) hdeadline, project_seek C]
    rfl

theorem project_drain (timeout : Duration) :
    (o.project f).drain env timeout = (o.drain env' timeout).map id (project f) := by
  cases hdeadline : o.clock.after? timeout with
  | none =>
    rw [drain_of_overflow hdeadline, drain_of_overflow (o := o.project f) hdeadline]
    rfl
  | some deadline =>
    rw [drain_of_fits hdeadline, drain_of_fits (o := o.project f) hdeadline, project_seek C]
    rfl

theorem project_send (target : SignalTarget) (number : Nat) :
    (o.project f).send env target number = (o.send env' target number).map id (project f) := by
  have hsend := C.send o.system target number
  unfold send
  rw [show env.send (o.project f).system target number = _ from hsend]
  rcases env'.send o.system target number with ⟨failure, seen, s⟩
  have hseen := project_seeAll f { o with system := s, sent := o.sent ++ [(target, number)] } seen
  cases failure with
  | none => exact congrArg (Prod.mk (Except.ok ())) hseen.symm
  | some errno => exact congrArg (Prod.mk (Except.error _)) hseen.symm

theorem project_tryWait : (o.project f).tryWait env = (o.tryWait env').map id (project f) := by
  simp only [tryWait, project, C.reap]
  obtain ⟨system, pid, clock, partialLine, unread, readError, capture, status, waitError, transcript, outcome, sawEnd,
    sent⟩ := o
  cases outcome with
  | some outcome => rfl
  | none =>
    cases waitError with
    | some e => rfl
    | none => cases status <;> rfl

theorem project_wait (timeout : Duration) :
    (o.project f).wait env timeout = (o.wait env' timeout).map id (project f) := by
  have hawait : (o.await env' answerable (o.clock.alarm timeout)).project f =
      (o.project f).await env answerable (o.clock.alarm timeout) := project_await C fun _ => rfl
  unfold wait
  rw [show (o.project f).outcome = o.outcome from rfl, show (o.project f).clock = o.clock from rfl, ← hawait,
    project_tryWait C]
  cases o.outcome with
  | some outcome => rfl
  | none => rcases (o.await env' _ _).tryWait env' with ⟨e | _ | outcome, o'⟩ <;> rfl

theorem project_stop (grace : Duration) :
    (o.project f).stop env grace = (o.stop env' grace).map id (project f) := by
  have hasked : ((o.project f).signalGroup env .terminate).2 = ((o.signalGroup env' .terminate).2).project f :=
    congrArg Prod.snd (project_send C (o := o) (.group o.pid) ShutdownSignal.terminate.number)
  unfold stop
  rw [hasked, project_wait C]
  rcases (o.signalGroup env' .terminate).2.wait env' grace with ⟨e | outcome, o'⟩
  · cases e with
    | timeout waitingFor limit =>
      have hkilled : ((o'.project f).send env (.group o'.pid) killNumber).2 =
          (o'.send env' (.group o'.pid) killNumber).2.project f := congrArg Prod.snd (project_send C _ _)
      exact (congrArg (wait env killWait) hkilled).trans (project_wait C killWait)
    | _ => rfl
  · rfl

/-- An observer does not notice what a covering system keeps beside. -/
theorem project_perform (call : Call) : (o.project f).perform env call = (o.perform env' call).map id (project f) := by
  cases call with
  | nextLine timeout => simp only [perform, project_nextLine C]; rfl
  | expectMarker description timeout wanted => simp only [perform, project_expectMarker C]; rfl
  | waitForStartup timeout => simp only [perform, waitForStartup_eq, project_expectMarker C]; rfl
  | drain timeout => simp only [perform, project_drain C]; rfl
  | signal request => exact congrArg (Prod.map Answer.signal id) (project_send C _ _)
  | signalGroup request => exact congrArg (Prod.map Answer.signal id) (project_send C _ _)
  | tryWait => simp only [perform, project_tryWait C]; rfl
  | wait timeout => simp only [perform, project_wait C]; rfl
  | stop grace => simp only [perform, project_stop C]; rfl
  | pause length => exact congrArg (Prod.mk Answer.pause) (project_await C fun _ => rfl).symm

theorem project_performAll (calls : List Call) :
    (o.project f).performAll env calls = (o.performAll env' calls).map id (project f) := by
  induction calls generalizing o with
  | nil => rfl
  | cons call calls ih =>
    have hfirst := project_perform C (o := o) call
    simp only [performAll, hfirst]
    rw [show ((o.perform env' call).map id (project f)).2 = (o.perform env' call).2.project f from rfl, ih]
    rfl

/-- A start is the same, or fails in the same way. -/
theorem project_spawn (launch : Launch) (clock : Instant) (t : τ) :
    spawn env launch clock (f t) = (spawn env' launch clock t).map (project f) := by
  unfold spawn
  rw [C.spawn]
  rcases env'.spawn t launch.command with ⟨e | ⟨pid, captured, seen⟩, t'⟩
  · rfl
  · cases pid with
    | none => rfl
    | some pid =>
      cases captured with
      | false => rfl
      | true =>
        have hseen := project_seeAll f
          { system := t', pid := pid, clock := clock, transcript := { started := clock } } seen
        exact congrArg Except.ok hseen.symm

end Covers

end Observation

end OrderlyExit
