import OrderlyExit.Proofs.Worker.FailStop

/-! The rounds of the idle loop. Its clock jumps to the next tick or to the request, and where both are there either
    may be taken. Each tick is a whole period after the one before, so at one instant no more than one tick can come
    before the request, and the loop ends after a number of rounds that the period bounds. -/

namespace OrderlyExit.Idle

/-! ### Steps -/

/-- Where the loop stands: the clock, when the next tick is due, and how many ticks have been taken. -/
structure Standing where
  now : Nat := 0
  due : Nat := 0
  ticks : Nat := 0

/-- What the loop may do other than take the request: while nothing is there its clock jumps to what comes first, and
a tick that is due may be taken although the request is there as well. -/
inductive Step (tick request : Nat) (s : Standing) : Standing → Prop
  | jump (early : s.now < s.due) (unasked : s.now < request) : Step tick request s { s with now := min s.due request }
  | take (isDue : s.due ≤ s.now) : Step tick request s { s with due := s.now + tick, ticks := s.ticks + 1 }

/-- Where the loop can come to, whatever is taken first. -/
inductive Reaches (tick request : Nat) : Standing → Prop
  | start : Reaches tick request {}
  | step {s t : Standing} (h : Reaches tick request s) (hs : Step tick request s t) : Reaches tick request t

variable {tick request : Nat} {s t : Standing}

/-- A clock that is neither past the request nor past the next tick, and ticks that are whole periods apart. -/
structure OnTime (tick request : Nat) (s : Standing) : Prop where
  unpassed : s.now ≤ request
  now_le_due : s.now ≤ s.due
  due_le : s.due ≤ s.now + tick
  due_eq : s.due = s.ticks * tick

theorem OnTime.step (h : OnTime tick request s) (hs : Step tick request s t) : OnTime tick request t := by
  obtain ⟨hunpassed, hnow, hdue, hticks⟩ := h
  cases hs with
  | jump early unasked =>
    have hlater : s.now ≤ min s.due request := by omega
    exact ⟨Nat.min_le_right _ _, Nat.min_le_left _ _, Nat.le_trans hdue (Nat.add_le_add_right hlater tick), hticks⟩
  | take isDue =>
    -- the tick is taken at the very instant it is due
    have hinstant : s.now = s.ticks * tick := by omega
    refine ⟨hunpassed, Nat.le_add_right _ _, Nat.le_refl _, ?_⟩
    rw [Nat.succ_mul, ← hinstant]

theorem Reaches.onTime (h : Reaches tick request s) : OnTime tick request s := by
  induction h with
  | start => exact ⟨Nat.zero_le _, Nat.le_refl _, Nat.zero_le _, (Nat.zero_mul tick).symm⟩
  | step _ hs ih => exact ih.step hs

/-- The ticks that have been taken lie a period apart and no later than the request. -/
theorem OnTime.ticks_le (h : OnTime tick request s) (positive : 0 < tick) : s.ticks ≤ request / tick + 1 := by
  have hspan : s.ticks * tick ≤ request + tick := by
    have := h.unpassed
    have := h.due_le
    have := h.due_eq
    omega
  calc s.ticks
    _ ≤ (request + tick) / tick := (Nat.le_div_iff_mul_le positive).mpr hspan
    _ = request / tick + 1 := Nat.add_div_right request positive

theorem exists_step_of_lt (h : s.now < request) : ∃ t, Step tick request s t := by
  by_cases hdue : s.due ≤ s.now
  · exact ⟨_, .take hdue⟩
  · exact ⟨_, .jump (Nat.not_le.mp hdue) h⟩

/-- Twice the time until the request, and one more while a tick is due. -/
def ahead (request : Nat) (s : Standing) : Nat := 2 * (request - s.now) + if s.due ≤ s.now then 1 else 0

theorem ahead_lt (positive : 0 < tick) (hs : Step tick request s t) : ahead request t < ahead request s := by
  cases hs with
  | jump early unasked =>
    simp only [ahead, Nat.not_le.mpr early, ↓reduceIte]
    split <;> omega
  | take isDue =>
    have hnext : ¬s.now + tick ≤ s.now := by omega
    simp only [ahead, isDue, hnext, ↓reduceIte]
    omega

/-- No loop goes on for ever. -/
theorem wellFounded_step (positive : 0 < tick) (request : Nat) :
    WellFounded fun t s : Standing => Step tick request s t :=
  Subrelation.wf (ahead_lt positive) (measure (ahead request)).wf

/-! ### Choices -/

/-- The clock of a round is that of a standing that the loop comes to. -/
theorem Reaches.instant {now due ticks : Nat} (h : Reaches tick request ⟨now, due, ticks⟩) :
    Reaches tick request ⟨Idle.instant request now due, due, ticks⟩ := by
  have hunpassed : now ≤ request := h.onTime.unpassed
  have hnow : now ≤ due := h.onTime.now_le_due
  by_cases hready : now < due ∧ now < request
  · have hjump : Idle.instant request now due = min due request := by
      unfold Idle.instant
      omega
    rw [hjump]
    exact .step h (.jump hready.1 hready.2)
  · have hstay : Idle.instant request now due = now := by
      unfold Idle.instant
      omega
    rwa [hstay]

/-- Whatever is chosen in each round, the loop takes steps up to the request and then takes that. -/
theorem reaches_loop (positive : 0 < tick) (tickFirst : Nat → Bool) {round now due : Nat}
    (h : Reaches tick request ⟨now, due, round⟩) :
    ∃ last, Reaches tick request last ∧ last.now = request ∧
      loop tick request positive tickFirst round now due = ⟨request, last.ticks + 1⟩ := by
  fun_induction loop tick request positive tickFirst round now due with
  | case1 round now due next htick ih => exact ih (.step h.instant (.take htick.1))
  | case2 round now due next hno =>
    have hnext : next = request := instant_eq_of_not_takesTick h.onTime.unpassed hno
    exact ⟨_, h.instant, hnext, by rw [hnext]⟩

/-- A loop that prefers its first `k` ticks takes just these, if they are as many as may come before the request. -/
theorem loop_of_preferred (positive : 0 < tick) {k : Nat} (hlow : request ≤ k * tick) (hhigh : k * tick ≤ request + tick)
    {round now due : Nat} (hround : round ≤ k) (hdue : due = round * tick) (hnow : now ≤ due) (hunpassed : now ≤ request) :
    loop tick request positive (fun n => decide (n < k)) round now due = ⟨request, k + 1⟩ := by
  fun_induction loop tick request positive (fun n => decide (n < k)) round now due with
  | case1 round now due next htick ih =>
    obtain ⟨hready, hfirst⟩ := htick
    have hnext : next = round * tick := by
      show Idle.instant request now due = _
      unfold Idle.instant at hready ⊢
      omega
    have hlt : round < k := by
      rcases hfirst with hearly | hpreferred
      · refine Nat.lt_of_mul_lt_mul_right (a := tick) ?_
        rw [← hnext]
        exact Nat.lt_of_lt_of_le hearly hlow
      · exact of_decide_eq_true hpreferred
    refine ih hlt ?_ (Nat.le_add_right _ _) (instant_le hunpassed)
    rw [Nat.succ_mul, hnext]
  | case2 round now due next hno =>
    have hnext : next = request := instant_eq_of_not_takesTick hunpassed hno
    have hall : round = k := by
      refine Nat.le_antisymm hround (Nat.not_lt.mp fun hlt => hno ⟨?_, .inr (decide_eq_true hlt)⟩)
      -- a tick before the last one is due by the request
      have hsucc : (round + 1) * tick ≤ k * tick := Nat.mul_le_mul_right tick hlt
      rw [Nat.succ_mul] at hsucc
      have : Idle.instant request now due = request := hnext
      omega
    rw [hnext, hall]

/-- Every end that the loop can come to is that of some choices. -/
theorem exists_run_of_reaches (positive : 0 < tick) (h : Reaches tick request s) (hasked : request ≤ s.now) :
    ∃ tickFirst, run tick request positive tickFirst = ⟨request, s.ticks + 1⟩ := by
  obtain ⟨hunpassed, hnow, hdue, hticks⟩ := h.onTime
  exact ⟨_, loop_of_preferred positive (by omega) (by omega) (Nat.zero_le _) (Nat.zero_mul tick).symm (Nat.le_refl _)
    (Nat.zero_le _)⟩

end OrderlyExit.Idle

namespace OrderlyExit.Session

open Idle (Standing Step Reaches)

variable {σ : Type}

/-- Idling ends with the request, at the very instant at which it comes, and returns its signal; it lets nothing out.
It takes at most one round more than there are ticks up to then, and those are at most one more than the periods that
fit in. This is so whatever is taken first of a tick and a request of one instant: no such loop goes on for ever, none
is stuck before the request, none goes past it, and every one of them is that of some choices. -/
theorem idle_ends_at_request (env : Surroundings σ) {tick : Nat} (positive : 0 < tick) (after : Nat)
    (signal : ShutdownSignal) (s : Session σ) :
    let request := waitTime after
    let idled := s.perform (idle env tick (.after after signal))
    let loop := Idle.run tick request positive env.tickFirst
    (idled.1 = .ok signal ∧ idled.2.clock = s.clock + loop.elapsed ∧ idled.2.outlet = s.outlet) ∧
    loop.elapsed = request ∧ loop.rounds ≤ request / tick + 2 ∧
    (∃ last, Reaches tick request last ∧ last.now = loop.elapsed ∧ last.ticks + 1 = loop.rounds) ∧
    (WellFounded fun t u : Standing => Step tick request u t) ∧
    ∀ u, Reaches tick request u → u.ticks ≤ request / tick + 1 ∧
      (u.now < request → ∃ t, Step tick request u t) ∧
      (request ≤ u.now → ∃ tickFirst, Idle.run tick request positive tickFirst = ⟨u.now, u.ticks + 1⟩) := by
  intro request idled loop
  obtain ⟨last, hlast, hnow, hloop⟩ := Idle.reaches_loop positive env.tickFirst (.start : Reaches tick request {})
  have hrun : loop = ⟨request, last.ticks + 1⟩ := hloop
  have helapsed : loop.elapsed = request := congrArg Idle.Result.elapsed hrun
  have hrounds : loop.rounds = last.ticks + 1 := congrArg Idle.Result.rounds hrun
  have hidled : idled = (.ok signal, s.later env request) := perform_idle_after s env positive after signal
  refine ⟨?_, helapsed, ?_, ⟨last, hlast, hnow.trans helapsed.symm, hrounds.symm⟩,
    Idle.wellFounded_step positive request,
    fun u hu => ⟨hu.onTime.ticks_le positive, Idle.exists_step_of_lt, fun hasked => ?_⟩⟩
  · rw [hidled, helapsed]
    exact ⟨rfl, rfl, rfl⟩
  · rw [hrounds]
    exact Nat.succ_le_succ (hlast.onTime.ticks_le positive)
  · rw [Nat.le_antisymm hu.onTime.unpassed hasked]
    exact Idle.exists_run_of_reaches positive hu hasked

/-- The third tick after the first comes with the request, and even if it is taken before that the loop ends there. -/
theorem idle_ends_at_request_tie :
    let env : Surroundings SinkScript.State := { Worker.calm with tickFirst := fun _ => true }
    let s : Session SinkScript.State := { clock := 5, outlet := { state := {} } }
    let idled := s.perform (idle env 7 (.after 21 .interrupt))
    ∃ positive : 0 < 7, idled.1 = .ok .interrupt ∧ idled.2.clock = 26 ∧ idled.2.outlet.flushed = [] ∧
      (Idle.run 7 21 positive env.tickFirst).rounds ≤ 5 := by
  intro env s idled
  have positive : 0 < 7 := by decide
  obtain ⟨⟨hresult, hclock, houtlet⟩, helapsed, hrounds, -⟩ := idle_ends_at_request env positive 21 .interrupt s
  refine ⟨positive, hresult, ?_, congrArg Outlet.flushed houtlet, hrounds⟩
  rw [hclock, helapsed]
  decide

/-- A request that is more than thirty years away ends the loop before its time, by a millisecond here. -/
theorem idle_cut_short :
    let s : Session SinkScript.State := { outlet := { state := {} } }
    let idled := s.perform (idle Worker.calm 18446744073709551615 (.after 946080000001 .interrupt))
    idled.1 = .ok .interrupt ∧ idled.2.clock < 946080000001 := by
  intro s idled
  have hidled : idled = (.ok .interrupt, s.later Worker.calm (waitTime 946080000001)) :=
    perform_idle_after s Worker.calm (by decide) 946080000001 .interrupt
  rw [hidled]
  exact ⟨rfl, by decide⟩

end OrderlyExit.Session
