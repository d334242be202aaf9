import OrderlyExit.Observer.Observation

/-! Waiting. A wait is made of sightings and of time that passes, so it keeps what these keep; that is the one
    induction on it. Only the observer reads lines, sends signals and takes note of an end, and a wait does none of
    that; and its clock does not go beyond its limit. -/

namespace OrderlyExit.Observation

universe u
variable {σ : Type u} {env : System σ} {enough : Observation σ → Bool} {limit : Instant} {o o' o'' : Observation σ}

/-- What sightings and the passing of time up to a limit keep, a wait up to that limit keeps. -/
theorem await_keeps {P : Observation σ → Prop} (hsee : ∀ o x, P o → P (o.see x))
    (hpass : ∀ o s time, o.clock.nanos < time.nanos → time.nanos ≤ limit.nanos → P o →
      P { o with system := s, clock := time })
    (h : P o) : P (o.await env enough limit) := by
  have hseeAll (seen : List Sighting) : ∀ o, P o → P (o.seeAll seen) := by
    induction seen with
    | nil => exact fun o h => h
    | cons x seen ih => exact fun o h => ih (o.see x) (hsee o x h)
  fun_induction await env enough limit o with
  | case1 => exact h
  | case2 o _ hlt time seen s _ hle ih => exact ih (hseeAll seen _ (hpass o s time hle.1 hle.2 h))
  | case3 o _ hlt time seen s _ _ => exact hpass o s limit hlt (Int.le_refl _) h
  | case4 o _ hlt s _ => exact hpass o s limit hlt (Int.le_refl _) h
  | case5 => exact h

theorem await_of_enough (h : enough o = true) : o.await env enough limit = o := by
  rw [await, if_pos h]

theorem nanos_alarm (i : Instant) (d : Duration) :
    (i.alarm d).nanos = i.nanos + min d.nanos Instant.farAhead.nanos := rfl

/-- A wait goes on from the next moment at which something is seen. -/
theorem await_of_advance {time : Instant} {seen : List Sighting} {s : σ} (h : enough o = false)
    (hadvance : env.advance o.system o.clock limit = (some (time, seen), s)) (hlt : o.clock.nanos < time.nanos)
    (hle : time.nanos ≤ limit.nanos) :
    o.await env enough limit = ({ o with system := s, clock := time }.seeAll seen).await env enough limit := by
  have hlimit : o.clock.nanos < limit.nanos := Int.lt_of_lt_of_le hlt hle
  rw [await, h, hadvance]
  simp [hlimit, hlt, hle]

/-- Where nothing is seen up to its limit, a wait takes all its time. -/
theorem await_of_quiet {next : Option (Instant × List Sighting)} {s : σ} (h : enough o = false)
    (hlt : o.clock.nanos < limit.nanos) (hadvance : env.advance o.system o.clock limit = (next, s))
    (hquiet : ∀ time seen, next = some (time, seen) → ¬(o.clock.nanos < time.nanos ∧ time.nanos ≤ limit.nanos)) :
    o.await env enough limit = { o with system := s, clock := limit } := by
  rw [await, h, hadvance]
  simp only [Bool.false_eq_true, ↓reduceIte, hlt]
  rcases next with _ | ⟨time, seen⟩
  · rfl
  · exact if_neg (hquiet time seen rfl)

/-- A wait whose limit is over changes nothing. -/
theorem await_of_over (h : ¬o.clock.nanos < limit.nanos) : o.await env enough limit = o := by
  rw [await, if_neg h, ite_self]

/-- A wait ends with enough, or not before its limit. -/
theorem enough_or_le_await (env : System σ) (enough : Observation σ → Bool) (limit : Instant) (o : Observation σ) :
    enough (o.await env enough limit) = true ∨ limit.nanos ≤ (o.await env enough limit).clock.nanos := by
  fun_induction await env enough limit o with
  | case1 o h => exact Or.inl h
  | case2 o _ hlt time seen s _ hle ih => exact ih
  | case3 | case4 => exact Or.inr (Int.le_refl _)
  | case5 o _ hlt => exact Or.inr (Int.not_lt.mp hlt)

/-! ### What is left to the observer -/

/-- Nothing has been read, sent or noted from `o` to `o'`. -/
structure Passive (o o' : Observation σ) : Prop where
  pid : o'.pid = o.pid
  transcript : o'.transcript = o.transcript
  outcome : o'.outcome = o.outcome
  sawEnd : o'.sawEnd = o.sawEnd
  sent : o'.sent = o.sent

theorem Passive.refl (o : Observation σ) : Passive o o := ⟨rfl, rfl, rfl, rfl, rfl⟩

theorem Passive.trans (h : Passive o o') (h' : Passive o' o'') : Passive o o'' :=
  ⟨h'.pid.trans h.pid, h'.transcript.trans h.transcript, h'.outcome.trans h.outcome, h'.sawEnd.trans h.sawEnd,
    h'.sent.trans h.sent⟩

theorem passive_see (o : Observation σ) (x : Sighting) : Passive o (o.see x) := by
  cases x with
  | waitFailed => exact ⟨rfl, rfl, rfl, rfl, rfl⟩
  | _ => simp only [see]; split <;> exact ⟨rfl, rfl, rfl, rfl, rfl⟩

theorem passive_seeAll (o : Observation σ) (seen : List Sighting) : Passive o (o.seeAll seen) := by
  induction seen generalizing o with
  | nil => exact .refl o
  | cons x seen ih => exact (passive_see o x).trans (ih (o.see x))

theorem passive_await : Passive o (o.await env enough limit) :=
  await_keeps (fun o' x h => h.trans (passive_see o' x))
    (fun _ _ _ _ _ h => h.trans ⟨rfl, rfl, rfl, rfl, rfl⟩) (.refl o)

/-- A program that could be started is observed from what is seen at once. -/
theorem spawn_eq_ok {launch : Launch} {clock : Instant} {s : σ} (h : spawn env launch clock s = .ok o) :
    ∃ s' pid seen, o = ({ system := s', pid := pid, clock := clock, transcript := { started := clock } } :
      Observation σ).seeAll seen := by
  unfold spawn at h
  split at h
  · cases h
  · rename_i started s' _
    split at h
    · cases h
    · rename_i pid _
      split at h
      · exact ⟨s', pid, started.seen, (Except.ok.inj h).symm⟩
      · cases h

/-- A program that has just been started has been read of nothing, and nothing has been sent to it or noted. -/
theorem passive_spawn {launch : Launch} {clock : Instant} {s : σ} (h : spawn env launch clock s = .ok o) :
    Passive { system := o.system, pid := o.pid, clock := o.clock, transcript := { started := clock } } o := by
  obtain ⟨s', pid, seen, rfl⟩ := spawn_eq_ok h
  have hseen := passive_seeAll
    ({ system := s', pid := pid, clock := clock, transcript := { started := clock } } : Observation σ) seen
  exact { hseen with pid := rfl }

/-! ### The clock -/

/-- A wait takes time up to its limit at most, and none at all if that is over. -/
theorem clock_await_le : (o.await env enough limit).clock.nanos ≤ max o.clock.nanos limit.nanos := by
  refine await_keeps (P := fun o' => o'.clock.nanos ≤ max o.clock.nanos limit.nanos) (fun o' x h => ?_)
    (fun o' s time _ hle _ => Int.le_trans hle (Int.le_max_right _ _)) (Int.le_max_left _ _)
  rw [clock_see]
  exact h

theorem clock_le_await : o.clock.nanos ≤ (o.await env enough limit).clock.nanos := by
  refine await_keeps (P := fun o' => o.clock.nanos ≤ o'.clock.nanos) (fun o' x h => ?_)
    (fun o' s time hlt _ h => Int.le_trans h (Int.le_of_lt hlt)) (Int.le_refl _)
  rw [clock_see]
  exact h

/-! ### Sound observations -/

/-- What has arrived by now: the lines that wait to be read, and the end of the program if it has been noted. -/
structure Sound (o : Observation σ) : Prop where
  unread : ∀ l ∈ o.unread, l.stamp.nanos ≤ o.clock.nanos
  outcome : ∀ outcome, o.outcome = some outcome → ∃ status, o.status = some status ∧ outcome = status.outcome

theorem Sound.see (h : o.Sound) (x : Sighting) : (o.see x).Sound := by
  have harrive (texts : List String) : ∀ l ∈ (o.arrive texts).unread, l.stamp.nanos ≤ o.clock.nanos := by
    intro l hl
    rcases List.mem_append.mp hl with hl | hl
    · exact h.unread l hl
    · obtain ⟨text, -, rfl⟩ := List.mem_map.mp hl
      exact Int.le_refl _
  cases x with
  | output bytes =>
    simp only [Observation.see]
    split
    · exact ⟨harrive _, h.outcome⟩
    · exact h
  | closed =>
    simp only [Observation.see]
    split
    · exact ⟨harrive _, h.outcome⟩
    · exact h
  | readFailed e =>
    simp only [Observation.see]
    split
    · exact ⟨h.unread, h.outcome⟩
    · exact h
  | ended status =>
    simp only [Observation.see]
    split
    · exact h
    · rename_i hstatus
      refine ⟨h.unread, fun outcome hout => ?_⟩
      -- an end that has been noted would have been seen before
      obtain ⟨status, hsome, -⟩ := h.outcome outcome hout
      exact absurd (Option.isSome_iff_exists.mpr ⟨status, hsome⟩) hstatus
  | waitFailed e => exact ⟨h.unread, h.outcome⟩

theorem Sound.seeAll (h : o.Sound) (seen : List Sighting) : (o.seeAll seen).Sound := by
  induction seen generalizing o with
  | nil => exact h
  | cons x seen ih => exact ih (h.see x)

theorem Sound.later (h : o.Sound) (s : σ) {time : Instant} (hle : o.clock.nanos ≤ time.nanos) :
    Sound { o with system := s, clock := time } :=
  ⟨fun l hl => Int.le_trans (h.unread l hl) hle, h.outcome⟩

theorem Sound.await (h : o.Sound) : (o.await env enough limit).Sound :=
  await_keeps (fun _ x h => h.see x) (fun _ s _ hlt _ h => h.later s (Int.le_of_lt hlt)) h

end OrderlyExit.Observation
