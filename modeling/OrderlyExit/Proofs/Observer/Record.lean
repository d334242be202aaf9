import OrderlyExit.Proofs.Observer.Cover

/-! A record of what is seen. A system that remembers all that it shows covers the system itself; and what has been
    read, together with what waits to be read, is at every moment what a reader of that record makes of it. -/

namespace OrderlyExit

universe u
variable {σ : Type u} {env : System σ}

/-! ### Recorded systems -/

/-- A state of a system, with the moment of its observer and all that has been shown so far. -/
structure Recorded (σ : Type u) where
  system : σ
  now : Instant
  shown : List (Instant × Sighting) := []

/-- More is shown at a moment. -/
def Recorded.show (r : Recorded σ) (s : σ) (moment : Instant) (seen : List Sighting) : Recorded σ :=
  { system := s, now := moment, shown := r.shown ++ seen.map (moment, ·) }

/-- The system that remembers what it shows. -/
def System.recorded (env : System σ) : System (Recorded σ) where
  spawn r invocation :=
    match env.spawn r.system invocation with
    | (.ok started, s) => (.ok started, r.show s r.now started.seen)
    | (.error e, s) => (.error e, r.show s r.now [])
  advance r now limit :=
    match env.advance r.system now limit with
    | (some (time, seen), s) =>
      -- an observer ignores what would not move its clock ahead
      if now.nanos < time.nanos ∧ time.nanos ≤ limit.nanos then (some (time, seen), r.show s time seen)
      else (some (time, seen), r.show s limit [])
    | (none, s) => (none, r.show s limit [])
  send r target number :=
    match env.send r.system target number with
    | (failure, seen, s) => (failure, seen, r.show s r.now seen)
  reap r pid := r.show (env.reap r.system pid) r.now []

/-- A recorded system remembers what moves the clock of an observer ahead, and otherwise that all the time passes. -/
theorem advance_recorded_cases {r r' : Recorded σ} {now limit : Instant} {next : Option (Instant × List Sighting)}
    (h : env.recorded.advance r now limit = (next, r')) :
    (∃ time seen s, next = some (time, seen) ∧ (now.nanos < time.nanos ∧ time.nanos ≤ limit.nanos) ∧
      r' = r.show s time seen) ∨
    (∀ time seen, next = some (time, seen) → ¬(now.nanos < time.nanos ∧ time.nanos ≤ limit.nanos)) ∧
      ∃ s, r' = r.show s limit [] := by
  simp only [System.recorded] at h
  generalize env.advance r.system now limit = answer at h
  obtain ⟨_ | ⟨time, seen⟩, s⟩ := answer
  · obtain ⟨rfl, rfl⟩ := Prod.mk.inj h
    exact Or.inr ⟨(fun _ _ hnext => by cases hnext), s, rfl⟩
  · dsimp only at h
    split at h
    · rename_i hle
      obtain ⟨rfl, rfl⟩ := Prod.mk.inj h
      exact Or.inl ⟨time, seen, s, rfl, hle, rfl⟩
    · rename_i hle
      obtain ⟨rfl, rfl⟩ := Prod.mk.inj h
      refine Or.inr ⟨fun time' seen' hnext => ?_, s, rfl⟩
      obtain ⟨rfl, rfl⟩ := Prod.mk.inj (Option.some.inj hnext)
      exact hle

theorem covers_recorded (env : System σ) : env.Covers env.recorded Recorded.system where
  spawn r invocation := by
    simp only [System.recorded]
    rcases env.spawn r.system invocation with ⟨_ | started, s⟩ <;> rfl
  advance r now limit := by
    simp only [System.recorded]
    rcases env.advance r.system now limit with ⟨_ | ⟨time, seen⟩, s⟩
    · rfl
    · dsimp only
      split <;> rfl
  send _ _ _ := rfl
  reap _ _ := rfl

/-! ### Readers -/

/-- What reads the output of a program: the bytes of a line that has not ended, every line so far, and how the capture
stands. -/
structure LineReader where
  held : LineBuffer := {}
  lines : List ObservedLine := []
  capture : Capture := .running

namespace LineReader

/-- Reads what is shown at a moment: a line is stamped then, and the end of the output ends the last one. -/
def take (r : LineReader) (moment : Instant) : Sighting → LineReader
  | .output bytes =>
    if r.capture = .running then
      { r with
        held := (r.held.feed bytes).2
        lines := r.lines ++ (r.held.feed bytes).1.map (ObservedLine.arrive · moment) }
    else r
  | .closed =>
    if r.capture = .running then
      { held := {}, lines := r.lines ++ r.held.finish.map (ObservedLine.arrive · moment), capture := .closed }
    else r
  | .readFailed _ => if r.capture = .running then { r with capture := .broken } else r
  | .ended _ | .waitFailed _ => r

def takeAll (r : LineReader) (shown : List (Instant × Sighting)) : LineReader :=
  shown.foldl (fun r seen => r.take seen.1 seen.2) r

theorem lines_prefix_take (r : LineReader) (moment : Instant) (x : Sighting) : r.lines <+: (r.take moment x).lines := by
  cases x with
  | output bytes | closed =>
    simp only [take]
    split
    · exact List.prefix_append _ _
    · exact List.prefix_rfl
  | readFailed e =>
    simp only [take]
    split <;> exact List.prefix_rfl
  | ended status | waitFailed e => exact List.prefix_rfl

theorem takeAll_append (r : LineReader) (shown more : List (Instant × Sighting)) :
    r.takeAll (shown ++ more) = (r.takeAll shown).takeAll more := List.foldl_append

end LineReader

namespace Observation

/-- The reader that has read what has been read and what waits to be read. -/
def reader (o : Observation σ) : LineReader := ⟨o.partialLine, o.transcript.lines ++ o.unread, o.capture⟩

theorem reader_see (o : Observation σ) (x : Sighting) : (o.see x).reader = o.reader.take o.clock x := by
  cases x with
  | output bytes | closed | readFailed e =>
    by_cases hrunning : o.capture = .running <;> simp [see, LineReader.take, reader, arrive, hrunning]
  | ended status =>
    simp only [see, LineReader.take]
    split <;> rfl
  | waitFailed e => rfl

theorem reader_seeAll (o : Observation σ) (seen : List Sighting) :
    (o.seeAll seen).reader = o.reader.takeAll (seen.map (o.clock, ·)) := by
  induction seen generalizing o with
  | nil => rfl
  | cons x seen ih =>
    rw [List.map_cons, LineReader.takeAll, List.foldl_cons, ← reader_see, ← clock_see o x]
    exact ih (o.see x)

theorem system_see (o : Observation σ) (x : Sighting) : (o.see x).system = o.system := by
  cases x with
  | waitFailed => rfl
  | _ => simp only [see]; split <;> rfl

theorem system_seeAll (o : Observation σ) (seen : List Sighting) : (o.seeAll seen).system = o.system := by
  induction seen generalizing o with
  | nil => rfl
  | cons x seen ih => exact (ih (o.see x)).trans (system_see o x)

/-! ### The account -/

/-- The record of the system is as old as the observation, and the observation has made of it what a reader makes. -/
structure Accounted (o : Observation (Recorded σ)) : Prop where
  now : o.system.now = o.clock
  reader : o.reader = LineReader.takeAll {} o.system.shown

/-- What is shown and seen at a moment is accounted for. -/
theorem Accounted.show {o o' : Observation (Recorded σ)} (h : o.Accounted) {s : σ} (seen : List Sighting)
    (hsystem : o'.system = o.system.show s o'.clock seen) (hreader : o'.reader = o.reader) :
    (o'.seeAll seen).Accounted where
  now := by rw [system_seeAll, clock_seeAll, hsystem]; rfl
  reader := by
    rw [reader_seeAll, system_seeAll, hreader, h.reader, hsystem, Recorded.show, LineReader.takeAll_append]

theorem accounted_await (enough : Observation (Recorded σ) → Bool) (limit : Instant) {o : Observation (Recorded σ)}
    (h : o.Accounted) : (o.await env.recorded enough limit).Accounted := by
  fun_induction await env.recorded enough limit o with
  | case1 => exact h
  | case2 o _ hlt time seen s hadvance hle ih =>
    rcases advance_recorded_cases hadvance with ⟨time', seen', s', hnext, -, rfl⟩ | ⟨hquiet, -⟩
    · obtain ⟨rfl, rfl⟩ := Prod.mk.inj (Option.some.inj hnext)
      exact ih (h.show seen rfl rfl)
    · exact absurd hle (hquiet time seen rfl)
  | case3 o _ hlt time seen s hadvance hle =>
    rcases advance_recorded_cases hadvance with ⟨time', seen', s', hnext, hle', -⟩ | ⟨-, s', rfl⟩
    · obtain ⟨rfl, rfl⟩ := Prod.mk.inj (Option.some.inj hnext)
      exact absurd hle' hle
    · exact h.show [] rfl rfl
  | case4 o _ hlt s hadvance =>
    rcases advance_recorded_cases hadvance with ⟨time', seen', s', hnext, -⟩ | ⟨-, s', rfl⟩
    · cases hnext
    · exact h.show [] rfl rfl
  | case5 => exact h

theorem keeps_accounted (env : System σ) : Keeps env.recorded Accounted where
  await enough limit h := accounted_await enough limit h
  take hunread h := by
    -- a line that is read moves from what waits to what has been read, and the two together stay as they are
    refine ⟨h.now, ?_⟩
    rw [← h.reader]
    simp [reader, Transcript.push, hunread]
  meetEnd _ h := ⟨h.now, h.reader⟩
  send {o} target number h := by
    rw [send_snd]
    exact h.show _ (s := (env.send o.system.system target number).2.2) (by rw [← h.now]; rfl) rfl
  note _ h := h.show [] (by rw [← h.now]; rfl) rfl
  reportRead _ h := ⟨h.now, h.reader⟩
  reportWait h := ⟨h.now, h.reader⟩

/-- What is shown from the start of a program up to the last of some calls. -/
def shown (env : System σ) (launch : Launch) (clock : Instant) (s : σ) (calls : List Call) :
    List (Instant × Sighting) :=
  match spawn env.recorded launch clock { system := s, now := clock } with
  | .ok o => (o.performAll env.recorded calls).2.system.shown
  | .error _ => []

theorem accounted_spawn {launch : Launch} {clock : Instant} {s : σ} {o : Observation (Recorded σ)}
    (h : spawn env.recorded launch clock { system := s, now := clock } = .ok o) : o.Accounted := by
  simp only [spawn, System.recorded] at h
  generalize env.spawn s launch.command = answer at h
  obtain ⟨_ | ⟨_ | pid, _ | _, seen⟩, s'⟩ := answer
  · cases h
  · cases h
  · cases h
  · cases h
  · obtain rfl := Except.ok.inj h
    have hstart : Accounted
        { system := ⟨s, clock, []⟩, pid := pid, clock := clock, transcript := { started := clock } } := ⟨rfl, rfl⟩
    exact hstart.show seen rfl rfl

/-- What has been read and what waits to be read is what a reader makes of all that has been shown. -/
theorem reader_performAll {launch : Launch} {clock : Instant} {s : σ} {o : Observation σ}
    (hspawn : spawn env launch clock s = .ok o) (calls : List Call) :
    (o.performAll env calls).2.reader = LineReader.takeAll {} (shown env launch clock s calls) := by
  have hrecorded : spawn env launch clock s = _ :=
    project_spawn (covers_recorded env) launch clock { system := s, now := clock }
  rw [hspawn] at hrecorded
  unfold shown
  cases hrun : spawn env.recorded launch clock { system := s, now := clock } with
  | error e =>
    rw [hrun] at hrecorded
    cases hrecorded
  | ok r =>
    rw [hrun] at hrecorded
    obtain rfl : o = r.project Recorded.system := Except.ok.inj hrecorded
    rw [project_performAll (covers_recorded env)]
    exact ((keeps_accounted env).performAll calls (accounted_spawn hrun)).reader

end Observation

end OrderlyExit
