import OrderlyExit.Proofs.Marker.Wire
import OrderlyExit.Proofs.Observer.Waiting

/-! Reading. Every line that is read goes to the end of the transcript, whatever it is read for; reading for a line
    that is wanted ends with the first one, at the end of the output, at its limit, or where the system fails. -/

namespace OrderlyExit.Observation

universe u
variable {σ : Type u} {env : System σ} {limit deadline : Instant} {o o' o'' : Observation σ}
  {ls ls' : List ObservedLine}

/-! ### Lines that are read -/

/-- The lines `ls` have been read from `o` to `o'`, up to a limit, and nothing else has been done. -/
structure Read (limit : Instant) (o : Observation σ) (ls : List ObservedLine) (o' : Observation σ) : Prop where
  pid : o'.pid = o.pid
  lines : o'.transcript.lines = o.transcript.lines ++ ls
  outcome : o'.outcome = o.outcome
  sent : o'.sent = o.sent
  clock_le : o'.clock.nanos ≤ max o.clock.nanos limit.nanos
  le_clock : o.clock.nanos ≤ o'.clock.nanos
  sound : o.Sound → o'.Sound
  /-- They had arrived by then. -/
  stamps : o.Sound → ∀ l ∈ ls, l.stamp.nanos ≤ o'.clock.nanos

theorem Read.trans (h : Read limit o ls o') (h' : Read limit o' ls' o'') : Read limit o (ls ++ ls') o'' where
  pid := h'.pid.trans h.pid
  lines := by rw [h'.lines, h.lines, List.append_assoc]
  outcome := h'.outcome.trans h.outcome
  sent := h'.sent.trans h.sent
  clock_le := Int.le_trans h'.clock_le (Int.max_le.mpr ⟨h.clock_le, Int.le_max_right _ _⟩)
  le_clock := Int.le_trans h.le_clock h'.le_clock
  sound hs := h'.sound (h.sound hs)
  stamps hs l hl := by
    rcases List.mem_append.mp hl with hl | hl
    · exact Int.le_trans (h.stamps hs l hl) h'.le_clock
    · exact h'.stamps (h.sound hs) l hl

/-- A wait for something to read reads nothing. -/
theorem Read.await : Read limit o [] (o.await env readable limit) where
  pid := passive_await.pid
  lines := by rw [passive_await.transcript, List.append_nil]
  outcome := passive_await.outcome
  sent := passive_await.sent
  clock_le := clock_await_le
  le_clock := clock_le_await
  sound := Sound.await
  stamps _ := List.forall_mem_nil _

theorem Read.refl (limit : Instant) (o : Observation σ) : Read limit o [] o where
  pid := rfl
  lines := (List.append_nil _).symm
  outcome := rfl
  sent := rfl
  clock_le := Int.le_max_left _ _
  le_clock := Int.le_refl _
  sound := id
  stamps _ := List.forall_mem_nil _

theorem Read.mono {later : Instant} (h : Read limit o ls o') (hle : limit.nanos ≤ max o.clock.nanos later.nanos) :
    Read later o ls o' :=
  { h with clock_le := Int.le_trans h.clock_le (Int.max_le.mpr ⟨Int.le_max_left _ _, hle⟩) }

/-- What reading the next line comes to: the end that has been met before; or after a wait a line, a failure, the end of
the output, or nothing in time. -/
theorem nextLine_cases (env : System σ) (timeout : Duration) (o : Observation σ) :
    o.sawEnd = true ∧ o.nextLine env timeout = (.ok none, o) ∨
    o.sawEnd = false ∧ let a := o.await env readable (o.clock.alarm timeout)
      (∃ l rest, a.unread = l :: rest ∧
        o.nextLine env timeout = (.ok (some l), { a with unread := rest, transcript := a.transcript.push l })) ∨
      (∃ e, a.unread = [] ∧ a.readError = some e ∧
        o.nextLine env timeout = (.error (.io e), { a with readError := none })) ∨
      a.unread = [] ∧ a.readError = none ∧
        (a.capture ≠ .running ∧ o.nextLine env timeout = (.ok none, { a with sawEnd := true }) ∨
          a.capture = .running ∧ o.nextLine env timeout = (.error (.timeout "next output line" timeout), a)) := by
  unfold nextLine
  split
  · rename_i hsaw
    exact Or.inl ⟨hsaw, rfl⟩
  · rename_i hsaw
    refine Or.inr ⟨Bool.eq_false_iff.mpr hsaw, ?_⟩
    generalize o.await env readable (o.clock.alarm timeout) = a
    simp only
    cases hunread : a.unread with
    | cons l rest => exact Or.inl ⟨l, rest, rfl, rfl⟩
    | nil =>
      cases hfailed : a.readError with
      | some e => exact Or.inr (Or.inl ⟨e, rfl, rfl, rfl⟩)
      | none =>
        refine Or.inr (Or.inr ⟨rfl, rfl, ?_⟩)
        by_cases hrunning : a.capture = .running
        · exact Or.inr ⟨hrunning, if_pos hrunning⟩
        · exact Or.inl ⟨hrunning, if_neg hrunning⟩

/-- The lines that a reading has handed out. -/
def handed : Except ObserverError (Option ObservedLine) → List ObservedLine
  | .ok (some l) => [l]
  | .ok none | .error _ => []

theorem read_nextLine (env : System σ) (timeout : Duration) (o : Observation σ) :
    Read (o.clock.alarm timeout) o (handed (o.nextLine env timeout).1) (o.nextLine env timeout).2 := by
  have hwait := @Read.await σ env (o.clock.alarm timeout) o
  rcases nextLine_cases env timeout o with ⟨-, hnext⟩ | ⟨-, ⟨l, rest, hunread, hnext⟩ | ⟨e, -, -, hnext⟩ |
    ⟨-, -, ⟨-, hnext⟩ | ⟨-, hnext⟩⟩⟩
  -- the end of the output has been met before, and nothing is done
  · rw [hnext]
    exact .refl _ o
  -- the wait has read nothing, so the line is the only one
  · rw [hnext]
    refine { hwait with lines := ?_, sound := fun hs => ?_, stamps := fun hs x hx => ?_ }
    · exact congrArg (· ++ [l]) (hwait.lines.trans (List.append_nil _))
    · have hsound := hwait.sound hs
      exact ⟨fun x hx => hsound.unread x (hunread ▸ List.mem_cons_of_mem l hx), hsound.outcome⟩
    · obtain rfl := List.mem_singleton.mp hx
      exact (hwait.sound hs).unread x (hunread ▸ List.mem_cons_self)
  · rw [hnext]
    exact { hwait with sound := fun hs => ⟨(hwait.sound hs).unread, (hwait.sound hs).outcome⟩ }
  · rw [hnext]
    exact { hwait with sound := fun hs => ⟨(hwait.sound hs).unread, (hwait.sound hs).outcome⟩ }
  · rw [hnext]
    exact hwait

/-- A reading in the time that is left before a deadline reads up to the deadline. -/
theorem read_of_nextLine {r : Except ObserverError (Option ObservedLine)}
    (h : o.nextLine env (deadline.since o.clock) = (r, o')) : Read deadline o (handed r) o' := by
  have hread := read_nextLine env (deadline.since o.clock) o
  rw [h] at hread
  exact hread.mono (alarm_since_le o.clock deadline)

/-! ### Lines that are wanted -/

/-- What reading up to a wanted line comes to: the lines before are unwanted, and they have all been read. -/
theorem seek_spec (env : System σ) (deadline : Instant) (wanted : ObservedLine → Bool) (o : Observation σ) :
    ∃ ls, (∀ l ∈ ls, wanted l = false) ∧
      Read deadline o (ls ++ handed (o.seek env deadline wanted).1) (o.seek env deadline wanted).2 ∧
      ∀ l, (o.seek env deadline wanted).1 = .ok (some l) → wanted l = true := by
  fun_induction seek env deadline wanted o with
  | case1 o l o' h hw =>
    refine ⟨[], List.forall_mem_nil _, read_of_nextLine h, fun l' hl => ?_⟩
    obtain rfl := Option.some.inj (Except.ok.inj hl)
    exact hw
  | case2 o l o' h hw ih =>
    obtain ⟨ls, hunwanted, hseek, hfound⟩ := ih
    refine ⟨l :: ls, ?_, (read_of_nextLine h).trans hseek, hfound⟩
    exact List.forall_mem_cons.mpr ⟨Bool.eq_false_iff.mpr hw, hunwanted⟩
  | case3 o o' h => exact ⟨[], List.forall_mem_nil _, read_of_nextLine h, fun l hl => by cases hl⟩
  | case4 o e o' h => exact ⟨[], List.forall_mem_nil _, read_of_nextLine h, fun l hl => by cases hl⟩

theorem seek_of_line {l : ObservedLine} (h : o.nextLine env (deadline.since o.clock) = (.ok (some l), o'))
    (wanted : ObservedLine → Bool) :
    o.seek env deadline wanted = if wanted l then (.ok (some l), o') else o'.seek env deadline wanted := by
  rw [seek]
  split <;> rename_i h' <;> cases h.symm.trans h'
  rfl

theorem seek_of_end (h : o.nextLine env (deadline.since o.clock) = (.ok none, o')) (wanted : ObservedLine → Bool) :
    o.seek env deadline wanted = (.ok none, o') := by
  rw [seek]
  split <;> rename_i h' <;> cases h.symm.trans h'
  rfl

theorem seek_of_error {e : ObserverError} (h : o.nextLine env (deadline.since o.clock) = (.error e, o'))
    (wanted : ObservedLine → Bool) : o.seek env deadline wanted = (.error e, o') := by
  rw [seek]
  split <;> rename_i h' <;> cases h.symm.trans h'
  rfl

/-! ### What reading answers -/

/-- The answer to a caller who reads up to a marker. -/
def markerAnswer (description : String) (timeout : Duration) :
    Except ObserverError (Option ObservedLine) → Except Fault ObservedLine
  | .ok (some l) => .ok l
  | .ok none => .error (.failed (.streamClosed description))
  | .error (.timeout _ _) => .error (.failed (.timeout description timeout))
  | .error e => .error (.failed e)

theorem markerAnswer_eq_ok {description : String} {timeout : Duration}
    {r : Except ObserverError (Option ObservedLine)} {l : ObservedLine}
    (h : markerAnswer description timeout r = .ok l) :
    r = .ok (some l) ∧ handed r = [l] := by
  rcases r with e | _ | l'
  · cases e <;> cases h
  · cases h
  · obtain rfl : l' = l := Except.ok.inj h
    exact ⟨rfl, rfl⟩

/-- The answer to a caller who reads all that is left. -/
def drainAnswer : Except ObserverError (Option ObservedLine) → Except Fault Bool
  | .ok _ => .ok true
  | .error (.timeout _ _) => .ok false
  | .error e => .error (.failed e)

/-- The answer to a caller who wants the process id of a startup. -/
def startupPid (result : Except Fault ObservedLine) : Except Fault UInt32 :=
  match result with
  | .error e => .error e
  | .ok l =>
    match l.marker with
    | some (.processStarted pid) => .ok pid
    | _ => .error (.failed (.streamClosed "PROCESS_STARTED_PID"))

theorem expectMarker_of_fits {timeout : Duration} (fits : o.clock.after? timeout = some deadline)
    (env : System σ) (description : String) (wanted : Marker → Bool) :
    o.expectMarker env description timeout wanted =
      (o.seek env deadline fun l => l.marker.any wanted).map (markerAnswer description timeout) id := by
  simp only [expectMarker, fits]
  rcases o.seek env deadline (fun l => l.marker.any wanted) with ⟨e | _ | l, o'⟩
  · cases e <;> rfl
  · rfl
  · rfl

theorem expectMarker_of_overflow {timeout : Duration} (overflow : o.clock.after? timeout = none) (env : System σ)
    (description : String) (wanted : Marker → Bool) :
    o.expectMarker env description timeout wanted = (.error .clockOverflow, o) := by
  simp only [expectMarker, overflow]

theorem waitForStartup_eq (env : System σ) (timeout : Duration) (o : Observation σ) :
    o.waitForStartup env timeout =
      (o.expectMarker env "PROCESS_STARTED_PID" timeout Marker.isProcessStarted).map startupPid id := by
  unfold waitForStartup startupPid
  rcases o.expectMarker env "PROCESS_STARTED_PID" timeout Marker.isProcessStarted with ⟨_ | l, o'⟩
  · rfl
  · simp only [Prod.map]
    rcases l.marker with _ | (_ | _ | _ | _) <;> rfl

theorem drain_of_fits {timeout : Duration} (fits : o.clock.after? timeout = some deadline) (env : System σ) :
    o.drain env timeout = (o.seek env deadline fun _ => false).map drainAnswer id := by
  simp only [drain, fits]
  rcases o.seek env deadline (fun _ => false) with ⟨e | _ | l, o'⟩
  · cases e <;> rfl
  · rfl
  · rfl

theorem drain_of_overflow {timeout : Duration} (overflow : o.clock.after? timeout = none) (env : System σ) :
    o.drain env timeout = (.error .clockOverflow, o) := by
  simp only [drain, overflow]

/-! ### The startup, and the rest of the output -/

theorem after?_of_le {i : Instant} {d : Duration} (h : (i.plus d).nanos ≤ Instant.last.nanos) :
    i.after? d = some (i.plus d) := if_pos h

theorem isProcessStarted_iff {m : Marker} : m.isProcessStarted = true ↔ ∃ pid, m = .processStarted pid := by
  cases m <;> simp [Marker.isProcessStarted]

/-- The line announces a process. -/
def announces (l : ObservedLine) : Bool := l.marker.any Marker.isProcessStarted

theorem announces_iff {l : ObservedLine} : announces l = true ↔ ∃ pid, l.marker = some (.processStarted pid) := by
  rw [announces, Option.any_eq_true]
  constructor
  · rintro ⟨m, hm, hstarted⟩
    obtain ⟨pid, rfl⟩ := isProcessStarted_iff.mp hstarted
    exact ⟨pid, hm⟩
  · rintro ⟨pid, h⟩
    exact ⟨_, h, rfl⟩

theorem startupPid_of_started {l : ObservedLine} (h : l.marker.any Marker.isProcessStarted = true) :
    ∃ pid, startupPid (.ok l) = .ok pid ∧ l.marker = some (.processStarted pid) := by
  obtain ⟨pid, hpid⟩ := announces_iff.mp h
  exact ⟨pid, by simp only [startupPid, hpid], hpid⟩

/-- Waiting for the startup succeeds exactly if one of the lines that it reads announces a process; and it is this
process. -/
theorem waitForStartup_spec (env : System σ) {timeout : Duration} {o : Observation σ}
    (fits : (o.clock.plus timeout).nanos ≤ Instant.last.nanos) :
    ∃ ls, Read (o.clock.plus timeout) o ls (o.waitForStartup env timeout).2 ∧
      ((∃ pid, (o.waitForStartup env timeout).1 = .ok pid ∧ ∃ l ∈ ls, l.marker = some (.processStarted pid)) ∨
        (∃ e, (o.waitForStartup env timeout).1 = .error (.failed e)) ∧ ∀ l ∈ ls, announces l = false) := by
  obtain ⟨ls, hunwanted, hread, hfound⟩ := seek_spec env (o.clock.plus timeout) announces o
  have hstartup : o.waitForStartup env timeout = (o.seek env (o.clock.plus timeout) announces).map
      (fun r => startupPid (markerAnswer "PROCESS_STARTED_PID" timeout r)) id := by
    rw [waitForStartup_eq, expectMarker_of_fits (after?_of_le fits)]
    rfl
  rw [hstartup]
  rcases hseek : o.seek env (o.clock.plus timeout) announces with ⟨e | _ | l, o'⟩
  · rw [hseek, handed, List.append_nil] at hread
    refine ⟨ls, hread, Or.inr ⟨?_, hunwanted⟩⟩
    cases e <;> exact ⟨_, rfl⟩
  · rw [hseek, handed, List.append_nil] at hread
    exact ⟨ls, hread, Or.inr ⟨⟨_, rfl⟩, hunwanted⟩⟩
  · rw [hseek] at hread hfound
    obtain ⟨pid, hpid, hmarker⟩ := startupPid_of_started (hfound l rfl)
    exact ⟨ls ++ [l], hread, Or.inl ⟨pid, hpid, l, List.mem_append_right _ List.mem_cons_self, hmarker⟩⟩

theorem read_drain (env : System σ) {timeout : Duration} {o : Observation σ}
    (fits : (o.clock.plus timeout).nanos ≤ Instant.last.nanos) :
    ∃ ls, Read (o.clock.plus timeout) o ls (o.drain env timeout).2 := by
  obtain ⟨ls, -, hread, -⟩ := seek_spec env (o.clock.plus timeout) (fun _ => false) o
  rw [drain_of_fits (after?_of_le fits)]
  exact ⟨_, hread⟩

/-! ### Markers that arrive -/

/-- Lines of markers arrive as the texts of these. -/
theorem see_lines (o : Observation σ) (running : o.capture = .running) (hpartial : o.partialLine = {})
    (ms : List Marker) : o.see (.output (ms.flatMap Marker.line)) = o.arrive (ms.map Marker.text) := by
  have hfeed := Marker.feed_lines_append ms []
  rw [List.append_nil] at hfeed
  simp only [see, running, hpartial, hfeed, ↓reduceIte]
  simp [LineBuffer.feed, arrive, hpartial]

/-! ### Closed output -/

theorem nextLine_of_unread {l : ObservedLine} {rest : List ObservedLine} (unseen : o.sawEnd = false)
    (h : o.unread = l :: rest) (env : System σ) (timeout : Duration) :
    o.nextLine env timeout = (.ok (some l), { o with unread := rest, transcript := o.transcript.push l }) := by
  have henough : readable o = true := by simp [readable, h]
  simp [nextLine, unseen, await_of_enough henough, h]

/-- The capture has ended, and all that has arrived has been read. -/
structure Exhausted (o : Observation σ) : Prop where
  stopped : o.capture ≠ .running
  unread : o.unread = []
  readError : o.readError = none

theorem Exhausted.nextLine (h : o.Exhausted) (unseen : o.sawEnd = false) (env : System σ) (timeout : Duration) :
    o.nextLine env timeout = (.ok none, { o with sawEnd := true }) := by
  have henough : readable o = true := by simp [readable, h.stopped]
  simp [Observation.nextLine, unseen, await_of_enough henough, h.unread, h.readError, h.stopped]

/-- The observation in which all that has arrived has been read, and the end of the output after it. -/
def readOut (o : Observation σ) : Observation σ :=
  { o with unread := [], transcript := { o.transcript with lines := o.transcript.lines ++ o.unread }, sawEnd := true }

theorem seek_of_stopped (lines : List ObservedLine) (unseen : o.sawEnd = false) (stopped : o.capture ≠ .running)
    (sound : o.readError = none) (h : o.unread = lines) (env : System σ) (deadline : Instant) :
    o.seek env deadline (fun _ => false) = (.ok none, o.readOut) := by
  induction lines generalizing o with
  | nil =>
    rw [seek_of_end (Exhausted.nextLine ⟨stopped, h, sound⟩ unseen env _)]
    simp [readOut, h]
  | cons l lines ih =>
    rw [seek_of_line (nextLine_of_unread unseen h env _)]
    simp only [Bool.false_eq_true, ↓reduceIte]
    refine (ih (o := { o with unread := lines, transcript := o.transcript.push l }) unseen stopped sound rfl).trans ?_
    simp [readOut, Transcript.push, h]

/-- Of output that has been closed all is read at once. -/
theorem drain_of_closed (env : System σ) {timeout : Duration}
    (fits : (o.clock.plus timeout).nanos ≤ Instant.last.nanos) (unseen : o.sawEnd = false)
    (stopped : o.capture ≠ .running) (sound : o.readError = none) :
    o.drain env timeout = (.ok true, o.readOut) := by
  rw [drain_of_fits (after?_of_le fits), seek_of_stopped o.unread unseen stopped sound rfl]
  rfl

end OrderlyExit.Observation
