import OrderlyExit.Proofs.Observer.Ending
import OrderlyExit.Proofs.Observer.Reading

/-! Calls on an observation, one after another. All calls are made of a few moves, so what these keep every sequence of
    calls keeps; and every call appends to the transcript what it reads, and hands out the last line of that at most. -/

namespace OrderlyExit.Observation

universe u
variable {σ : Type u} {env : System σ} {limit : Instant} {o o' : Observation σ}

/-! ### Calls and answers -/

/-- What a caller can ask of an observation. -/
inductive Call
  | nextLine (timeout : Duration)
  | expectMarker (description : String) (timeout : Duration) (wanted : Marker → Bool)
  | waitForStartup (timeout : Duration)
  | drain (timeout : Duration)
  | signal (request : ShutdownSignal)
  | signalGroup (request : ShutdownSignal)
  | tryWait
  | wait (timeout : Duration)
  | stop (grace : Duration)
  /-- Nothing, while time passes. -/
  | pause (length : Duration)

/-- What a call returns. -/
inductive Answer
  | nextLine (result : Except ObserverError (Option ObservedLine))
  | expectMarker (result : Except Fault ObservedLine)
  | waitForStartup (result : Except Fault UInt32)
  | drain (result : Except Fault Bool)
  | signal (result : Except ObserverError Unit)
  | tryWait (result : Except ObserverError (Option ExitOutcome))
  | wait (result : Except ObserverError ExitOutcome)
  | pause

def perform (env : System σ) (o : Observation σ) : Call → Answer × Observation σ
  | .nextLine timeout => (o.nextLine env timeout).map .nextLine id
  | .expectMarker description timeout wanted => (o.expectMarker env description timeout wanted).map .expectMarker id
  | .waitForStartup timeout => (o.waitForStartup env timeout).map .waitForStartup id
  | .drain timeout => (o.drain env timeout).map .drain id
  | .signal request => (o.signal env request).map .signal id
  | .signalGroup request => (o.signalGroup env request).map .signal id
  | .tryWait => (o.tryWait env).map .tryWait id
  | .wait timeout => (o.wait env timeout).map .wait id
  | .stop grace => (o.stop env grace).map .wait id
  | .pause length => (.pause, o.await env (fun _ => false) (o.clock.alarm length))

def performAll (env : System σ) (o : Observation σ) : List Call → List Answer × Observation σ
  | [] => ([], o)
  | call :: calls =>
    let first := o.perform env call
    let rest := first.2.performAll env calls
    (first.1 :: rest.1, rest.2)

theorem performAll_append (env : System σ) (o : Observation σ) (calls more : List Call) :
    o.performAll env (calls ++ more) =
      ((o.performAll env calls).1 ++ ((o.performAll env calls).2.performAll env more).1,
        ((o.performAll env calls).2.performAll env more).2) := by
  induction calls generalizing o with
  | nil => rfl
  | cons call calls ih => simp only [List.cons_append, performAll, ih]

/-! ### What moves keep -/

/-- The moves of an observation keep `P`: waiting, taking a line that has arrived, meeting the end of the output,
sending a signal, taking note of the end of the program, and reporting a failure to read or to learn of that end. -/
structure Keeps (env : System σ) (P : Observation σ → Prop) : Prop where
  await : ∀ {o} enough limit, P o → P (o.await env enough limit)
  take : ∀ {o l rest}, o.unread = l :: rest → P o → P { o with unread := rest, transcript := o.transcript.push l }
  meetEnd : ∀ {o : Observation σ}, o.Exhausted → P o → P { o with sawEnd := true }
  send : ∀ {o} target number, P o → P (o.send env target number).2
  note : ∀ {o status}, o.status = some status → P o →
    P { o with system := env.reap o.system o.pid, outcome := some status.outcome }
  reportRead : ∀ {o : Observation σ}, o.unread = [] → P o → P { o with readError := none }
  reportWait : ∀ {o}, P o → P { o with waitError := none }

/-- Sightings keep `P`, and it does not depend on the system, the clock, what has been sent, what has been noted and
what the system fails to tell. -/
theorem keeps_of_see {P : Observation σ → Prop} (hsee : ∀ o x, P o → P (o.see x))
    (hframe : ∀ o s clock sent outcome waitError, P o →
      P { o with system := s, clock := clock, sent := sent, outcome := outcome, waitError := waitError })
    (htake : ∀ {o l rest}, o.unread = l :: rest → P o →
      P { o with unread := rest, transcript := o.transcript.push l })
    (hend : ∀ {o : Observation σ}, o.Exhausted → P o → P { o with sawEnd := true })
    (hreport : ∀ {o : Observation σ}, o.unread = [] → P o → P { o with readError := none }) : Keeps env P where
  await _ _ h := await_keeps hsee (fun o s time _ _ h => hframe o s time o.sent o.outcome o.waitError h) h
  take := htake
  meetEnd := hend
  send {o} target number h := by
    rw [send_snd]
    have hstart := hframe o (env.send o.system target number).2.2 o.clock (o.sent ++ [(target, number)]) o.outcome
      o.waitError h
    generalize (env.send o.system target number).2.1 = seen
    exact seen.foldlRecOn see hstart fun o h x _ => hsee o x h
  note {o status} _ h := hframe o _ o.clock o.sent _ o.waitError h
  reportRead := hreport
  reportWait {o} h := hframe o o.system o.clock o.sent o.outcome none h

section Keeps
variable {P : Observation σ → Prop}

theorem Keeps.nextLine (K : Keeps env P) (timeout : Duration) (h : P o) : P (o.nextLine env timeout).2 := by
  have hawait := K.await readable (o.clock.alarm timeout) h
  rcases nextLine_cases env timeout o with ⟨-, hnext⟩ | ⟨-, ⟨l, rest, hunread, hnext⟩ | ⟨e, hunread, -, hnext⟩ |
    ⟨hunread, hsound, ⟨hstopped, hnext⟩ | ⟨-, hnext⟩⟩⟩
  · rw [hnext]
    exact h
  · rw [hnext]
    exact K.take hunread hawait
  · rw [hnext]
    exact K.reportRead hunread hawait
  · rw [hnext]
    exact K.meetEnd ⟨hstopped, hunread, hsound⟩ hawait
  · rw [hnext]
    exact hawait

theorem Keeps.of_nextLine (K : Keeps env P) {timeout : Duration} {r : Except ObserverError (Option ObservedLine)}
    (hnext : o.nextLine env timeout = (r, o')) (h : P o) : P o' := by
  have hkept := K.nextLine timeout h
  rw [hnext] at hkept
  exact hkept

theorem Keeps.seek (K : Keeps env P) (deadline : Instant) (wanted : ObservedLine → Bool) (h : P o) :
    P (o.seek env deadline wanted).2 := by
  fun_induction Observation.seek env deadline wanted o with
  | case1 o l o' hnext hw => exact K.of_nextLine hnext h
  | case2 o l o' hnext hw ih => exact ih (K.of_nextLine hnext h)
  | case3 o o' hnext => exact K.of_nextLine hnext h
  | case4 o e o' hnext => exact K.of_nextLine hnext h

theorem Keeps.expectMarker (K : Keeps env P) (description : String) (timeout : Duration) (wanted : Marker → Bool)
    (h : P o) : P (o.expectMarker env description timeout wanted).2 := by
  cases hdeadline : o.clock.after? timeout with
  | none =>
    rw [expectMarker_of_overflow hdeadline]
    exact h
  | some deadline =>
    rw [expectMarker_of_fits hdeadline]
    exact K.seek deadline _ h

theorem Keeps.waitForStartup (K : Keeps env P) (timeout : Duration) (h : P o) : P (o.waitForStartup env timeout).2 := by
  rw [waitForStartup_eq]
  exact K.expectMarker _ timeout _ h

theorem Keeps.drain (K : Keeps env P) (timeout : Duration) (h : P o) : P (o.drain env timeout).2 := by
  cases hdeadline : o.clock.after? timeout with
  | none =>
    rw [drain_of_overflow hdeadline]
    exact h
  | some deadline =>
    rw [drain_of_fits hdeadline]
    exact K.seek deadline _ h

theorem Keeps.tryWait (K : Keeps env P) (h : P o) : P (o.tryWait env).2 := by
  rcases tryWait_cases env o with ⟨noted, -, htry⟩ | ⟨-, ⟨e, -, htry⟩ | ⟨status, -, hstatus, htry⟩ | ⟨-, -, htry⟩⟩
  · rw [htry]
    exact h
  · rw [htry]
    exact K.reportWait h
  · rw [htry]
    exact K.note hstatus h
  · rw [htry]
    exact h

theorem Keeps.wait (K : Keeps env P) (timeout : Duration) (h : P o) : P (o.wait env timeout).2 := by
  have hawait := K.await answerable (o.clock.alarm timeout) h
  rcases wait_cases env timeout o with ⟨outcome, -, hwait⟩ | ⟨-, ⟨e, -, hwait⟩ | ⟨status, -, hstatus, hwait⟩ |
    ⟨-, -, hwait⟩⟩
  · rw [hwait]
    exact h
  · rw [hwait]
    exact K.reportWait hawait
  · rw [hwait]
    exact K.note hstatus hawait
  · rw [hwait]
    exact hawait

theorem Keeps.stop (K : Keeps env P) (grace : Duration) (h : P o) : P (o.stop env grace).2 := by
  have hwaited := K.wait grace (K.send (.group o.pid) ShutdownSignal.terminate.number h)
  rcases stop_cases env grace o with ⟨-, hstop⟩ | ⟨-, hstop⟩
  · rw [hstop]
    exact hwaited
  · rw [hstop]
    exact K.wait killWait (K.send _ killNumber hwaited)

/-- What moves keep, every call keeps. -/
theorem Keeps.perform (K : Keeps env P) (call : Call) (h : P o) : P (o.perform env call).2 := by
  cases call with
  | nextLine timeout => exact K.nextLine timeout h
  | expectMarker description timeout wanted => exact K.expectMarker description timeout wanted h
  | waitForStartup timeout => exact K.waitForStartup timeout h
  | drain timeout => exact K.drain timeout h
  | signal request => exact K.send _ _ h
  | signalGroup request => exact K.send _ _ h
  | tryWait => exact K.tryWait h
  | wait timeout => exact K.wait timeout h
  | stop grace => exact K.stop grace h
  | pause length => exact K.await _ _ h

theorem Keeps.performAll (K : Keeps env P) (calls : List Call) (h : P o) : P (o.performAll env calls).2 := by
  induction calls generalizing o with
  | nil => exact h
  | cons call calls ih => exact ih (K.perform call h)

end Keeps

/-! ### Lines that calls read -/

/-- The lines that a call may have read, by its answer: the one that it hands out is the last of them. -/
def Answer.Hands : Answer → List ObservedLine → Prop
  | .nextLine (.ok (some l)), read => read = [l]
  | .nextLine (.ok none), read | .nextLine (.error _), read => read = []
  | .expectMarker (.ok l), read => ∃ skipped, read = skipped ++ [l]
  | .waitForStartup (.ok pid), read => ∃ skipped l, read = skipped ++ [l] ∧ l.marker = some (.processStarted pid)
  | .expectMarker (.error _), _ | .waitForStartup (.error _), _ | .drain _, _ => True
  | .signal _, read | .tryWait _, read | .wait _, read | .pause, read => read = []

/-- The lines that a call has read are at the end of the transcript, and they fit its answer. -/
def ReadsBy (o : Observation σ) (answer : Answer) (o' : Observation σ) : Prop :=
  ∃ read, o'.transcript.lines = o.transcript.lines ++ read ∧ answer.Hands read

theorem readsBy_of_idle {answer : Answer} (hidle : answer.Hands []) (h : o'.transcript = o.transcript) :
    ReadsBy o answer o' := ⟨[], by rw [h, List.append_nil], hidle⟩

theorem transcript_tryWait (env : System σ) (o : Observation σ) : (o.tryWait env).2.transcript = o.transcript := by
  rcases tryWait_cases env o with ⟨noted, -, htry⟩ | ⟨-, ⟨e, -, htry⟩ | ⟨status, -, -, htry⟩ | ⟨-, -, htry⟩⟩ <;>
    rw [htry]

theorem readsBy_nextLine (env : System σ) (timeout : Duration) (o : Observation σ) :
    ReadsBy o (.nextLine (o.nextLine env timeout).1) (o.nextLine env timeout).2 := by
  have hread := (read_nextLine env timeout o).lines
  generalize o.nextLine env timeout = next at hread ⊢
  obtain ⟨_ | _ | _, o'⟩ := next <;> exact ⟨_, hread, rfl⟩

/-- A caller who reads up to a marker reads lines that are not wanted, and the wanted one if it comes in time. -/
theorem expectMarker_spec (env : System σ) (description : String) (timeout : Duration) (wanted : Marker → Bool)
    (o : Observation σ) :
    ∃ read, (o.expectMarker env description timeout wanted).2.transcript.lines = o.transcript.lines ++ read ∧
      ∀ l, (o.expectMarker env description timeout wanted).1 = .ok l →
        l.marker.any wanted = true ∧ ∃ skipped, read = skipped ++ [l] := by
  cases hdeadline : o.clock.after? timeout with
  | none =>
    rw [expectMarker_of_overflow hdeadline]
    exact ⟨[], (List.append_nil _).symm, fun l hl => nomatch hl⟩
  | some deadline =>
    rw [expectMarker_of_fits hdeadline]
    obtain ⟨ls, -, hread, hfound⟩ := seek_spec env deadline (fun l => l.marker.any wanted) o
    refine ⟨_, hread.lines, fun l hl => ?_⟩
    obtain ⟨hsought, hskipped⟩ := markerAnswer_eq_ok hl
    exact ⟨hfound l hsought, ls, congrArg (ls ++ ·) hskipped⟩

theorem readsBy_expectMarker (env : System σ) (description : String) (timeout : Duration) (wanted : Marker → Bool)
    (o : Observation σ) :
    ReadsBy o (.expectMarker (o.expectMarker env description timeout wanted).1)
      (o.expectMarker env description timeout wanted).2 := by
  obtain ⟨read, hlines, hhands⟩ := expectMarker_spec env description timeout wanted o
  refine ⟨read, hlines, ?_⟩
  cases hresult : (o.expectMarker env description timeout wanted).1 with
  | error e => trivial
  | ok l => exact (hhands l hresult).2

theorem readsBy_waitForStartup (env : System σ) (timeout : Duration) (o : Observation σ) :
    ReadsBy o (.waitForStartup (o.waitForStartup env timeout).1) (o.waitForStartup env timeout).2 := by
  obtain ⟨read, hlines, hhands⟩ := expectMarker_spec env "PROCESS_STARTED_PID" timeout Marker.isProcessStarted o
  rw [waitForStartup_eq]
  refine ⟨read, hlines, ?_⟩
  generalize o.expectMarker env "PROCESS_STARTED_PID" timeout Marker.isProcessStarted = found at hhands ⊢
  obtain ⟨e | l, o'⟩ := found
  · trivial
  · obtain ⟨hstarted, skipped, hread⟩ := hhands l rfl
    obtain ⟨pid, hpid, hmarker⟩ := startupPid_of_started hstarted
    show Answer.Hands (.waitForStartup (startupPid (.ok l))) read
    rw [hpid]
    exact ⟨skipped, l, hread, hmarker⟩

theorem readsBy_drain (env : System σ) (timeout : Duration) (o : Observation σ) :
    ReadsBy o (.drain (o.drain env timeout).1) (o.drain env timeout).2 := by
  cases hdeadline : o.clock.after? timeout with
  | none =>
    rw [drain_of_overflow hdeadline]
    exact ⟨[], (List.append_nil _).symm, trivial⟩
  | some deadline =>
    rw [drain_of_fits hdeadline]
    obtain ⟨ls, -, hread, -⟩ := seek_spec env deadline (fun _ => false) o
    exact ⟨_, hread.lines, trivial⟩

/-- Every call appends to the transcript what it reads. -/
theorem readsBy_perform (env : System σ) (call : Call) (o : Observation σ) :
    ReadsBy o (o.perform env call).1 (o.perform env call).2 := by
  cases call with
  | nextLine timeout => exact readsBy_nextLine env timeout o
  | expectMarker description timeout wanted => exact readsBy_expectMarker env description timeout wanted o
  | waitForStartup timeout => exact readsBy_waitForStartup env timeout o
  | drain timeout => exact readsBy_drain env timeout o
  | signal request => exact readsBy_of_idle rfl (within_send env _ _ o).transcript
  | signalGroup request => exact readsBy_of_idle rfl (within_send env _ _ o).transcript
  | tryWait => exact readsBy_of_idle rfl (transcript_tryWait env o)
  | wait timeout => exact readsBy_of_idle rfl (within_wait env timeout o).transcript
  | stop grace => exact readsBy_of_idle rfl (within_stop env grace o).transcript
  | pause length => exact readsBy_of_idle rfl passive_await.transcript

/-- What calls have read one after another is what they have appended to the transcript, one piece for each call. -/
theorem reads_performAll (env : System σ) (calls : List Call) (o : Observation σ) :
    ∃ reads, (o.performAll env calls).2.transcript.lines = o.transcript.lines ++ reads.flatten ∧
      List.Forall₂ Answer.Hands (o.performAll env calls).1 reads := by
  induction calls generalizing o with
  | nil => exact ⟨[], (List.append_nil _).symm, .nil⟩
  | cons call calls ih =>
    obtain ⟨read, hlines, hhands⟩ := readsBy_perform env call o
    obtain ⟨reads, hrest, hall⟩ := ih (o.perform env call).2
    refine ⟨read :: reads, ?_, .cons hhands hall⟩
    rw [List.flatten_cons, ← List.append_assoc, ← hlines]
    exact hrest

end OrderlyExit.Observation
