import OrderlyExit.Proofs.Observer.Record

/-! Delivery of lines. Whatever is called, and however often time runs out, what has been read is the beginning of what
    the output has held, with nothing left out; and an end that has been reported is the end of all lines and of all
    reading. -/

namespace OrderlyExit.Observation

universe u
variable {σ : Type u} {env : System σ} {limit : Instant} {o o' : Observation σ} {t : Transcript}

/-! ### The end of the output -/

/-- Nothing arrives once the capture has ended. -/
theorem Exhausted.see (h : o.Exhausted) (x : Sighting) : (o.see x).Exhausted := by
  cases x with
  | output bytes | closed | readFailed e =>
    simp only [Observation.see, h.stopped, ↓reduceIte]
    exact h
  | ended status =>
    simp only [Observation.see]
    split <;> exact ⟨h.stopped, h.unread, h.readError⟩
  | waitFailed e => exact ⟨h.stopped, h.unread, h.readError⟩

/-- All of the output has been read, and it is `t`. -/
structure Over (t : Transcript) (o : Observation σ) : Prop where
  exhausted : o.Exhausted
  transcript : o.transcript = t

/-- After the end of the output nothing is read any more. -/
theorem keeps_over (env : System σ) (t : Transcript) : Keeps env (Over t) :=
  keeps_of_see
    (fun o x h => ⟨h.exhausted.see x, (passive_see o x).transcript.trans h.transcript⟩)
    (fun _ _ _ _ _ _ h => ⟨⟨h.exhausted.stopped, h.exhausted.unread, h.exhausted.readError⟩, h.transcript⟩)
    (fun hunread h => nomatch hunread.symm.trans h.exhausted.unread)
    (fun hexhausted h => ⟨⟨hexhausted.stopped, hexhausted.unread, hexhausted.readError⟩, h.transcript⟩)
    (fun hunread h => ⟨⟨h.exhausted.stopped, hunread, rfl⟩, h.transcript⟩)

/-- A failure waits to be reported only where the capture has been broken, and the end of the output is met only when
all of it has been read. -/
structure Coherent (o : Observation σ) : Prop where
  failure : ∀ e, o.readError = some e → o.capture = .broken
  sawEnd : o.sawEnd = true → o.Exhausted

theorem Coherent.see (h : o.Coherent) (x : Sighting) : (o.see x).Coherent where
  failure e he := by
    cases x with
    | output bytes | closed =>
      simp only [Observation.see] at he ⊢
      split at he
      · rename_i hrunning
        cases (h.failure e he).symm.trans hrunning
      · rename_i hstopped
        rw [if_neg hstopped]
        exact h.failure e he
    | readFailed e' =>
      simp only [Observation.see] at he ⊢
      split at he
      · rename_i hrunning
        rw [if_pos hrunning]
      · rename_i hstopped
        rw [if_neg hstopped]
        exact h.failure e he
    | ended status =>
      simp only [Observation.see] at he ⊢
      split at he <;> rename_i hstatus <;> simp only [hstatus, ↓reduceIte] <;> exact h.failure e he
    | waitFailed e' => exact h.failure e he
  sawEnd hsaw := (h.sawEnd ((passive_see o x).sawEnd.symm.trans hsaw)).see x

theorem keeps_coherent (env : System σ) : Keeps env Coherent :=
  keeps_of_see (fun _ x h => h.see x)
    (fun _ _ _ _ _ _ h => ⟨h.failure, fun hsaw => ⟨(h.sawEnd hsaw).stopped, (h.sawEnd hsaw).unread,
      (h.sawEnd hsaw).readError⟩⟩)
    (fun hunread h => ⟨h.failure, fun hsaw => nomatch hunread.symm.trans (h.sawEnd hsaw).unread⟩)
    (fun hexhausted h => ⟨h.failure, fun _ => ⟨hexhausted.stopped, hexhausted.unread, hexhausted.readError⟩⟩)
    (fun hunread h => ⟨fun _ he => (nomatch he), fun hsaw => ⟨(h.sawEnd hsaw).stopped, hunread, rfl⟩⟩)

theorem coherent_of_spawn {launch : Launch} {clock : Instant} {s : σ} (h : spawn env launch clock s = .ok o) :
    o.Coherent := by
  obtain ⟨s', pid, seen, rfl⟩ := spawn_eq_ok h
  have hstart : Coherent
      ({ system := s', pid := pid, clock := clock, transcript := { started := clock } } : Observation σ) :=
    ⟨fun _ he => (nomatch he), (nomatch ·)⟩
  exact seen.foldlRecOn see hstart fun o h x _ => h.see x

/-! ### Reading after the end -/

/-- The answer to a call that has to set itself a deadline: a fault if that lies beyond the clock. -/
def byDeadline {α : Type} (o : Observation σ) (timeout : Duration) (answer : Except Fault α) : Except Fault α :=
  if (o.clock.after? timeout).isSome then answer else .error .clockOverflow

/-- Whatever is read for, it is the end of the output that is found, and nothing changes. -/
structure FindsEnd (env : System σ) (o : Observation σ) : Prop where
  nextLine : ∀ timeout, o.nextLine env timeout = (.ok none, o)
  expectMarker : ∀ description timeout wanted, o.expectMarker env description timeout wanted =
    (o.byDeadline timeout (.error (.failed (.streamClosed description))), o)
  waitForStartup : ∀ timeout, o.waitForStartup env timeout =
    (o.byDeadline timeout (.error (.failed (.streamClosed "PROCESS_STARTED_PID"))), o)
  drain : ∀ timeout, o.drain env timeout = (o.byDeadline timeout (.ok true), o)

theorem nextLine_of_sawEnd (h : o.sawEnd = true) (env : System σ) (timeout : Duration) :
    o.nextLine env timeout = (.ok none, o) := if_pos h

theorem expectMarker_of_sawEnd (env : System σ) (h : o.sawEnd = true) (description : String) (timeout : Duration)
    (wanted : Marker → Bool) : o.expectMarker env description timeout wanted =
      (o.byDeadline timeout (.error (.failed (.streamClosed description))), o) := by
  cases hdeadline : o.clock.after? timeout with
  | none => rw [expectMarker_of_overflow hdeadline, byDeadline, hdeadline]; rfl
  | some deadline =>
    rw [expectMarker_of_fits hdeadline, seek_of_end (nextLine_of_sawEnd h env _), byDeadline, hdeadline]
    rfl

theorem findsEnd_of_sawEnd (env : System σ) (h : o.sawEnd = true) : FindsEnd env o where
  nextLine := nextLine_of_sawEnd h env
  expectMarker := expectMarker_of_sawEnd env h
  waitForStartup timeout := by
    rw [waitForStartup_eq, expectMarker_of_sawEnd env h, byDeadline, byDeadline]
    split <;> rfl
  drain timeout := by
    cases hdeadline : o.clock.after? timeout with
    | none => rw [drain_of_overflow hdeadline, byDeadline, hdeadline]; rfl
    | some deadline =>
      rw [drain_of_fits hdeadline, seek_of_end (nextLine_of_sawEnd h env _), byDeadline, hdeadline]
      rfl

/-! ### Answers that tell of an end, of a failure, and of time that has run out -/

/-- A search has come to the end of the output. -/
def Fault.isEnd : Fault → Bool
  | .failed (.streamClosed _) => true
  | _ => false

/-- The time for a search has run out. -/
def Fault.isTimeout : Fault → Bool
  | .failed (.timeout ..) => true
  | _ => false

/-- Reading has failed. -/
def Fault.isFailure : Fault → Bool
  | .failed (.io _) => true
  | _ => false

/-- The caller is told that the output has come to its end. -/
def Answer.reportsEnd : Answer → Bool
  | .nextLine (.ok none) | .drain (.ok true) => true
  | .expectMarker (.error e) | .waitForStartup (.error e) => e.isEnd
  | _ => false

/-- The caller is told that the time for reading has run out. -/
def Answer.reportsTimeout : Answer → Bool
  | .nextLine (.error (.timeout ..)) | .drain (.ok false) => true
  | .expectMarker (.error e) | .waitForStartup (.error e) => e.isTimeout
  | _ => false

/-- The caller is told that reading has failed. -/
def Answer.reportsFailure : Answer → Bool
  | .nextLine (.error (.io _)) => true
  | .expectMarker (.error e) | .waitForStartup (.error e) | .drain (.error e) => e.isFailure
  | _ => false

/-- What a reading tells of the observation after it, unless it finds a line. -/
def ToldBy (o : Observation σ) : Except ObserverError (Option ObservedLine) → Prop
  | .ok (some _) => True
  | .ok none => o.sawEnd = true
  | .error (.timeout _ _) => o.unread = []
  | .error (.io _) => o.Exhausted ∧ o.capture = .broken
  | .error _ => False

/-- What an answer tells of it. -/
structure Answer.Tells (answer : Answer) (o : Observation σ) : Prop where
  sawEnd : answer.reportsEnd = true → o.sawEnd = true
  unread : answer.reportsTimeout = true → o.unread = []
  failure : answer.reportsFailure = true → o.Exhausted ∧ o.capture = .broken

theorem told_nextLine (h : o.Coherent) (env : System σ) (timeout : Duration) :
    (o.nextLine env timeout).2.ToldBy (o.nextLine env timeout).1 := by
  have hcoherent := (keeps_coherent env).await readable (o.clock.alarm timeout) h
  rcases nextLine_cases env timeout o with ⟨hsaw, hnext⟩ | ⟨-, ⟨l, rest, -, hnext⟩ | ⟨e, hunread, he, hnext⟩ |
    ⟨hunread, -, ⟨-, hnext⟩ | ⟨-, hnext⟩⟩⟩
  · rw [hnext]
    exact hsaw
  · rw [hnext]
    trivial
  · rw [hnext]
    have hbroken := hcoherent.failure e he
    have hstopped : (o.await env readable (o.clock.alarm timeout)).capture ≠ .running := fun hrunning => by
      cases hbroken.symm.trans hrunning
    exact ⟨⟨hstopped, hunread, rfl⟩, hbroken⟩
  · rw [hnext]
    rfl
  · rw [hnext]
    exact hunread

theorem told_seek (h : o.Coherent) (env : System σ) (deadline : Instant) (wanted : ObservedLine → Bool) :
    (o.seek env deadline wanted).2.ToldBy (o.seek env deadline wanted).1 := by
  have htold {o : Observation σ} {r o'} (h : o.Coherent) (hnext : o.nextLine env (deadline.since o.clock) = (r, o')) :
      o'.ToldBy r := by
    have htells := told_nextLine h env (deadline.since o.clock)
    rw [hnext] at htells
    exact htells
  fun_induction seek env deadline wanted o with
  | case1 => trivial
  | case2 o l o' hnext hw ih => exact ih ((keeps_coherent env).of_nextLine hnext h)
  | case3 o o' hnext => exact htold h hnext
  | case4 o e o' hnext => exact htold h hnext

theorem tells_nextLine (h : o.Coherent) (env : System σ) (timeout : Duration) :
    (Answer.nextLine (o.nextLine env timeout).1).Tells (o.nextLine env timeout).2 := by
  have htold := told_nextLine h env timeout
  generalize o.nextLine env timeout = next at htold ⊢
  obtain ⟨e | _ | l, o'⟩ := next
  · cases e with
    | timeout => exact ⟨(nomatch ·), fun _ => htold, (nomatch ·)⟩
    | io => exact ⟨(nomatch ·), (nomatch ·), fun _ => htold⟩
    | _ => exact htold.elim
  · exact ⟨fun _ => htold, (nomatch ·), (nomatch ·)⟩
  · exact ⟨(nomatch ·), (nomatch ·), (nomatch ·)⟩

theorem tells_expectMarker (h : o.Coherent) (env : System σ) (description : String) (timeout : Duration)
    (wanted : Marker → Bool) :
    (Answer.expectMarker (o.expectMarker env description timeout wanted).1).Tells
      (o.expectMarker env description timeout wanted).2 := by
  cases hdeadline : o.clock.after? timeout with
  | none =>
    rw [expectMarker_of_overflow hdeadline]
    exact ⟨(nomatch ·), (nomatch ·), (nomatch ·)⟩
  | some deadline =>
    have htold := told_seek h env deadline (fun l => l.marker.any wanted)
    rw [expectMarker_of_fits hdeadline]
    generalize o.seek env deadline (fun l => l.marker.any wanted) = sought at htold ⊢
    obtain ⟨e | _ | l, o'⟩ := sought
    · cases e with
      | timeout => exact ⟨(nomatch ·), fun _ => htold, (nomatch ·)⟩
      | io => exact ⟨(nomatch ·), (nomatch ·), fun _ => htold⟩
      | _ => exact htold.elim
    · exact ⟨fun _ => htold, (nomatch ·), (nomatch ·)⟩
    · exact ⟨(nomatch ·), (nomatch ·), (nomatch ·)⟩

theorem tells_waitForStartup (h : o.Coherent) (env : System σ) (timeout : Duration) :
    (Answer.waitForStartup (o.waitForStartup env timeout).1).Tells (o.waitForStartup env timeout).2 := by
  have htells := tells_expectMarker h env "PROCESS_STARTED_PID" timeout Marker.isProcessStarted
  obtain ⟨read, -, hfound⟩ := expectMarker_spec env "PROCESS_STARTED_PID" timeout Marker.isProcessStarted o
  rw [waitForStartup_eq]
  generalize o.expectMarker env "PROCESS_STARTED_PID" timeout Marker.isProcessStarted = found at htells hfound ⊢
  obtain ⟨e | l, o'⟩ := found
  · exact ⟨htells.sawEnd, htells.unread, htells.failure⟩
  · -- the line has the marker that was wanted, so its process id is returned
    obtain ⟨pid, hpid, -⟩ := startupPid_of_started (hfound l rfl).1
    show Answer.Tells (.waitForStartup (startupPid (.ok l))) o'
    rw [hpid]
    exact ⟨(nomatch ·), (nomatch ·), (nomatch ·)⟩

theorem tells_drain (h : o.Coherent) (env : System σ) (timeout : Duration) :
    (Answer.drain (o.drain env timeout).1).Tells (o.drain env timeout).2 := by
  cases hdeadline : o.clock.after? timeout with
  | none =>
    rw [drain_of_overflow hdeadline]
    exact ⟨(nomatch ·), (nomatch ·), (nomatch ·)⟩
  | some deadline =>
    have htold := told_seek h env deadline (fun _ => false)
    have hunwanted := (seek_spec env deadline (fun _ => false) o).choose_spec.2.2
    rw [drain_of_fits hdeadline]
    generalize o.seek env deadline (fun _ => false) = sought at htold hunwanted ⊢
    obtain ⟨e | _ | l, o'⟩ := sought
    · cases e with
      | timeout => exact ⟨(nomatch ·), fun _ => htold, (nomatch ·)⟩
      | io => exact ⟨(nomatch ·), (nomatch ·), fun _ => htold⟩
      | _ => exact htold.elim
    · exact ⟨fun _ => htold, (nomatch ·), (nomatch ·)⟩
    · exact nomatch hunwanted l rfl

/-- Reading the rest of the output fails within the clock only if the system does. -/
theorem drain_ok_or_broken (h : o.Coherent) (env : System σ) {timeout : Duration}
    (fits : (o.clock.plus timeout).nanos ≤ Instant.last.nanos) :
    (∃ ended, (o.drain env timeout).1 = .ok ended) ∨
      (∃ e, (o.drain env timeout).1 = .error (.failed (.io e))) ∧ (o.drain env timeout).2.capture = .broken := by
  have htold := told_seek h env (o.clock.plus timeout) (fun _ => false)
  rw [drain_of_fits (after?_of_le fits)]
  generalize o.seek env (o.clock.plus timeout) (fun _ => false) = sought at htold ⊢
  obtain ⟨e | line, o'⟩ := sought
  · cases e with
    | timeout => exact Or.inl ⟨false, rfl⟩
    | io e => exact Or.inr ⟨⟨e, rfl⟩, htold.2⟩
    | _ => exact htold.elim
  · exact Or.inl ⟨true, rfl⟩

/-- An answer that tells of an end, of a failure, or of time that has run out, is true. -/
theorem tells_perform (h : o.Coherent) (env : System σ) (call : Call) :
    (o.perform env call).1.Tells (o.perform env call).2 := by
  cases call with
  | nextLine timeout => exact tells_nextLine h env timeout
  | expectMarker description timeout wanted => exact tells_expectMarker h env description timeout wanted
  | waitForStartup timeout => exact tells_waitForStartup h env timeout
  | drain timeout => exact tells_drain h env timeout
  | signal _ | signalGroup _ | tryWait | wait _ | stop _ | pause _ => exact ⟨(nomatch ·), (nomatch ·), (nomatch ·)⟩

/-- What a call has met, the calls behind it keep. -/
theorem kept_of_answer {P : Observation σ → Prop} (K : Keeps env P) {reports : Answer → Bool} (hcoherent : o.Coherent)
    (hmet : ∀ (o : Observation σ) call, o.Coherent → reports (o.perform env call).1 = true →
      P (o.perform env call).2) {calls : List Call} (h : (o.performAll env calls).1.any reports = true) :
    P (o.performAll env calls).2 := by
  induction calls generalizing o with
  | nil => cases h
  | cons call calls ih =>
    rcases Bool.or_eq_true_iff.mp h with hfirst | hrest
    · exact K.performAll calls (hmet o call hcoherent hfirst)
    · exact ih ((keeps_coherent env).perform call hcoherent) hrest

/-- The end of the output, once it has been met, has been met for good. -/
theorem keeps_sawEnd (env : System σ) : Keeps env fun o => o.sawEnd = true :=
  keeps_of_see (fun o x h => (passive_see o x).sawEnd.trans h) (fun _ _ _ _ _ _ h => h) (fun _ h => h) (fun _ _ => rfl)
    (fun _ h => h)

theorem keeps_exhausted (env : System σ) : Keeps env Exhausted :=
  keeps_of_see (fun _ x h => h.see x) (fun _ _ _ _ _ _ h => ⟨h.stopped, h.unread, h.readError⟩)
    (fun hunread h => nomatch hunread.symm.trans h.unread) (fun _ h => ⟨h.stopped, h.unread, h.readError⟩)
    (fun hunread h => ⟨h.stopped, hunread, rfl⟩)

theorem sawEnd_of_reportsEnd (h : o.Coherent) {calls : List Call}
    (hend : (o.performAll env calls).1.any Answer.reportsEnd = true) : (o.performAll env calls).2.sawEnd = true :=
  kept_of_answer (keeps_sawEnd env) h (fun _ call h => (tells_perform h env call).sawEnd) hend

/-- An end or a failure that has been reported leaves nothing to be read. -/
theorem exhausted_of_reports (h : o.Coherent) {calls : List Call}
    (hreports : (o.performAll env calls).1.any Answer.reportsEnd = true ∨
      (o.performAll env calls).1.any Answer.reportsFailure = true) : (o.performAll env calls).2.Exhausted := by
  rcases hreports with hend | hfailure
  · exact ((keeps_coherent env).performAll calls h).sawEnd (sawEnd_of_reportsEnd h hend)
  · exact kept_of_answer (keeps_exhausted env) h (fun _ call h hf => ((tells_perform h env call).failure hf).1) hfailure

/-! ### Delivery -/

theorem unread_of_spawn {launch : Launch} {clock : Instant} {s : σ} (h : spawn env launch clock s = .ok o) :
    o.transcript.lines = [] ∧ o.sawEnd = false :=
  ⟨congrArg Transcript.lines (passive_spawn h).transcript, (passive_spawn h).sawEnd⟩

/-- The lines that the output has held from the start of a program up to the last of some calls. -/
def sentLines (env : System σ) (launch : Launch) (clock : Instant) (s : σ) (calls : List Call) : List ObservedLine :=
  (LineReader.takeAll {} (shown env launch clock s calls)).lines

/-- The output only goes on. -/
theorem keeps_lines (env : System σ) (ls : List ObservedLine) : Keeps env fun o => ls <+: o.reader.lines :=
  keeps_of_see
    (fun o x h => h.trans (reader_see o x ▸ o.reader.lines_prefix_take o.clock x))
    (fun _ _ _ _ _ _ h => h)
    (fun {o l rest} hunread h => by
      have hlines : o.reader.lines = o.transcript.lines ++ l :: rest := congrArg (o.transcript.lines ++ ·) hunread
      show ls <+: (o.transcript.lines ++ [l]) ++ rest
      rw [List.append_assoc, List.singleton_append, ← hlines]
      exact h)
    (fun _ h => h)
    (fun _ h => h)

theorem lines_append_unread {launch : Launch} {clock : Instant} {s : σ} (hspawn : spawn env launch clock s = .ok o)
    (calls : List Call) :
    (o.performAll env calls).2.transcript.lines ++ (o.performAll env calls).2.unread =
      sentLines env launch clock s calls :=
  congrArg LineReader.lines (reader_performAll hspawn calls)

/-- Whatever is called after the start of a program, no line is lost, taken twice or out of order. What has been read
and what waits to be read is what the output has held so far; this only grows, and what has been read remains the
beginning of it. Each call reads a piece of its own, and hands out the last line of that at most. A call whose time runs
out, or that meets a failure to read, leaves nothing behind. Once an end or a failure has been reported, the output
never holds more than what has been read, and nothing is read any more. After an end every later reading finds it again
and changes nothing, except that a call whose deadline would lie beyond the clock faults instead. -/
theorem lines_delivered {launch : Launch} {clock : Instant} {s : σ} {o : Observation σ}
    (hspawn : spawn env launch clock s = .ok o) (calls : List Call) :
    let answers := (o.performAll env calls).1
    let now := (o.performAll env calls).2
    let sent := sentLines env launch clock s
    now.transcript.lines ++ now.unread = sent calls ∧
    (∀ more, now.transcript.lines <+: sent (calls ++ more) ∧ sent calls <+: sent (calls ++ more)) ∧
    (∃ reads, now.transcript.lines = reads.flatten ∧ List.Forall₂ Answer.Hands answers reads) ∧
    (∀ call, (now.perform env call).1.reportsTimeout = true ∨ (now.perform env call).1.reportsFailure = true →
      (now.perform env call).2.transcript.lines = sent (calls ++ [call])) ∧
    (answers.any Answer.reportsEnd = true ∨ answers.any Answer.reportsFailure = true → ∀ more,
      (o.performAll env (calls ++ more)).2.transcript = now.transcript ∧
        now.transcript.lines = sent (calls ++ more)) ∧
    (answers.any Answer.reportsEnd = true → ∀ more, FindsEnd env (o.performAll env (calls ++ more)).2) := by
  intro answers now sent
  have hlines := (unread_of_spawn hspawn).1
  have hstart := coherent_of_spawn hspawn
  have hcoherent : now.Coherent := (keeps_coherent env).performAll calls hstart
  have hmore (more : List Call) : (o.performAll env (calls ++ more)).2 = (now.performAll env more).2 := by
    rw [performAll_append]
  have haccount (more : List Call) :
      (now.performAll env more).2.transcript.lines ++ (now.performAll env more).2.unread = sent (calls ++ more) := by
    rw [← hmore]
    exact lines_append_unread hspawn (calls ++ more)
  have hnow : now.transcript.lines ++ now.unread = sent calls := lines_append_unread hspawn calls
  refine ⟨hnow, fun more => ?_, ?_, fun call hvain => ?_, fun hreported more => ?_, fun hend more => ?_⟩
  · have hread : now.transcript.lines <+: sent calls := ⟨now.unread, hnow⟩
    have hsent : sent calls <+: now.reader.lines := ⟨[], (List.append_nil _).trans hnow.symm⟩
    have hgrows : sent calls <+: sent (calls ++ more) := by
      rw [← haccount]
      exact (keeps_lines env (sent calls)).performAll more hsent
    exact ⟨hread.trans hgrows, hgrows⟩
  · obtain ⟨reads, hreads, hhands⟩ := reads_performAll env calls o
    refine ⟨reads, ?_, hhands⟩
    rw [hreads, hlines, List.nil_append]
  · have htells := tells_perform hcoherent env call
    have hunread : (now.perform env call).2.unread = [] :=
      hvain.elim htells.unread fun hfailed => (htells.failure hfailed).1.unread
    rw [← haccount [call]]
    show _ = (now.perform env call).2.transcript.lines ++ (now.perform env call).2.unread
    rw [hunread, List.append_nil]
  · have hover : Over now.transcript now := ⟨exhausted_of_reports hstart hreported, rfl⟩
    have hlater := (keeps_over env now.transcript).performAll more hover
    rw [hmore]
    refine ⟨hlater.transcript, ?_⟩
    rw [← haccount, hlater.transcript, hlater.exhausted.unread, List.append_nil]
  · rw [hmore]
    exact findsEnd_of_sawEnd env ((keeps_sawEnd env).performAll more (sawEnd_of_reportsEnd hstart hend))

/-- A system with one program: it announces itself at once, and a second later it ends its output with one more line. -/
def tardy : System Unit where
  spawn _ _ := (.ok { pid := some 7, seen := [.output ([.processStarted 7].flatMap Marker.line)] }, ())
  advance _ _ _ := (some (⟨1000000000⟩, [.output ([.shutdownStart].flatMap Marker.line), .closed]), ())
  send _ _ _ := (none, [], ())
  reap _ _ := ()

/-- Its first line waits to be read. -/
def tardyStart : Observation Unit :=
  { system := (), pid := 7, clock := .start, transcript := {}
    unread := [.arrive (Marker.processStarted 7).text .start] }

/-- Its first line has been read. -/
def tardyRead : Observation Unit :=
  { tardyStart with unread := [], transcript := { lines := [.arrive (Marker.processStarted 7).text .start] } }

/-- Another line has been waited for in vain. -/
def tardyLate : Observation Unit := { tardyRead with clock := ⟨100000000⟩ }

/-- All of its output has been read. -/
def tardyEnd : Observation Unit :=
  { tardyRead with
    clock := ⟨1000000000⟩, capture := .closed, sawEnd := true
    transcript := { lines := [.arrive (Marker.processStarted 7).text .start,
      .arrive Marker.shutdownStart.text ⟨1000000000⟩] } }

theorem spawn_tardy : spawn tardy { program := [] } .start () = .ok tardyStart := by
  show Except.ok (see ({ system := (), pid := 7, clock := .start, transcript := {} } : Observation Unit)
    (.output ([.processStarted 7].flatMap Marker.line))) = _
  rw [see_lines _ rfl rfl]
  rfl

theorem nextLine_tardyStart (timeout : Duration) : tardyStart.nextLine tardy timeout =
    (.ok (some (.arrive (Marker.processStarted 7).text .start)), tardyRead) :=
  nextLine_of_unread (o := tardyStart) rfl rfl tardy timeout

theorem nextLine_tardyRead : tardyRead.nextLine tardy (.ofMillis 100) =
    (.error (.timeout "next output line" (.ofMillis 100)), tardyLate) := by
  have hawait : tardyRead.await tardy readable ⟨100000000⟩ = tardyLate := by
    refine await_of_quiet rfl (by decide) rfl fun time seen hnext => ?_
    obtain ⟨rfl, rfl⟩ := Prod.mk.inj (Option.some.inj hnext)
    decide
  have halarm : tardyRead.clock.alarm (.ofMillis 100) = ⟨100000000⟩ := by decide
  have hsaw : tardyRead.sawEnd = false := rfl
  simp only [nextLine, halarm, hsaw, hawait]
  rfl

theorem drain_tardyLate : tardyLate.drain tardy (.ofSecs 5) = (.ok true, tardyEnd) := by
  let arrived : Observation Unit :=
    { tardyLate with
      clock := ⟨1000000000⟩, capture := .closed
      unread := [.arrive Marker.shutdownStart.text ⟨1000000000⟩] }
  have hdeadline : tardyLate.clock.after? (.ofSecs 5) = some ⟨5100000000⟩ := by decide
  have halarm : tardyLate.clock.alarm (Instant.since ⟨5100000000⟩ tardyLate.clock) = ⟨5100000000⟩ := by decide
  have hseen : seeAll { tardyLate with clock := ⟨1000000000⟩ }
      [.output ([.shutdownStart].flatMap Marker.line), .closed] = arrived := by
    rw [seeAll, List.foldl_cons, see_lines _ rfl rfl]
    rfl
  have hawait : tardyLate.await tardy readable ⟨5100000000⟩ = arrived := by
    have hadvance := @await_of_advance _ tardy readable ⟨5100000000⟩ tardyLate ⟨1000000000⟩
      [.output ([.shutdownStart].flatMap Marker.line), .closed] () rfl rfl (by decide) (by decide)
    rw [hadvance, hseen]
    exact await_of_enough rfl
  have hnext : tardyLate.nextLine tardy (Instant.since ⟨5100000000⟩ tardyLate.clock) =
      (.ok (some (.arrive Marker.shutdownStart.text ⟨1000000000⟩)), { tardyEnd with sawEnd := false }) := by
    have hsaw : tardyLate.sawEnd = false := rfl
    simp only [nextLine, halarm, hsaw, hawait]
    rfl
  rw [drain_of_fits hdeadline, seek_of_line hnext]
  simp only [Bool.false_eq_true, ↓reduceIte]
  rw [seek_of_stopped [] rfl (by decide) rfl rfl]
  rfl

/-- A line that is waited for in vain is not lost: draining finds it, and then reading is over; but to drain with the
longest timeout of all faults. -/
theorem lines_delivered_tardy :
    let late : List Call := [.nextLine (.ofMillis 100), .nextLine (.ofMillis 100)]
    let sent := sentLines tardy { program := [] } .start ()
    let longest : Duration := ⟨18446744073709551615 * 1000000000 + 999999999⟩
    spawn tardy { program := [] } .start () = .ok tardyStart ∧
    sent late = [.arrive (Marker.processStarted 7).text .start] ∧
    (∀ more, sent (late ++ .drain (.ofSecs 5) :: more) = tardyEnd.transcript.lines ∧
      FindsEnd tardy (tardyStart.performAll tardy (late ++ .drain (.ofSecs 5) :: more)).2) ∧
    tardyEnd.drain tardy longest = (.error .clockOverflow, tardyEnd) := by
  intro late sent longest
  have hread : (tardyStart.performAll tardy [.nextLine (.ofMillis 100)]).2 = tardyRead :=
    congrArg Prod.snd (nextLine_tardyStart _)
  have hend : tardyStart.performAll tardy (late ++ [.drain (.ofSecs 5)]) =
      ([.nextLine (.ok (some (.arrive (Marker.processStarted 7).text .start))),
        .nextLine (.error (.timeout "next output line" (.ofMillis 100))), .drain (.ok true)], tardyEnd) := by
    simp only [late, List.cons_append, List.nil_append, performAll, perform, nextLine_tardyStart, Prod.map, id_eq,
      nextLine_tardyRead, drain_tardyLate]
  obtain ⟨-, -, -, hlate, -⟩ := lines_delivered spawn_tardy [.nextLine (.ofMillis 100)]
  obtain ⟨-, -, -, -, hsent, hfinds⟩ := lines_delivered spawn_tardy (late ++ [.drain (.ofSecs 5)])
  rw [hend] at hsent hfinds
  refine ⟨spawn_tardy, ?_, fun more => ?_, ?_⟩
  · rw [hread] at hlate
    have hvain := hlate (.nextLine (.ofMillis 100))
    simp only [perform, nextLine_tardyRead] at hvain
    exact (hvain (Or.inl rfl)).symm
  · have hmore : late ++ .drain (.ofSecs 5) :: more = (late ++ [.drain (.ofSecs 5)]) ++ more := by
      rw [List.append_assoc]
      rfl
    rw [hmore]
    exact ⟨((hsent (Or.inl rfl) more).2).symm, hfinds rfl more⟩
  · have hover : FindsEnd tardy (tardyStart.performAll tardy (late ++ [.drain (.ofSecs 5)] ++ [])).2 := hfinds rfl []
    have hbeyond : tardyEnd.clock.after? longest = none := by decide
    rw [List.append_nil, hend] at hover
    rw [hover.drain, byDeadline, hbeyond]
    rfl

end OrderlyExit.Observation
