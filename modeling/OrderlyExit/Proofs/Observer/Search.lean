import OrderlyExit.Proofs.Observer.Delivery

/-! Searching for a marker. A search goes round by round, and each round reads one line in the time that is left. So
    it reads up to the first line that is wanted, and ends without one only where the output ends, reading fails or its
    time is over; whatever it skips has been read. -/

namespace OrderlyExit.Observation

universe u
variable {σ : Type u} {env : System σ} {description : String} {timeout : Duration} {deadline : Instant}
  {wanted : Marker → Bool} {o o' : Observation σ}

/-! ### Time that has run out -/

/-- A reading whose time runs out has taken all of it. -/
theorem le_clock_of_timeout {waitingFor : String} {spent : Duration}
    (h : o.nextLine env timeout = (.error (.timeout waitingFor spent), o')) :
    (o.clock.alarm timeout).nanos ≤ o'.clock.nanos := by
  rcases nextLine_cases env timeout o with ⟨-, hnext⟩ | ⟨-, ⟨l, rest, -, hnext⟩ | ⟨e, -, -, hnext⟩ |
    ⟨hunread, -, ⟨-, hnext⟩ | ⟨hrunning, hnext⟩⟩⟩
  case' inr.inr.inr.inr =>
    obtain rfl := congrArg Prod.snd (h.symm.trans hnext)
    refine (enough_or_le_await env readable _ o).resolve_left fun henough => ?_
    simp [readable, hunread, hrunning] at henough
  all_goals cases h.symm.trans hnext

/-- So has a search of many readings, each in the time that the ones before it have left. -/
theorem le_clock_of_seek_timeout {want : ObservedLine → Bool} {waitingFor : String} {spent : Duration}
    (h : o.seek env deadline want = (.error (.timeout waitingFor spent), o')) :
    (o.clock.alarm (deadline.since o.clock)).nanos ≤ o'.clock.nanos := by
  have hsince (now : Instant) : (deadline.since now).nanos = (deadline.nanos - now.nanos).toNat := rfl
  fun_induction seek env deadline want o with
  | case1 => cases h
  | case2 o l o₁ hnext hw ih =>
    -- the later a reading begins, the later its alarm
    have hlater := (read_of_nextLine hnext).le_clock
    have hrest := ih h
    rw [nanos_alarm, hsince] at hrest ⊢
    omega
  | case3 => cases h
  | case4 o e o₁ hnext =>
    cases h
    exact le_clock_of_timeout hnext

theorem after?_eq_some {i : Instant} {d : Duration} (h : i.after? d = some deadline) : deadline = i.plus d := by
  unfold Instant.after? at h
  split at h
  · exact (Option.some.inj h).symm
  · cases h

theorem since_plus (i : Instant) (d : Duration) : (i.plus d).since i = d := by
  have hnanos : (i.nanos + d.nanos - i.nanos).toNat = d.nanos := by omega
  exact congrArg Duration.mk hnanos

/-! ### What a search comes to -/

/-- What a search from `now` to `after` has come to, and the lines that it has read. -/
inductive Searched (wanted : Marker → Bool) (description : String) (timeout : Duration) (now after : Observation σ) :
    List ObservedLine → Except Fault ObservedLine → Prop
  | found {skipped : List ObservedLine} {l : ObservedLine} (unwanted : ∀ x ∈ skipped, x.marker.any wanted = false)
      (h : l.marker.any wanted = true) : Searched wanted description timeout now after (skipped ++ [l]) (.ok l)
  | ended {skipped : List ObservedLine} (unwanted : ∀ x ∈ skipped, x.marker.any wanted = false)
      (h : after.sawEnd = true) :
      Searched wanted description timeout now after skipped (.error (.failed (.streamClosed description)))
  | expired {skipped : List ObservedLine} (unwanted : ∀ x ∈ skipped, x.marker.any wanted = false)
      (unread : after.unread = []) (h : (now.clock.alarm timeout).nanos ≤ after.clock.nanos) :
      Searched wanted description timeout now after skipped (.error (.failed (.timeout description timeout)))
  /-- The system has failed to read on. -/
  | failed {skipped : List ObservedLine} {e : IoError} (unwanted : ∀ x ∈ skipped, x.marker.any wanted = false)
      (exhausted : after.Exhausted) (broken : after.capture = .broken) :
      Searched wanted description timeout now after skipped (.error (.failed (.io e)))
  /-- The deadline lies beyond the clock, and nothing has been done. -/
  | overflow (h : now.clock.after? timeout = none) (same : after = now) :
      Searched wanted description timeout now after [] (.error .clockOverflow)

theorem searched_expectMarker (env : System σ) (description : String) (timeout : Duration) (wanted : Marker → Bool)
    {now : Observation σ} (hcoherent : now.Coherent) :
    ∃ read, (now.expectMarker env description timeout wanted).2.transcript.lines = now.transcript.lines ++ read ∧
      Searched wanted description timeout now (now.expectMarker env description timeout wanted).2 read
        (now.expectMarker env description timeout wanted).1 := by
  cases hdeadline : now.clock.after? timeout with
  | none =>
    rw [expectMarker_of_overflow hdeadline]
    exact ⟨[], (List.append_nil _).symm, .overflow hdeadline rfl⟩
  | some deadline =>
    rw [expectMarker_of_fits hdeadline]
    obtain ⟨skipped, hunwanted, hread, hfound⟩ := seek_spec env deadline (fun l => l.marker.any wanted) now
    have htold := told_seek hcoherent env deadline (fun l => l.marker.any wanted)
    rcases hseek : now.seek env deadline (fun l => l.marker.any wanted) with ⟨e | _ | l, after⟩
    · rw [hseek, handed, List.append_nil] at hread
      rw [hseek] at htold
      cases e with
      | timeout waitingFor spent =>
        have hover := le_clock_of_seek_timeout hseek
        rw [after?_eq_some hdeadline, since_plus] at hover
        exact ⟨skipped, hread.lines, .expired hunwanted htold hover⟩
      | io e => exact ⟨skipped, hread.lines, .failed hunwanted htold.1 htold.2⟩
      | _ => exact htold.elim
    · rw [hseek, handed, List.append_nil] at hread
      rw [hseek] at htold
      exact ⟨skipped, hread.lines, .ended hunwanted htold⟩
    · rw [hseek] at hread hfound
      exact ⟨_, hread.lines, .found hunwanted (hfound l rfl)⟩

/-- What waiting for the startup makes of a search for it: the process id in the line that was found, or the failure. -/
inductive Starts : Except Fault ObservedLine → Except Fault UInt32 → Prop
  | announced {l : ObservedLine} {pid : UInt32} (h : l.marker = some (.processStarted pid)) : Starts (.ok l) (.ok pid)
  | failed (e : Fault) : Starts (.error e) (.error e)

theorem starts_startupPid {result : Except Fault ObservedLine}
    (h : ∀ l, result = .ok l → l.marker.any Marker.isProcessStarted = true) : Starts result (startupPid result) := by
  cases result with
  | error e => exact .failed e
  | ok l =>
    obtain ⟨pid, hpid, hmarker⟩ := startupPid_of_started (h l rfl)
    rw [hpid]
    exact .announced hmarker

/-! ### Lines still to come -/

section Spawned
variable {launch : Launch} {clock : Instant} {s : σ}

/-- What has been read is the beginning of all that the output will hold. -/
theorem lines_prefix_sentLines (hspawn : spawn env launch clock s = .ok o) (calls more : List Call) :
    (o.performAll env calls).2.transcript.lines <+: sentLines env launch clock s (calls ++ more) := by
  rw [← lines_append_unread hspawn, performAll_append]
  exact (keeps_lines env _).performAll more (List.prefix_append _ _)

/-- Where all of the output has been read, it never holds more than that. -/
theorem sentLines_of_exhausted (hspawn : spawn env launch clock s = .ok o) {calls : List Call}
    (h : (o.performAll env calls).2.Exhausted) (more : List Call) :
    sentLines env launch clock s (calls ++ more) = (o.performAll env calls).2.transcript.lines := by
  have hover := (keeps_over env _).performAll more ⟨h, rfl⟩
  rw [← lines_append_unread hspawn, performAll_append]
  simp only [hover.transcript, hover.exhausted.unread, List.append_nil]

/-- A search finds the first line that is wanted. Of the lines still to come it reads those up to that one; or all of
them, if the output ends or reading fails without one; or only unwanted ones until its time is over. It names itself and
its own time when it fails. Waiting for the startup is the search for the first announcement, and it fails only where
the search does. -/
theorem expectMarker_finds_first (hspawn : spawn env launch clock s = .ok o) (calls : List Call) (description : String)
    (timeout : Duration) (wanted : Marker → Bool) :
    let now := (o.performAll env calls).2
    let search := now.expectMarker env description timeout wanted
    let toCome := fun more => sentLines env launch clock s (calls ++ .expectMarker description timeout wanted :: more)
    let startup := now.expectMarker env "PROCESS_STARTED_PID" timeout Marker.isProcessStarted
    (∃ read, search.2.transcript.lines = now.transcript.lines ++ read ∧
      Searched wanted description timeout now search.2 read search.1) ∧
    (∀ more, search.2.transcript.lines <+: toCome more) ∧
    (search.1 = .error (.failed (.streamClosed description)) ∨ (∃ e, search.1 = .error (.failed (.io e))) →
      ∀ more, toCome more = search.2.transcript.lines) ∧
    Starts startup.1 (now.waitForStartup env timeout).1 ∧ (now.waitForStartup env timeout).2 = startup.2 := by
  intro now search toCome startup
  have hcoherent : now.Coherent := (keeps_coherent env).performAll calls (coherent_of_spawn hspawn)
  have hsearch : (o.performAll env (calls ++ [.expectMarker description timeout wanted])).2 = search.2 := by
    rw [performAll_append]
    rfl
  have htoCome (more : List Call) : toCome more =
      sentLines env launch clock s ((calls ++ [.expectMarker description timeout wanted]) ++ more) := by
    rw [List.append_assoc]
    rfl
  refine ⟨searched_expectMarker env description timeout wanted hcoherent, fun more => ?_, fun hover more => ?_, ?_, ?_⟩
  · rw [htoCome, ← hsearch]
    exact lines_prefix_sentLines hspawn _ more
  · have htells := tells_expectMarker hcoherent env description timeout wanted
    have hafter : search.2.Coherent := (keeps_coherent env).perform (.expectMarker description timeout wanted) hcoherent
    have hexhausted : search.2.Exhausted := by
      rcases hover with hended | ⟨e, hfailed⟩
      · exact hafter.sawEnd (htells.sawEnd (by rw [show _ = _ from hended]; rfl))
      · exact (htells.failure (by rw [show _ = _ from hfailed]; rfl)).1
    rw [htoCome, ← hsearch]
    exact sentLines_of_exhausted hspawn (hsearch ▸ hexhausted) more
  · obtain ⟨read, -, hfound⟩ := expectMarker_spec env "PROCESS_STARTED_PID" timeout Marker.isProcessStarted now
    rw [waitForStartup_eq]
    exact starts_startupPid fun l hl => (hfound l hl).1
  · rw [waitForStartup_eq]
    rfl

/-- The process that announces itself at once is the one that is found, and its announcement is all that is read. -/
theorem expectMarker_finds_first_tardy :
    let sent := sentLines tardy { program := [] } .start ()
    spawn tardy { program := [] } .start () = .ok tardyStart ∧
    (tardyStart.waitForStartup tardy (.ofSecs 5)).1 = .ok 7 ∧
    ∀ more, tardyRead.transcript.lines <+:
      sent (.expectMarker "PROCESS_STARTED_PID" (.ofSecs 5) Marker.isProcessStarted :: more) := by
  intro sent
  have hmarker : (ObservedLine.arrive (Marker.processStarted 7).text .start).marker = some (.processStarted 7) :=
    Marker.parse?_text _
  have hdeadline : tardyStart.clock.after? (.ofSecs 5) = some ⟨5000000000⟩ := by decide
  have hstartup : tardyStart.expectMarker tardy "PROCESS_STARTED_PID" (.ofSecs 5) Marker.isProcessStarted =
      (.ok (.arrive (Marker.processStarted 7).text .start), tardyRead) := by
    rw [expectMarker_of_fits hdeadline, seek_of_line (nextLine_tardyStart _), hmarker]
    rfl
  obtain ⟨-, hread, -, hstarts, -⟩ :=
    expectMarker_finds_first spawn_tardy [] "PROCESS_STARTED_PID" (.ofSecs 5) Marker.isProcessStarted
  simp only [performAll, hstartup] at hread hstarts
  refine ⟨spawn_tardy, ?_, hread⟩
  generalize (tardyStart.waitForStartup tardy (.ofSecs 5)).1 = started at hstarts
  cases hstarts with
  | announced h => rw [Marker.processStarted.inj (Option.some.inj (h.symm.trans hmarker))]

end Spawned

end OrderlyExit.Observation
