import OrderlyExit.Capture.Lines
import OrderlyExit.Capture.Transcript
import OrderlyExit.Observer.Error
import OrderlyExit.Observer.System

/-!
The observation of one program: the clock, the lines that have arrived and wait to be read, and the
transcript of those that have been read.

Lines are stamped when they arrive, however late they are read. Every wait has a limit, and what has
happened by then counts, also at the limit itself. The system may fail to read on, and to tell how the
program ended; each failure is reported once, to the call that meets it.
-/

namespace OrderlyExit

/-- How the capture of an output stands. -/
inductive Capture
  | running
  /-- All of the output has arrived. -/
  | closed
  /-- Reading has failed, and what has not arrived by then never will. -/
  | broken
  deriving DecidableEq, Repr

structure Observation (σ : Type u) where
  system : σ
  pid : UInt32
  clock : Instant
  /-- Output that is no complete line yet. -/
  partialLine : LineBuffer := {}
  /-- Lines that have arrived and have not been read, the oldest first. -/
  unread : List ObservedLine := []
  /-- The failure behind these lines, until it has been reported. -/
  readError : Option IoError := none
  capture : Capture := .running
  /-- How the program ended, as soon as it has. -/
  status : Option WaitStatus := none
  /-- Why the system does not tell how the program ended, until that has been reported. -/
  waitError : Option IoError := none
  transcript : Transcript
  /-- How the program ended, once the observer has taken note of it. -/
  outcome : Option ExitOutcome := none
  /-- The observer has been told that the output is closed. -/
  sawEnd : Bool := false
  /-- Every signal sent so far, in order. -/
  sent : List (SignalTarget × Nat) := []

namespace Observation

variable {σ : Type u}

/-- The output has been closed, and all of it has arrived. -/
def closed (o : Observation σ) : Bool := o.capture = .closed

/-! ### What is seen -/

/-- Lines arrive. -/
def arrive (o : Observation σ) (texts : List String) : Observation σ :=
  { o with unread := o.unread ++ texts.map (ObservedLine.arrive · o.clock) }

/-- Takes in one sighting. -/
def see (o : Observation σ) : Sighting → Observation σ
  | .output bytes =>
    if o.capture = .running then
      { o.arrive (o.partialLine.feed bytes).1 with partialLine := (o.partialLine.feed bytes).2 }
    else o
  | .closed =>
    if o.capture = .running then { o.arrive o.partialLine.finish with partialLine := {}, capture := .closed } else o
  | .readFailed e => if o.capture = .running then { o with capture := .broken, readError := some e } else o
  | .ended status => if o.status.isSome then o else { o with status := some status }
  | .waitFailed e => { o with waitError := some e }

def seeAll (o : Observation σ) (seen : List Sighting) : Observation σ := seen.foldl see o

@[simp] theorem clock_see (o : Observation σ) (x : Sighting) : (o.see x).clock = o.clock := by
  cases x with
  | waitFailed => rfl
  | _ => simp only [see, arrive]; split <;> rfl

@[simp] theorem clock_seeAll (o : Observation σ) (seen : List Sighting) : (o.seeAll seen).clock = o.clock := by
  induction seen generalizing o with
  | nil => rfl
  | cons x seen ih => exact (ih (o.see x)).trans (clock_see o x)

/-! ### Passing time -/

/-- Lets time pass until `enough` holds or the clock reaches the limit. -/
def await (env : System σ) (enough : Observation σ → Bool) (limit : Instant) (o : Observation σ) :
    Observation σ :=
  if enough o then o
  else if o.clock.nanos < limit.nanos then
    match env.advance o.system o.clock limit with
    | (some (time, seen), s) =>
      if o.clock.nanos < time.nanos ∧ time.nanos ≤ limit.nanos then
        await env enough limit ({ o with system := s, clock := time }.seeAll seen)
      else { o with system := s, clock := limit }
    | (none, s) => { o with system := s, clock := limit }
  else o
termination_by (limit.nanos - o.clock.nanos).toNat
decreasing_by simp only [clock_seeAll]; omega

/-- A wait changes nothing, or it begins before its limit and takes time. -/
theorem await_eq_or_lt (env : System σ) (enough : Observation σ → Bool) (limit : Instant) (o : Observation σ) :
    o.await env enough limit = o ∨
      (o.clock.nanos < limit.nanos ∧ o.clock.nanos < (o.await env enough limit).clock.nanos) := by
  fun_induction await env enough limit o with
  | case1 => exact .inl rfl
  | case2 o _ hlt time seen s _ hle ih =>
    rw [clock_seeAll] at ih
    refine .inr ⟨hlt, ?_⟩
    rcases ih with h | h
    · rw [h, clock_seeAll]
      exact hle.1
    · exact Int.lt_trans hle.1 h.2
  | case3 o _ hlt => exact .inr ⟨hlt, hlt⟩
  | case4 o _ hlt => exact .inr ⟨hlt, hlt⟩
  | case5 => exact .inl rfl

/-! ### Reading lines -/

/-- Whether reading has something to return. -/
def readable (o : Observation σ) : Bool := !o.unread.isEmpty || o.capture != .running

/-- The next line of output, or nothing once its end has been reached. -/
def nextLine (env : System σ) (timeout : Duration) (o : Observation σ) :
    Except ObserverError (Option ObservedLine) × Observation σ :=
  if o.sawEnd then (.ok none, o)
  else
    let o := o.await env readable (o.clock.alarm timeout)
    match o.unread with
    | l :: rest => (.ok (some l), { o with unread := rest, transcript := o.transcript.push l })
    | [] =>
      match o.readError with
      | some e => (.error (.io e), { o with readError := none })
      | none =>
        if o.capture = .running then (.error (.timeout "next output line" timeout), o)
        else (.ok none, { o with sawEnd := true })

/-- How much reading is left before a deadline, at most: time first, then lines that have arrived. -/
def unspent (deadline : Instant) (o : Observation σ) : Nat × Nat :=
  ((deadline.nanos - o.clock.nanos).toNat, o.unread.length)

/-- An alarm for the time that is left goes off by the deadline, or at once if that is over. -/
theorem alarm_since_le (now deadline : Instant) :
    (now.alarm (deadline.since now)).nanos ≤ max now.nanos deadline.nanos := by
  have hnanos : (now.alarm (deadline.since now)).nanos =
      now.nanos + min (deadline.nanos - now.nanos).toNat Instant.farAhead.nanos := rfl
  omega

/-- A line that is read was there, or took time to arrive. -/
theorem unspent_nextLine_lt {env : System σ} {deadline : Instant} {o o' : Observation σ} {l : ObservedLine}
    (h : o.nextLine env (deadline.since o.clock) = (.ok (some l), o')) :
    Prod.Lex (· < ·) (· < ·) (o'.unspent deadline) (o.unspent deadline) := by
  have halarm := alarm_since_le o.clock deadline
  unfold nextLine at h
  split at h
  · cases h
  · simp only at h
    split at h
    · rename_i l' rest hcons
      cases h
      rcases await_eq_or_lt env readable (o.clock.alarm (deadline.since o.clock)) o with heq | hlt
      · rw [heq] at hcons ⊢
        have : rest.length < o.unread.length := by simp [hcons]
        exact Prod.Lex.right _ this
      · refine Prod.Lex.left _ _ ?_
        simp only
        omega
    · split at h
      · cases h
      · split at h <;> cases h

/-- Reads line by line, each in the time that is left, up to the first one that is wanted; returns what the
last reading comes to. -/
def seek (env : System σ) (deadline : Instant) (wanted : ObservedLine → Bool) (o : Observation σ) :
    Except ObserverError (Option ObservedLine) × Observation σ :=
  match _h : o.nextLine env (deadline.since o.clock) with
  | (.ok (some l), o') => if wanted l then (.ok (some l), o') else seek env deadline wanted o'
  | (.ok none, o') => (.ok none, o')
  | (.error e, o') => (.error e, o')
termination_by o.unspent deadline
decreasing_by exact unspent_nextLine_lt _h

/-- How an observation goes wrong. -/
inductive Fault
  | failed (error : ObserverError)
  /-- A deadline lies beyond the clock. -/
  | clockOverflow
  deriving DecidableEq, Repr

def Fault.message : Fault → String
  | .failed error => error.message
  | .clockOverflow => "overflow when adding duration to instant"

/-- Reads up to the first marker that is wanted. -/
def expectMarker (env : System σ) (description : String) (timeout : Duration) (wanted : Marker → Bool)
    (o : Observation σ) : Except Fault ObservedLine × Observation σ :=
  match o.clock.after? timeout with
  | none => (.error .clockOverflow, o)
  | some deadline =>
    match o.seek env deadline (fun l => l.marker.any wanted) with
    | (.ok (some l), o) => (.ok l, o)
    | (.ok none, o) => (.error (.failed (.streamClosed description)), o)
    | (.error (.timeout _ _), o) => (.error (.failed (.timeout description timeout)), o)
    | (.error e, o) => (.error (.failed e), o)

/-- Reads up to the first startup marker; returns the process id in it. -/
def waitForStartup (env : System σ) (timeout : Duration) (o : Observation σ) :
    Except Fault UInt32 × Observation σ :=
  match o.expectMarker env "PROCESS_STARTED_PID" timeout Marker.isProcessStarted with
  | (.error e, o) => (.error e, o)
  | (.ok l, o) =>
    match l.marker with
    | some (.processStarted pid) => (.ok pid, o)
    | _ => (.error (.failed (.streamClosed "PROCESS_STARTED_PID")), o)

/-- Reads all that arrives in time; returns whether the output was closed by then. -/
def drain (env : System σ) (timeout : Duration) (o : Observation σ) : Except Fault Bool × Observation σ :=
  match o.clock.after? timeout with
  | none => (.error .clockOverflow, o)
  | some deadline =>
    match o.seek env deadline (fun _ => false) with
    | (.ok _, o) => (.ok true, o)
    | (.error (.timeout _ _), o) => (.ok false, o)
    | (.error e, o) => (.error (.failed e), o)

/-! ### Signals -/

/-- Sends a signal by its number. -/
def send (env : System σ) (target : SignalTarget) (number : Nat) (o : Observation σ) :
    Except ObserverError Unit × Observation σ :=
  let (failure, seen, s) := env.send o.system target number
  let o := { o with system := s, sent := o.sent ++ [(target, number)] }.seeAll seen
  match failure with
  | none => (.ok (), o)
  | some errno => (.error (.signal ((signalName? number).getD "") target.text errno), o)

/-- Asks the program to end. -/
def signal (env : System σ) (request : ShutdownSignal) (o : Observation σ) :
    Except ObserverError Unit × Observation σ :=
  o.send env (.process o.pid) request.number

/-- Asks every process of the program's group to end. -/
def signalGroup (env : System σ) (request : ShutdownSignal) (o : Observation σ) :
    Except ObserverError Unit × Observation σ :=
  o.send env (.group o.pid) request.number

/-! ### The end of the program -/

/-- Takes note of the end of the program, if it has come and the system tells it. -/
def tryWait (env : System σ) (o : Observation σ) : Except ObserverError (Option ExitOutcome) × Observation σ :=
  match o.outcome with
  | some outcome => (.ok (some outcome), o)
  | none =>
    match o.waitError with
    | some e => (.error (.io e), { o with waitError := none })
    | none =>
      match o.status with
      | some status =>
        (.ok (some status.outcome), { o with system := env.reap o.system o.pid, outcome := some status.outcome })
      | none => (.ok none, o)

/-- Whether asking how the program ended has an answer, or a failure. -/
def answerable (o : Observation σ) : Bool := o.status.isSome || o.waitError.isSome

/-- Waits for the end of the program. -/
def wait (env : System σ) (timeout : Duration) (o : Observation σ) :
    Except ObserverError ExitOutcome × Observation σ :=
  match o.outcome with
  | some outcome => (.ok outcome, o)
  | none =>
    match (o.await env answerable (o.clock.alarm timeout)).tryWait env with
    | (.ok (some outcome), o) => (.ok outcome, o)
    | (.ok none, o) => (.error (.timeout ((SignalTarget.process o.pid).text ++ " to exit") timeout), o)
    | (.error e, o) => (.error e, o)

/-- The number of the signal that no program can refuse. -/
def killNumber : Nat := 9

/-- How long to wait for the end of a program after that signal. -/
def killWait : Duration := .ofSecs 1

/-- Ends the program: asks its group, waits for a while, and kills the group if its time has run out. -/
def stop (env : System σ) (grace : Duration) (o : Observation σ) :
    Except ObserverError ExitOutcome × Observation σ :=
  match (o.signalGroup env .terminate).2.wait env grace with
  | (.ok outcome, o) => (.ok outcome, o)
  | (.error (.timeout _ _), o) => (o.send env (.group o.pid) killNumber).2.wait env killWait
  | (.error e, o) => (.error e, o)

/-! ### The start -/

/-- Starts a program and its observation. -/
def spawn (env : System σ) (launch : Launch) (clock : Instant) (s : σ) :
    Except ObserverError (Observation σ) :=
  match env.spawn s launch.command with
  | (.error source, _) => .error (.spawn launch.display source)
  | (.ok started, s) =>
    match started.pid with
    | none => .error .noPid
    | some pid =>
      if started.captured then
        .ok (({ system := s, pid := pid, clock := clock, transcript := { started := clock } } : Observation σ).seeAll
          started.seen)
      else .error .missingStdout

end Observation

end OrderlyExit
