import OrderlyExit.Proofs.Output.Conservation

/-! The pace of a sink is not seen. Sinks within the same limits may take as little at once as they like and interrupt
    writes as often as they like: the loop that goes on writing has the effect of a single write of all that fits, so
    the emissions of every series come to the same. None of them makes more calls than its line is worth. -/

namespace OrderlyExit

/-! ### Limits -/

/-- What a sink takes and refuses in the end. -/
structure Limits where
  /-- How many bytes it takes in all. -/
  capacity : Option Nat
  /-- How a write without room fails; without it such a write takes no byte. -/
  refusal : Option IoError
  /-- The flush call that fails, counted from one. -/
  flushFailsAt : Option Nat
  flushError : IoError

/-- How far a sink has come within its limits. -/
structure Gauge where
  accepted : Nat
  flushes : Nat

namespace Limits

/-- How many of `offered` bytes find room behind `accepted` ones. -/
def room (limits : Limits) (accepted offered : Nat) : Nat :=
  match limits.capacity with
  | some c => min offered (c - accepted)
  | none => offered

/-- What a write without room fails with. -/
def refused (limits : Limits) : IoError := limits.refusal.getD .wroteNothing

/-- The replies to a write of `offered` bytes, each with what becomes of the gauge: an interruption at any time, any
    number of bytes that find room except none, and a refusal when there is no room. -/
def Allows (limits : Limits) (g : Gauge) (offered : Nat) : Reply → Gauge → Prop
  | .interrupted, g' => g' = g
  | .accepted (n + 1), g' =>
    n + 1 ≤ limits.room g.accepted offered ∧ g' = { g with accepted := g.accepted + (n + 1) }
  | .failed e, g' => limits.room g.accepted offered = 0 ∧ limits.refusal = some e ∧ g' = g
  | .accepted 0, g' => limits.room g.accepted offered = 0 ∧ limits.refusal = none ∧ g' = g

/-- The answer to the next flush. -/
def flushFailure (limits : Limits) (g : Gauge) : Option IoError :=
  if limits.flushFailsAt = some (g.flushes + 1) then some limits.flushError else none

end Limits

/-- A sink that keeps to the limits, at whatever pace. -/
structure Sink.KeepsTo {σ : Type u} (sink : Sink σ) (limits : Limits) (gauge : σ → Gauge) : Prop where
  write : ∀ s bytes, bytes ≠ [] →
    limits.Allows (gauge s) bytes.length (sink.write s bytes).1 (gauge (sink.write s bytes).2)
  flush : ∀ s, (sink.flush s).1 = limits.flushFailure (gauge s) ∧
    gauge (sink.flush s).2 = { gauge s with flushes := (gauge s).flushes + 1 }

/-- No write is interrupted more than `k` times in a row. -/
def Sink.Patient {σ : Type u} (sink : Sink σ) (k : Nat) : Prop := ∀ s bytes, sink.patience s bytes ≤ k

namespace SinkScript

def limits (script : SinkScript) : Limits :=
  ⟨script.capacity, script.refusal, script.flushFailsAt, script.flushError⟩

def gauge (s : State) : Gauge := ⟨s.accepted, s.flushes⟩

theorem isFull_iff (script : SinkScript) (accepted : Nat) {offered : Nat} (h : 0 < offered) :
    script.isFull accepted = true ↔ script.limits.room accepted offered = 0 := by
  simp only [isFull, limits, Limits.room]
  cases script.capacity with
  | none => simpa using Nat.ne_of_gt h
  | some c =>
    simp only [decide_eq_true_eq]
    omega

theorem share_eq (script : SinkScript) (accepted offered : Nat) : script.share accepted offered =
    match script.chunk with
    | some c => min (script.limits.room accepted offered) c
    | none => script.limits.room accepted offered := rfl

theorem share_bounds {script : SinkScript} (chunk : script.chunk ≠ some 0) {accepted offered : Nat}
    (room : script.limits.room accepted offered ≠ 0) :
    0 < script.share accepted offered ∧ script.share accepted offered ≤ script.limits.room accepted offered := by
  rw [share_eq]
  split
  · rename_i c hc
    have hc0 : c ≠ 0 := fun h => chunk (h ▸ hc)
    omega
  · omega

/-- A scripted writer keeps to its limits, whatever its chunks are and whether it interrupts writes. -/
theorem keepsTo {script : SinkScript} (chunk : script.chunk ≠ some 0) :
    script.sink.KeepsTo script.limits gauge where
  write s bytes hbytes := by
    have hoffered : 0 < bytes.length := List.length_pos_iff.mpr hbytes
    simp only [sink, SinkScript.write]
    split
    · exact rfl
    · by_cases hfull : script.isFull s.accepted = true
      · have hroom := (isFull_iff script s.accepted hoffered).mp hfull
        simp only [hfull, ↓reduceIte]
        cases href : script.refusal with
        | some e => exact ⟨hroom, href, rfl⟩
        | none => exact ⟨hroom, href, rfl⟩
      · have hroom := fun h => hfull ((isFull_iff script s.accepted hoffered).mpr h)
        simp only [hfull, Bool.false_eq_true, ↓reduceIte]
        obtain ⟨hpos, hle⟩ := share_bounds chunk hroom
        obtain ⟨n, hn⟩ := Nat.exists_eq_add_of_lt hpos
        rw [Nat.zero_add] at hn
        rw [hn] at hle ⊢
        exact ⟨hle, rfl⟩
  flush s := by
    by_cases h : script.flushFailsAt = some (s.flushes + 1)
    · simp [sink, SinkScript.flush, Limits.flushFailure, limits, gauge, h]
    · simp [sink, SinkScript.flush, Limits.flushFailure, limits, gauge, h]

theorem patient (script : SinkScript) : script.sink.Patient 1 := fun s _ => by
  simp only [sink, patience]
  split <;> decide

end SinkScript

/-! ### Writing in one go -/

/-- What is left of an outlet when its sink's pace is forgotten. -/
structure Ledger where
  gauge : Gauge
  pending : List UInt8
  flushed : List Flushed

namespace Limits
variable {limits : Limits} {x : Ledger}

/-- A single write of all that finds room. -/
def write (limits : Limits) (x : Ledger) (bytes : List UInt8) : Except IoError Unit × Ledger :=
  let n := limits.room x.gauge.accepted bytes.length
  (if n = bytes.length then .ok () else .error limits.refused,
    { x with
      gauge := { x.gauge with accepted := x.gauge.accepted + n }
      pending := x.pending ++ bytes.take n })

def flush (limits : Limits) (clock : Nat) (x : Ledger) : Except IoError Unit × Ledger :=
  let gauge := { x.gauge with flushes := x.gauge.flushes + 1 }
  match limits.flushFailure x.gauge with
  | some e => (.error e, { x with gauge })
  | none => (.ok (), ⟨gauge, [], x.flushed ++ [⟨clock, x.pending⟩]⟩)

/-- An emission whose line is written in one go. -/
def emit (limits : Limits) (clock : Nat) (x : Ledger) (m : Marker) : Except IoError Unit × Ledger :=
  match limits.write x m.line with
  | (.ok (), x') => limits.flush clock x'
  | (.error e, x') => (.error e, x')

/-- A series of such emissions, going on after failures. -/
def emitAll (limits : Limits) (x : Ledger) : List (Nat × Marker) → List (Except IoError Unit × Ledger)
  | [] => []
  | (time, m) :: plan => limits.emit time x m :: emitAll limits (limits.emit time x m).2 plan

theorem room_le (limits : Limits) (accepted offered : Nat) : limits.room accepted offered ≤ offered := by
  unfold room
  split <;> omega

theorem room_of_le {accepted offered n : Nat} (h : n ≤ limits.room accepted offered) : limits.room accepted n = n := by
  cases hc : limits.capacity with
  | none => simp only [room, hc]
  | some c =>
    simp only [room, hc] at h ⊢
    omega

theorem room_add {accepted m : Nat} (h : limits.room accepted m = m) (n : Nat) :
    limits.room accepted (m + n) = m + limits.room (accepted + m) n := by
  cases hc : limits.capacity with
  | none => simp only [room, hc]
  | some c =>
    simp only [room, hc] at h ⊢
    omega

theorem room_add_of_lt {accepted m : Nat} (h : limits.room accepted m < m) (n : Nat) :
    limits.room accepted (m + n) = limits.room accepted m := by
  cases hc : limits.capacity with
  | none =>
    simp only [room, hc] at h
    exact absurd h (Nat.lt_irrefl m)
  | some c =>
    simp only [room, hc] at h ⊢
    omega

theorem write_of_fits {bytes : List UInt8} (h : limits.room x.gauge.accepted bytes.length = bytes.length) :
    limits.write x bytes = (.ok (), { x with
      gauge := { x.gauge with accepted := x.gauge.accepted + bytes.length }
      pending := x.pending ++ bytes }) := by
  simp only [write, h, ↓reduceIte, List.take_length]

theorem write_of_full {bytes : List UInt8} (hne : bytes ≠ [])
    (h : limits.room x.gauge.accepted bytes.length = 0) : limits.write x bytes = (.error limits.refused, x) := by
  have hlen : 0 ≠ bytes.length := Nat.ne_of_lt (List.length_pos_iff.mpr hne)
  simp only [write, h, hlen, ↓reduceIte, List.take_zero, List.append_nil, Nat.add_zero]

/-- Writing two parts one after the other is writing both at once. -/
theorem write_append (x : Ledger) (xs ys : List UInt8) :
    limits.write x (xs ++ ys) =
      match limits.write x xs with
      | (.ok (), x') => limits.write x' ys
      | (.error e, x') => (.error e, x') := by
  by_cases hfits : limits.room x.gauge.accepted xs.length = xs.length
  · rw [write_of_fits hfits]
    simp only [write, List.length_append, room_add hfits ys.length, Nat.add_left_cancel_iff, Nat.add_assoc,
      List.append_assoc, List.take_length_add_append]
  · have hlt := Nat.lt_of_le_of_ne (limits.room_le x.gauge.accepted xs.length) hfits
    have hne : limits.room x.gauge.accepted xs.length ≠ xs.length + ys.length := by omega
    simp only [write, List.length_append, room_add_of_lt hlt, hfits, hne, ↓reduceIte,
      List.take_append_of_le_length (Nat.le_of_lt hlt)]

end Limits

/-! ### The pace forgotten -/

namespace Outlet

section
variable {σ : Type u} {sink : Sink σ} {limits : Limits} {gauge : σ → Gauge}

def ledger (gauge : σ → Gauge) (o : Outlet σ) : Ledger := ⟨gauge o.state, o.pending, o.flushed⟩

theorem allowed (keeps : sink.KeepsTo limits gauge) {o : Outlet σ} {b : UInt8} {rest : List UInt8} {reply : Reply}
    {s : σ} (h : sink.write o.state (b :: rest) = (reply, s)) :
    limits.Allows (o.ledger gauge).gauge (b :: rest).length reply (gauge s) := by
  have hallows := keeps.write o.state (b :: rest) (List.cons_ne_nil b rest)
  rwa [h] at hallows

/-- The loop that goes on writing has the effect of a single write of all that fits. -/
theorem writeAll_ledger (keeps : sink.KeepsTo limits gauge) (o : Outlet σ) (bytes : List UInt8) :
    ((o.writeAll sink bytes).1, (o.writeAll sink bytes).2.ledger gauge) = limits.write (o.ledger gauge) bytes := by
  fun_induction writeAll sink o bytes with
  | case1 o =>
    rw [Limits.write_of_fits (Nat.le_zero.mp (limits.room_le _ 0)), List.append_nil]
    rfl
  | case2 o b rest s h ih =>
    have hgauge : gauge s = gauge o.state := allowed keeps h
    rw [ih]
    simp only [ledger, wrote, hgauge, List.append_nil]
  | case3 o b rest e s h =>
    obtain ⟨hfull, hrefusal, hgauge⟩ := allowed keeps h
    rw [Limits.write_of_full (List.cons_ne_nil b rest) hfull, Limits.refused, hrefusal]
    simp only [ledger, wrote, hgauge, List.append_nil, Option.getD_some]
  | case4 o b rest s h =>
    obtain ⟨hfull, hrefusal, hgauge⟩ := allowed keeps h
    rw [Limits.write_of_full (List.cons_ne_nil b rest) hfull, Limits.refused, hrefusal]
    simp only [ledger, wrote, hgauge, List.append_nil, Option.getD_none]
  | case5 o b rest n s h ih =>
    obtain ⟨hfits, hgauge⟩ := allowed keeps h
    have hlen : ((b :: rest).take (n + 1)).length = n + 1 :=
      List.length_take_of_le (Nat.le_trans hfits (limits.room_le _ _))
    have hroom : limits.room (o.ledger gauge).gauge.accepted ((b :: rest).take (n + 1)).length =
        ((b :: rest).take (n + 1)).length := by
      rw [hlen]
      exact Limits.room_of_le hfits
    have hfirst := Limits.write_of_fits hroom
    calc _ = limits.write ((o.wrote (b :: rest) (.accepted (n + 1)) s ((b :: rest).take (n + 1))).ledger gauge)
            (rest.drop n) := ih
      _ = limits.write (o.ledger gauge) ((b :: rest).take (n + 1) ++ rest.drop n) := by
          rw [Limits.write_append, hfirst, hlen]
          simp only [ledger, wrote, hgauge]
      _ = limits.write (o.ledger gauge) (b :: rest) :=
          congrArg (limits.write _) (List.take_append_drop (n + 1) (b :: rest))

theorem writeEach_ledger (keeps : sink.KeepsTo limits gauge) (o : Outlet σ) (pieces : List (List UInt8)) :
    ((o.writeEach sink pieces).1, (o.writeEach sink pieces).2.ledger gauge) =
      limits.write (o.ledger gauge) pieces.flatten := by
  induction pieces generalizing o with
  | nil => exact writeAll_ledger keeps o [] ▸ by rw [writeEach, writeAll]
  | cons piece pieces ih =>
    have hpiece := writeAll_ledger keeps o piece
    rw [writeEach, List.flatten_cons, Limits.write_append, ← hpiece]
    rcases o.writeAll sink piece with ⟨r, o'⟩
    cases r with
    | ok => exact ih o'
    | error e => rfl

theorem flush_ledger (keeps : sink.KeepsTo limits gauge) (clock : Nat) (o : Outlet σ) :
    ((o.flush sink clock).1, (o.flush sink clock).2.ledger gauge) = limits.flush clock (o.ledger gauge) := by
  obtain ⟨hfailure, hgauge⟩ := keeps.flush o.state
  unfold flush Limits.flush
  rcases hf : sink.flush o.state with ⟨failure, s⟩
  rw [hf] at hfailure hgauge
  simp only [ledger, ← hfailure]
  cases failure <;> simp only [hgauge]

theorem emit_ledger (keeps : sink.KeepsTo limits gauge) (clock : Nat) (o : Outlet σ) (m : Marker) :
    ((o.emit sink clock m).1, (o.emit sink clock m).2.ledger gauge) = limits.emit clock (o.ledger gauge) m := by
  have hwrite := writeEach_ledger keeps o (m.pieces.map Utf8.encode)
  rw [← List.flatMap_def, m.flatMap_encode_pieces] at hwrite
  unfold emit Limits.emit
  rw [← hwrite]
  rcases o.writeEach sink (m.pieces.map Utf8.encode) with ⟨r, o'⟩
  cases r with
  | ok => exact flush_ledger keeps clock o'
  | error e => rfl

theorem attempts_ledger (keeps : sink.KeepsTo limits gauge) (o : Outlet σ) (plan : List (Nat × Marker)) :
    (attempts sink o plan).map (fun a => (a.result, a.after.ledger gauge)) =
      limits.emitAll (o.ledger gauge) plan := by
  induction plan generalizing o with
  | nil => rfl
  | cons head plan ih =>
    obtain ⟨time, m⟩ := head
    have hemit := emit_ledger keeps time o m
    rw [Limits.emitAll, ← hemit, ← ih]
    rfl

end

/-! ### How many calls -/

section
variable {σ : Type u} {sink : Sink σ} {k : Nat}

theorem state_wrote (o : Outlet σ) (offered : List UInt8) (reply : Reply) (next : σ) (taken : List UInt8) :
    (o.wrote offered reply next taken).state = next := rfl

theorem length_calls_wrote (o : Outlet σ) (offered : List UInt8) (reply : Reply) (next : σ) (taken : List UInt8) :
    (o.wrote offered reply next taken).calls.length = o.calls.length + 1 := List.length_append

/-- Every call that is not interrupted takes a byte, unless it is the last one. The interruptions that are still to be
    borne before the next byte are counted by the patience of the sink. -/
theorem length_calls_lt (patient : sink.Patient k) (o : Outlet σ) {bytes : List UInt8} (hne : bytes ≠ []) :
    (o.writeAll sink bytes).2.calls.length + k ≤
      o.calls.length + sink.patience o.state bytes + (k + 1) * bytes.length := by
  fun_induction writeAll sink o bytes with
  | case1 o => exact absurd rfl hne
  | case2 o b rest s h ih =>
    have hless : sink.patience s (b :: rest) < _ := h ▸ sink.patience_lt o.state (b :: rest) (by rw [h])
    have hcalls := ih hne
    rw [length_calls_wrote, state_wrote] at hcalls
    omega
  | case3 o b rest e s h =>
    rw [length_calls_wrote, List.length_cons, Nat.mul_succ]
    omega
  | case4 o b rest s h =>
    rw [length_calls_wrote, List.length_cons, Nat.mul_succ]
    omega
  | case5 o b rest n s h ih =>
    have hfewer : (k + 1) * (rest.drop n).length ≤ (k + 1) * rest.length :=
      Nat.mul_le_mul_left _ (by rw [List.length_drop]; omega)
    rw [List.length_cons, Nat.mul_succ]
    by_cases hrest : rest.drop n = []
    · rw [hrest, writeAll, length_calls_wrote]
      omega
    · have hcalls := ih hrest
      have hpatience := patient s (rest.drop n)
      rw [length_calls_wrote, state_wrote] at hcalls
      omega

theorem length_calls_writeAll_le (patient : sink.Patient k) (o : Outlet σ) (bytes : List UInt8) :
    (o.writeAll sink bytes).2.calls.length ≤ o.calls.length + (k + 1) * bytes.length := by
  by_cases hne : bytes = []
  · rw [hne, writeAll]
    exact Nat.le_add_right _ _
  · have hcalls := length_calls_lt patient o hne
    have hpatience := patient o.state bytes
    omega

theorem length_calls_writeEach_le (patient : sink.Patient k) (o : Outlet σ) (pieces : List (List UInt8)) :
    (o.writeEach sink pieces).2.calls.length ≤ o.calls.length + (k + 1) * pieces.flatten.length := by
  induction pieces generalizing o with
  | nil => exact Nat.le_add_right _ _
  | cons piece pieces ih =>
    have hpiece := length_calls_writeAll_le patient o piece
    rw [writeEach, List.flatten_cons, List.length_append, Nat.mul_add]
    rcases hw : o.writeAll sink piece with ⟨r, o'⟩
    rw [hw] at hpiece
    cases r with
    | ok =>
      have hrest := ih o'
      simp only at hpiece ⊢
      omega
    | error e =>
      simp only at hpiece ⊢
      omega

/-- An emission makes at most `k + 1` calls for each byte of its line, and one flush. -/
theorem length_calls_emit_le (patient : sink.Patient k) (clock : Nat) (o : Outlet σ) (m : Marker) :
    (o.emit sink clock m).2.calls.length ≤ o.calls.length + (k + 1) * m.line.length + 1 := by
  have hwrite := length_calls_writeEach_le patient o (m.pieces.map Utf8.encode)
  rw [← List.flatMap_def, m.flatMap_encode_pieces] at hwrite
  unfold emit
  rcases hw : o.writeEach sink (m.pieces.map Utf8.encode) with ⟨r, o'⟩
  rw [hw] at hwrite
  cases r with
  | ok =>
    have hflush : (o'.flush sink clock).2.calls.length = o'.calls.length + 1 := by
      unfold flush
      rcases sink.flush o'.state with ⟨failure, s⟩
      cases failure <;> exact List.length_append
    simp only at hwrite ⊢
    omega
  | error e => exact Nat.le_succ_of_le hwrite

theorem length_calls_attempts_le (patient : sink.Patient k) (o : Outlet σ) (plan : List (Nat × Marker)) :
    ∀ a ∈ attempts sink o plan, a.after.calls.length ≤ a.before.calls.length + (k + 1) * a.marker.line.length + 1 := by
  induction plan generalizing o with
  | nil => exact fun a h => by cases h
  | cons head plan ih => exact List.forall_mem_cons.mpr ⟨length_calls_emit_le patient head.1 o head.2, ih _⟩

end

/-! ### Two sinks -/

/-- What can be seen of an emission: its result, what is pending and what has been let out after it, and how many bytes
    the sink has taken by then. -/
def Attempt.seen {σ : Type u} (a : Attempt σ) : Except IoError Unit × List UInt8 × List Flushed × Nat :=
  (a.result, a.after.pending, a.after.flushed, (a.after.calls.flatMap SinkCall.taken).length)

/-- The same, from the ledger after the emission. -/
def seenIn (x : Except IoError Unit × Ledger) : Except IoError Unit × List UInt8 × List Flushed × Nat :=
  (x.1, x.2.pending, x.2.flushed, (x.2.flushed.flatMap (·.bytes) ++ x.2.pending).length)

theorem map_seen {σ : Type u} {sink : Sink σ} {limits : Limits} {gauge : σ → Gauge} (keeps : sink.KeepsTo limits gauge)
    (start : σ) (plan : List (Nat × Marker)) :
    (attempts sink { state := start } plan).map Attempt.seen =
      (limits.emitAll ⟨gauge start, [], []⟩ plan).map seenIn := by
  have hledgers := attempts_ledger keeps { state := start } plan
  rw [ledger] at hledgers
  rw [← hledgers, List.map_map]
  refine List.map_congr_left fun a ha => ?_
  have hreceived : a.after.calls.flatMap SinkCall.taken = a.after.accepted := received_of_mem_attempts ha
  rw [Attempt.seen, hreceived]
  rfl

/-- Partial writes and interruptions are not seen. Two sinks within the same limits, of the same capacity, failing in
the same way once it is reached, with the same flush failing, may take any number of bytes at a time except none, and
interrupt any writes. From the same point of their limits on, a series of emissions comes to the same with both:
each has the same result, the same bytes are pending and the same entries flushed after it, and as many bytes have
been taken. Every emission comes to an end: where no more than `k` writes in a row are interrupted, it makes at most
`k + 1` calls for each byte of its line, and a flush. -/
theorem attempts_indifferent {σ : Type u} {τ : Type v} {sink : Sink σ} {other : Sink τ} {limits : Limits}
    {gauge : σ → Gauge} {gauge' : τ → Gauge} (keeps : sink.KeepsTo limits gauge) (keeps' : other.KeepsTo limits gauge')
    (start : σ) (start' : τ) (same : gauge start = gauge' start') (plan : List (Nat × Marker)) :
    let series := attempts sink { state := start } plan
    let series' := attempts other { state := start' } plan
    series.map Attempt.seen = series'.map Attempt.seen ∧
    (∀ k, sink.Patient k → ∀ a ∈ series,
      a.after.calls.length ≤ a.before.calls.length + (k + 1) * a.marker.line.length + 1) ∧
    ∀ k, other.Patient k → ∀ a ∈ series',
      a.after.calls.length ≤ a.before.calls.length + (k + 1) * a.marker.line.length + 1 := by
  intro series series'
  refine ⟨?_, fun k patient => length_calls_attempts_le patient _ plan,
    fun k patient => length_calls_attempts_le patient _ plan⟩
  rw [map_seen keeps, map_seen keeps', same]

/-- A writer that takes three bytes at a time and interrupts every other write, and one that takes all at once: both
have room for forty bytes, so that the second line is cut, and fail the first flush. -/
theorem attempts_indifferent_scripts :
    let slow : SinkScript := { capacity := some 40, chunk := some 3, interrupts := true, flushFailsAt := some 1 }
    let quick : SinkScript := { capacity := some 40, flushFailsAt := some 1 }
    let plan : List (Nat × Marker) := [(0, .processStarted 4294967295), (5, .shutdownStart), (9, .shutdownPid 7)]
    let series := attempts slow.sink { state := {} } plan
    slow.sink.KeepsTo slow.limits SinkScript.gauge ∧ quick.sink.KeepsTo slow.limits SinkScript.gauge ∧
      slow.sink.Patient 1 ∧ series.length = 3 ∧
      series.map Attempt.seen = (attempts quick.sink { state := {} } plan).map Attempt.seen ∧
      ∀ a ∈ series, a.after.calls.length ≤ a.before.calls.length + 2 * a.marker.line.length + 1 := by
  intro slow quick plan series
  have keeps : slow.sink.KeepsTo slow.limits SinkScript.gauge := SinkScript.keepsTo (by decide)
  have keeps' : quick.sink.KeepsTo slow.limits SinkScript.gauge := SinkScript.keepsTo (by decide)
  obtain ⟨hseen, hcalls, -⟩ := attempts_indifferent keeps keeps' {} {} rfl plan
  have hlength : series.length = 3 :=
    (List.length_map _).symm.trans (congrArg List.length (map_attempts slow.sink { state := {} } plan))
  exact ⟨keeps, keeps', slow.patient, hlength, hseen, hcalls 1 slow.patient⟩

end Outlet
end OrderlyExit
