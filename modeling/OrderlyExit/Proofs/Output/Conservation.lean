import Mathlib.Data.List.Forall2
import OrderlyExit.Proofs.Output.Emission

/-! No byte that a sink takes is lost, made up or moved. When markers are emitted one after another, going on after
    failures, what has been let out and what is pending are always the bytes that the sink has taken: a part of each
    line, in the order of the emissions, and the whole line unless a write failed within it. -/

namespace OrderlyExit
namespace Outlet

variable {σ : Type u} {o o' : Outlet σ}

/-! ### Series of emissions -/

/-- One emission of a series, with the outlet before and after it. -/
structure Attempt (σ : Type u) where
  time : Nat
  marker : Marker
  result : Except IoError Unit
  before : Outlet σ
  after : Outlet σ

/-- Emits one marker after another, each at its time, whatever becomes of it. -/
def attempts (sink : Sink σ) (o : Outlet σ) : List (Nat × Marker) → List (Attempt σ)
  | [] => []
  | (time, m) :: plan =>
    let (r, o') := o.emit sink time m
    ⟨time, m, r, o, o'⟩ :: attempts sink o' plan

theorem map_attempts (sink : Sink σ) (o : Outlet σ) (plan : List (Nat × Marker)) :
    (attempts sink o plan).map (fun a => (a.time, a.marker)) = plan := by
  induction plan generalizing o with
  | nil => rfl
  | cons head plan ih => exact congrArg (head :: ·) (ih _)

/-! ### One emission -/

/-- The calls `cs` of an emission made the sink take `part` of the line. The emission succeeds exactly if this is the
    whole line and a flush succeeded, a flush is tried only once the whole line is taken, and a flush that succeeds
    lets out all that is pending while everything else lets nothing out. -/
structure Attempt.Conserves (a : Attempt σ) (cs : List SinkCall) (part : List UInt8) : Prop where
  calls : a.after.calls = a.before.calls ++ cs
  taken : cs.flatMap SinkCall.taken = part
  isPrefix : part <+: a.marker.line
  ok_iff : a.result = .ok () ↔ part = a.marker.line ∧ SinkCall.flush none ∈ cs
  whole : ∀ failure, SinkCall.flush failure ∈ cs → part = a.marker.line
  noFlush : ∀ c ∈ cs, c.isFlush = false → c.failure? ≠ none → ∀ d ∈ cs, d.isFlush = false
  letOut : a.result = .ok () →
    a.after.pending = [] ∧ a.after.flushed = a.before.flushed ++ [⟨a.time, a.before.pending ++ a.marker.line⟩]
  held : a.result ≠ .ok () →
    a.after.pending = a.before.pending ++ part ∧ a.after.flushed = a.before.flushed

/-- Among writes that did not fail and a flush, no write failed. -/
theorem not_failed_of_unbroken {cs : List SinkCall} {failure : Option IoError} (h : Unbroken cs) {c : SinkCall}
    (hc : c ∈ cs ++ [.flush failure]) (hwrite : c.isFlush = false) : c.failure? = none := by
  rcases List.mem_append.mp hc with hc | hc
  · exact h c hc
  · obtain rfl := List.mem_singleton.mp hc
    cases hwrite

theorem taken_flush {cs : List SinkCall} {bytes : List UInt8} (h : cs.flatMap SinkCall.taken = bytes)
    (failure : Option IoError) : (cs ++ [SinkCall.flush failure]).flatMap SinkCall.taken = bytes := by
  rw [List.flatMap_append, h, List.flatMap_singleton]
  exact List.append_nil bytes

theorem Emitted.conserves {time : Nat} {m : Marker} {r : Except IoError Unit} (h : Emitted time m o o' r) :
    ∃ cs part, Attempt.Conserves ⟨time, m, r, o, o'⟩ cs part := by
  cases h with
  | @out cs w hcs htook hcalls hpending hflushed =>
    exact ⟨cs ++ [.flush none], m.line, {
      calls := by rw [hcalls, htook.calls, List.append_assoc]
      taken := taken_flush htook.bytes none
      isPrefix := List.prefix_rfl
      ok_iff := iff_of_true rfl ⟨rfl, List.mem_append_right cs (List.mem_singleton_self _)⟩
      whole := fun _ _ => rfl
      noFlush := fun c hc hwrite hfail => absurd (not_failed_of_unbroken hcs hc hwrite) hfail
      letOut := fun _ => ⟨hpending, by rw [hflushed, htook.flushed, htook.pending]⟩
      held := fun hne => absurd rfl hne }⟩
  | @held e cs w hcs htook hcalls hpending hflushed =>
    have hnone : SinkCall.flush none ∉ cs ++ [.flush (some e)] := fun hmem => by
      rcases List.mem_append.mp hmem with hmem | hmem
      · cases htook.writes _ hmem
      · cases List.mem_singleton.mp hmem
    exact ⟨cs ++ [.flush (some e)], m.line, {
      calls := by rw [hcalls, htook.calls, List.append_assoc]
      taken := taken_flush htook.bytes (some e)
      isPrefix := List.prefix_rfl
      ok_iff := iff_of_false nofun fun h => hnone h.2
      whole := fun _ _ => rfl
      noFlush := fun c hc hwrite hfail => absurd (not_failed_of_unbroken hcs hc hwrite) hfail
      letOut := nofun
      held := fun _ => ⟨hpending.trans htook.pending, hflushed.trans htook.flushed⟩ }⟩
  | @cut e cs offered reply taken left hcs hfail htook hline hleft =>
    have hno : ∀ failure, SinkCall.flush failure ∉ cs ++ [.write offered reply] := fun _ hmem => by
      cases htook.writes _ hmem
    exact ⟨cs ++ [.write offered reply], taken, {
      calls := htook.calls
      taken := htook.bytes
      isPrefix := ⟨left, hline⟩
      ok_iff := iff_of_false nofun fun h => hno none h.2
      whole := fun failure hmem => absurd hmem (hno failure)
      noFlush := fun _ _ _ _ => htook.writes
      letOut := nofun
      held := fun _ => ⟨htook.pending, htook.flushed⟩ }⟩

/-- What has been let out and what is pending grow by what the emission made the sink take. -/
theorem Attempt.Conserves.accepted {a : Attempt σ} {cs : List SinkCall} {part : List UInt8} (h : a.Conserves cs part) :
    a.after.accepted = a.before.accepted ++ part := by
  unfold Outlet.accepted
  by_cases hok : a.result = .ok ()
  · obtain ⟨hpending, hflushed⟩ := h.letOut hok
    rw [hpending, hflushed, (h.ok_iff.mp hok).1, List.flatMap_append, List.flatMap_singleton, List.append_nil,
      List.append_assoc]
  · obtain ⟨hpending, hflushed⟩ := h.held hok
    rw [hpending, hflushed, List.append_assoc]

/-! ### All of them -/

/-- What the sink has taken since the outlet was new. -/
def received (o : Outlet σ) : List UInt8 := o.calls.flatMap SinkCall.taken

theorem Attempt.Conserves.received {a : Attempt σ} {cs : List SinkCall} {part : List UInt8} (h : a.Conserves cs part) :
    a.after.received = a.before.received ++ part := by
  rw [Outlet.received, h.calls, List.flatMap_append, h.taken, Outlet.received]

/-- Each emission of a series adds its part to what has been taken before. -/
theorem exists_parts (sink : Sink σ) (o : Outlet σ) (plan : List (Nat × Marker)) :
    ∃ parts : List (List UInt8),
      List.Forall₂ (fun a part => ∃ cs, Attempt.Conserves a cs part) (attempts sink o plan) parts ∧
      ∀ k a, (attempts sink o plan)[k]? = some a →
        a.after.accepted = o.accepted ++ (parts.take (k + 1)).flatten ∧
        a.after.received = o.received ++ (parts.take (k + 1)).flatten := by
  induction plan generalizing o with
  | nil => exact ⟨[], .nil, fun k a h => by cases h⟩
  | cons head plan ih =>
    obtain ⟨time, m⟩ := head
    obtain ⟨cs, part, hfirst⟩ := (emit_emitted sink time o m).conserves
    obtain ⟨parts, hrest, hsum⟩ := ih (o.emit sink time m).2
    refine ⟨part :: parts, .cons ⟨cs, hfirst⟩ hrest, fun k a ha => ?_⟩
    cases k with
    | zero =>
      obtain rfl := Option.some.inj ha
      rw [List.take_succ_cons, List.take_zero, List.flatten_singleton]
      exact ⟨hfirst.accepted, hfirst.received⟩
    | succ k =>
      obtain ⟨haccepted, hreceived⟩ := hsum k a ha
      rw [List.take_succ_cons, List.flatten_cons, ← List.append_assoc, ← List.append_assoc, haccepted, hreceived]
      exact ⟨congrArg (· ++ _) hfirst.accepted, congrArg (· ++ _) hfirst.received⟩

theorem received_of_mem_attempts {sink : Sink σ} {start : σ} {plan : List (Nat × Marker)} {a : Attempt σ}
    (h : a ∈ attempts sink { state := start } plan) : a.after.received = a.after.accepted := by
  obtain ⟨parts, -, hsum⟩ := exists_parts sink { state := start } plan
  obtain ⟨k, hk⟩ := List.mem_iff_getElem?.mp h
  obtain ⟨haccepted, hreceived⟩ := hsum k a hk
  exact hreceived.trans haccepted.symm

/-- Bytes are conserved, whatever the sink does. Markers are emitted one after another, going on after failures. After
every emission the flushed entries and the pending bytes behind them are the bytes that the sink has taken, and these
are a part of each line so far. The calls of an emission make the sink take a prefix of its line, and the whole of it
before a flush is tried. It succeeds exactly if the sink took the whole line and the flush succeeded; then nothing is
pending any more, and the one new entry is what was pending with the line behind it. Otherwise there is no new entry,
and after a write that failed no flush is tried. -/
theorem attempts_conserve (sink : Sink σ) (start : σ) (plan : List (Nat × Marker)) :
    let series := attempts sink { state := start } plan
    series.map (fun a => (a.time, a.marker)) = plan ∧
    ∃ parts : List (List UInt8),
      List.Forall₂ (fun a part => ∃ cs, Attempt.Conserves a cs part) series parts ∧
      ∀ k a, series[k]? = some a →
        a.after.flushed.flatMap (·.bytes) ++ a.after.pending = a.after.calls.flatMap SinkCall.taken ∧
        a.after.calls.flatMap SinkCall.taken = (parts.take (k + 1)).flatten := by
  intro series
  obtain ⟨parts, hparts, hsum⟩ := exists_parts sink { state := start } plan
  refine ⟨map_attempts sink _ plan, parts, hparts, fun k a ha => ?_⟩
  obtain ⟨haccepted, hreceived⟩ := hsum k a ha
  exact ⟨haccepted.trans hreceived.symm, hreceived⟩

end Outlet
end OrderlyExit
