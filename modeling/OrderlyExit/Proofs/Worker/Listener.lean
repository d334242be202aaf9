import OrderlyExit.Worker.Listener

/-! What a listener holds. It is known by which kinds are pending, and after several deliveries these are the kinds
    that were pending and the kinds that were delivered, however often and in whatever order. -/

namespace OrderlyExit
namespace Listener

/-! ### Pending kinds -/

theorem ext_isPending {l l' : Listener} (h : ∀ kind, l.isPending kind = l'.isPending kind) : l = l' := by
  obtain ⟨interrupt, terminate⟩ := l
  obtain ⟨interrupt', terminate'⟩ := l'
  obtain rfl : interrupt = interrupt' := h .interrupt
  obtain rfl : terminate = terminate' := h .terminate
  rfl

theorem isPending_raise (l : Listener) (signal kind : ShutdownSignal) :
    (l.raise signal).isPending kind = (l.isPending kind || decide (kind = signal)) := by
  cases signal <;> cases kind <;> simp [raise, set, isPending]

theorem isPending_raiseAll (l : Listener) (signals : List ShutdownSignal) (kind : ShutdownSignal) :
    (l.raiseAll signals).isPending kind = (l.isPending kind || decide (kind ∈ signals)) := by
  induction signals generalizing l with
  | nil => simp [raiseAll]
  | cons signal signals ih =>
    rw [raiseAll, List.foldl_cons, ← raiseAll, ih, isPending_raise]
    simp [Bool.or_assoc]

/-- What a listener holds depends only on the kinds that were delivered to it. -/
theorem raiseAll_congr {signals signals' : List ShutdownSignal} (h : ∀ kind, kind ∈ signals ↔ kind ∈ signals')
    (l : Listener) : l.raiseAll signals = l.raiseAll signals' :=
  ext_isPending fun kind => by simp only [isPending_raiseAll, h]

theorem raiseAll_append (l : Listener) (signals signals' : List ShutdownSignal) :
    l.raiseAll (signals ++ signals') = (l.raiseAll signals).raiseAll signals' := List.foldl_append

/-! ### What a reception finds -/

/-- A reception finds a kind that is pending. -/
theorem isPending_of_ready? {l : Listener} {interruptFirst : Bool} {kind : ShutdownSignal}
    (h : l.ready? interruptFirst = some kind) : l.isPending kind = true := by
  unfold ready? at h
  split at h
  · rename_i hfirst
    cases h
    exact hfirst.1
  · split at h
    · rename_i hterminate
      cases h
      exact hterminate
    · cases h

theorem ready?_eq_none_iff {l : Listener} {interruptFirst : Bool} :
    l.ready? interruptFirst = none ↔ l.interrupt = false ∧ l.terminate = false := by
  cases hi : l.interrupt <;> cases ht : l.terminate <;> cases interruptFirst <;> simp [ready?, hi, ht]

/-- A reception finds one of the kinds that were delivered. -/
theorem mem_of_ready?_raiseAll {signals : List ShutdownSignal} {interruptFirst : Bool} {kind : ShutdownSignal}
    (h : (raiseAll {} signals).ready? interruptFirst = some kind) : kind ∈ signals := by
  have hpending := isPending_of_ready? h
  rw [isPending_raiseAll] at hpending
  cases kind <;> simpa [isPending] using hpending

/-- A reception has to wait only if nothing was delivered. -/
theorem ready?_raiseAll_eq_none_iff {signals : List ShutdownSignal} {interruptFirst : Bool} :
    (raiseAll {} signals).ready? interruptFirst = none ↔ signals = [] := by
  have hinterrupt := isPending_raiseAll {} signals .interrupt
  have hterminate := isPending_raiseAll {} signals .terminate
  simp only [isPending, Bool.false_or] at hinterrupt hterminate
  rw [ready?_eq_none_iff, hinterrupt, hterminate, decide_eq_false_iff_not, decide_eq_false_iff_not,
    List.eq_nil_iff_forall_not_mem]
  constructor
  · rintro ⟨hi, ht⟩ (_ | _)
    · exact hi
    · exact ht
  · exact fun h => ⟨h _, h _⟩

end Listener
end OrderlyExit
