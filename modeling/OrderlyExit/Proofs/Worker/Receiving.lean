import OrderlyExit.Proofs.Worker.Listener

/-! What is received of what is delivered. A listener is followed from its registration on, through deliveries and
    receptions in any order. A kind is pending exactly if it has been delivered and not been received since, so
    receptions make up no signal and lose none. -/

namespace OrderlyExit

theorem ShutdownSignal.exists_ne : ∀ kind : ShutdownSignal, ∃ other, other ≠ kind
  | .interrupt => ⟨.terminate, nofun⟩
  | .terminate => ⟨.interrupt, nofun⟩

theorem ShutdownSignal.eq_of_ne {kind a b : ShutdownSignal} (ha : a ≠ kind) (hb : b ≠ kind) : a = b := by
  cases kind <;> cases a <;> cases b <;> trivial

/-- What happens to a listener: a delivery, a reception that returns a kind, or one that has to wait. -/
inductive Happening
  | raised (kind : ShutdownSignal)
  | received (kind : ShutdownSignal)
  | waited
  deriving DecidableEq, Repr

/-- A kind has been delivered, and not been received since. -/
def Outstanding (past : List Happening) (kind : ShutdownSignal) : Prop :=
  ∃ before after, past = before ++ .raised kind :: after ∧ .received kind ∉ after

theorem outstanding_concat_iff {past : List Happening} {x : Happening} {kind : ShutdownSignal} :
    Outstanding (past ++ [x]) kind ↔ x = .raised kind ∨ x ≠ .received kind ∧ Outstanding past kind := by
  constructor
  · rintro ⟨before, after, hpast, hafter⟩
    rcases List.eq_nil_or_concat after with rfl | ⟨after, y, rfl⟩
    -- the last thing that happened is the delivery itself, or lies behind it
    · exact Or.inl (List.singleton_inj.mp (List.append_inj' hpast rfl).2)
    · rw [List.concat_eq_append, ← List.cons_append, ← List.append_assoc] at hpast
      obtain ⟨rfl, hxy⟩ := List.append_inj' hpast rfl
      obtain rfl := List.singleton_inj.mp hxy
      rw [List.concat_eq_append, List.mem_append, List.mem_singleton, not_or] at hafter
      exact Or.inr ⟨Ne.symm hafter.2, before, after, rfl, hafter.1⟩
  · rintro (rfl | ⟨hx, before, after, rfl, hafter⟩)
    · exact ⟨past, [], rfl, List.not_mem_nil⟩
    · refine ⟨before, after ++ [x], by rw [List.append_assoc, List.cons_append], fun hmem => ?_⟩
      rcases List.mem_append.mp hmem with hmem | hmem
      · exact hafter hmem
      · exact hx (List.mem_singleton.mp hmem).symm

namespace Listener

/-- One thing happens to a listener. A reception may try either kind first. -/
inductive Step : Listener → Happening → Listener → Prop
  | raise (l : Listener) (kind : ShutdownSignal) : Step l (.raised kind) (l.raise kind)
  | receive {l l' : Listener} {interruptFirst : Bool} {kind : ShutdownSignal}
      (h : l.receive interruptFirst = (some kind, l')) : Step l (.received kind) l'
  | wait {l l' : Listener} {interruptFirst : Bool} (h : l.receive interruptFirst = (none, l')) : Step l .waited l'

/-- All that has happened to a listener since it was registered. -/
inductive History : List Happening → Listener → Prop
  | registered {refusal : ShutdownSignal → Option IoError} {l : Listener} (h : register refusal = .ok l) : History [] l
  | step {past : List Happening} {x : Happening} {l l' : Listener} (h : History past l) (s : Step l x l') :
      History (past ++ [x]) l'

/-! ### Receptions -/

theorem receive_fst (l : Listener) (interruptFirst : Bool) :
    (l.receive interruptFirst).1 = l.ready? interruptFirst := by
  unfold receive
  split <;> (rename_i hready; rw [hready])

theorem isPending_set (l : Listener) (signal kind : ShutdownSignal) (pending : Bool) :
    (l.set signal pending).isPending kind = if kind = signal then pending else l.isPending kind := by
  cases signal <;> cases kind <;> rfl

theorem ready?_eq_none_iff_isPending {l : Listener} {interruptFirst : Bool} :
    l.ready? interruptFirst = none ↔ ∀ kind, l.isPending kind = false := by
  rw [ready?_eq_none_iff]
  exact ⟨fun ⟨hi, ht⟩ kind => by cases kind <;> assumption, fun h => ⟨h .interrupt, h .terminate⟩⟩

/-- A reception takes one pending kind and leaves the other as it is. -/
theorem receive_eq_some {l l' : Listener} {interruptFirst : Bool} {kind : ShutdownSignal}
    (h : l.receive interruptFirst = (some kind, l')) : l.isPending kind = true ∧ l' = l.set kind false := by
  unfold receive at h
  split at h
  · rename_i hready
    cases h
    exact ⟨isPending_of_ready? hready, rfl⟩
  · cases h

theorem receive_eq_none {l l' : Listener} {interruptFirst : Bool} (h : l.receive interruptFirst = (none, l')) :
    (∀ kind, l.isPending kind = false) ∧ l' = l := by
  unfold receive at h
  split at h
  · cases h
  · rename_i hready
    cases h
    exact ⟨ready?_eq_none_iff_isPending.mp hready, rfl⟩

theorem receive_of_both {l : Listener} (h : ∀ kind, l.isPending kind = true) (interruptFirst : Bool) :
    ∃ kind, l.receive interruptFirst = (some kind, l.set kind false) ∧
      kind = if interruptFirst then .interrupt else .terminate := by
  obtain rfl : l = ⟨true, true⟩ := ext_isPending fun kind => by rw [h]; cases kind <;> rfl
  cases interruptFirst <;> exact ⟨_, rfl, rfl⟩

theorem receive_of_one {l : Listener} {other : ShutdownSignal} (h : ∀ kind, l.isPending kind = decide (kind = other))
    (interruptFirst : Bool) : l.receive interruptFirst = (some other, {}) := by
  obtain rfl : l = set {} other true := ext_isPending fun kind => by
    rw [h, isPending_set]
    cases kind <;> cases other <;> rfl
  cases interruptFirst <;> cases other <;> rfl

/-! ### From the registration on -/

theorem eq_of_register {refusal : ShutdownSignal → Option IoError} {l : Listener} (h : register refusal = .ok l) :
    l = {} := by
  unfold register at h
  split at h
  · cases h
  · split at h <;> cases h
    rfl

/-- A delivery makes its kind pending, a reception of it makes it no longer so, and nothing else changes it. -/
theorem Step.isPending_iff {l l' : Listener} {x : Happening} (s : Step l x l') (kind : ShutdownSignal) :
    l'.isPending kind = true ↔ x = .raised kind ∨ x ≠ .received kind ∧ l.isPending kind = true := by
  cases s with
  | raise signal =>
    rw [isPending_raise, Bool.or_eq_true, decide_eq_true_eq, or_comm, eq_comm]
    simp only [Happening.raised.injEq, ne_eq, reduceCtorEq, not_false_eq_true, true_and]
  | @receive _ _ signal h =>
    obtain ⟨-, rfl⟩ := receive_eq_some h
    rw [isPending_set]
    by_cases hkind : kind = signal
    · simp [hkind]
    · simp [hkind, Ne.symm hkind]
  | wait h =>
    obtain ⟨-, rfl⟩ := receive_eq_none h
    simp

theorem History.isPending_iff {past : List Happening} {l : Listener} (h : History past l) (kind : ShutdownSignal) :
    l.isPending kind = true ↔ Outstanding past kind := by
  induction h with
  | registered h =>
    obtain rfl := eq_of_register h
    constructor
    · intro hpending
      cases kind <;> cases hpending
    · rintro ⟨before, after, hpast, -⟩
      exact absurd hpast.symm (List.append_ne_nil_of_right_ne_nil before (List.cons_ne_nil _ after))
  | step _ s ih => rw [outstanding_concat_iff, s.isPending_iff, ih]

/-- Receptions agree with what has happened before: what is returned is outstanding, the kind that is not returned keeps
its delivery, and a reception waits only if nothing is outstanding. -/
structure Exact (past : List Happening) (l : Listener) : Prop where
  pending : ∀ kind, l.isPending kind = true ↔ Outstanding past kind
  returned {interruptFirst kind l'} : l.receive interruptFirst = (some kind, l') → Outstanding past kind
  kept {interruptFirst kind l'} : l.receive interruptFirst = (some kind, l') →
    ∀ other, other ≠ kind → l'.isPending other = l.isPending other
  waits {interruptFirst} : (l.receive interruptFirst).1 = none ↔ ∀ kind, ¬ Outstanding past kind
  /-- When both kinds are outstanding, the next two receptions return both, in the order that the first one chooses.
  What is raised in between makes no difference, unless it is the kind that has just been returned. -/
  both : (∀ kind, Outstanding past kind) → ∀ interruptFirst, ∃ kind other l',
    l.receive interruptFirst = (some kind, l') ∧ kind = (if interruptFirst then .interrupt else .terminate) ∧
      other ≠ kind ∧ ∀ between, kind ∉ between → ∀ interruptFirst',
        (l'.raiseAll between).receive interruptFirst' = (some other, {})

/-- A listener neither loses a signal nor makes one up: whatever has been raised and received since it was registered,
and whichever kind each reception tries first. -/
theorem exact_of_history {past : List Happening} {l : Listener} (h : History past l) : Exact past l where
  pending := h.isPending_iff
  returned hreceive := (h.isPending_iff _).mp (receive_eq_some hreceive).1
  kept hreceive other hother := by
    obtain ⟨-, rfl⟩ := receive_eq_some hreceive
    rw [isPending_set, if_neg hother]
  waits {interruptFirst} := by
    rw [receive_fst, ready?_eq_none_iff_isPending]
    exact forall_congr' fun kind => by rw [← h.isPending_iff, Bool.not_eq_true]
  both hboth interruptFirst := by
    have hpending (kind : ShutdownSignal) : l.isPending kind = true := (h.isPending_iff kind).mpr (hboth kind)
    obtain ⟨kind, hreceive, hkind⟩ := receive_of_both hpending interruptFirst
    obtain ⟨other, hother⟩ := kind.exists_ne
    refine ⟨kind, other, _, hreceive, hkind, hother, fun between hbetween interruptFirst' => ?_⟩
    -- the kind that was returned is not raised in between, so the other one alone is pending
    refine receive_of_one (fun signal => ?_) interruptFirst'
    rw [isPending_raiseAll, isPending_set]
    by_cases hsignal : signal = kind
    · rw [if_pos hsignal, hsignal, decide_eq_false hbetween, decide_eq_false hother.symm, Bool.false_or]
    · rw [if_neg hsignal, hpending signal, Bool.true_or,
        decide_eq_true (ShutdownSignal.eq_of_ne hsignal hother)]

/-- Both kinds are raised, the interrupt twice, and received by two receptions. -/
theorem exact_of_history_both :
    let past : List Happening := [.raised .interrupt, .raised .terminate, .raised .interrupt]
    History past ⟨true, true⟩ ∧ (receive ⟨true, true⟩ false).1 = some .terminate ∧
      (receive ⟨true, true⟩ false).2.receive false = (some .interrupt, {}) := by
  intro past
  have h : History past ⟨true, true⟩ :=
    .step (.step (.step (@History.registered (fun _ => none) _ rfl) (.raise {} .interrupt)) (.raise _ .terminate))
      (.raise _ .interrupt)
  have houtstanding : ∀ kind, Outstanding past kind
    | .interrupt => ⟨[], _, rfl, by decide⟩
    | .terminate => ⟨[.raised .interrupt], _, rfl, by decide⟩
  obtain ⟨kind, other, l', hreceive, hkind, hother, hnext⟩ := (exact_of_history h).both houtstanding false
  obtain rfl : kind = .terminate := hkind
  obtain rfl : other = .interrupt := ShutdownSignal.eq_of_ne hother nofun
  refine ⟨h, congrArg Prod.fst hreceive, ?_⟩
  rw [hreceive]
  exact hnext [] List.not_mem_nil false

end Listener
end OrderlyExit
