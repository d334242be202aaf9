import OrderlyExit.Output.Outlet

/-! Emitting markers. An emission lets its whole line out as one entry, or it ends with the first call that
    fails and leaves what the sink took of the line pending. Emissions of a plan follow one another up to the
    first that fails, so what has been let out is always the part of the plan before it. -/

namespace OrderlyExit

/-! ### Calls that fail -/

/-- What a call failed with. A write that takes no byte is a failure as well. -/
def SinkCall.failure? : SinkCall → Option IoError
  | .write _ (.failed e) => some e
  | .write _ (.accepted 0) => some .wroteNothing
  | .write _ _ => none
  | .flush failure => failure

def SinkCall.isFlush : SinkCall → Bool
  | .flush _ => true
  | .write _ _ => false

/-- The bytes that a call made the sink take. -/
def SinkCall.taken : SinkCall → List UInt8
  | .write offered (.accepted n) => offered.take n
  | .write _ _ | .flush _ => []

/-- No call failed. -/
def Unbroken (calls : List SinkCall) : Prop := ∀ c ∈ calls, c.failure? = none

theorem Unbroken.nil : Unbroken [] := fun _ h => by cases h

theorem Unbroken.append {cs ds : List SinkCall} (hc : Unbroken cs) (hd : Unbroken ds) : Unbroken (cs ++ ds) :=
  fun c h => (List.mem_append.mp h).elim (hc c) (hd c)

theorem Unbroken.cons {c : SinkCall} {cs : List SinkCall} (hc : c.failure? = none) (hcs : Unbroken cs) :
    Unbroken (c :: cs) := fun d h => (List.mem_cons.mp h).elim (· ▸ hc) (hcs d)

namespace Outlet

variable {σ : Type u} {o o' o'' : Outlet σ}

/-! ### Writing -/

/-- The writes `cs` took the outlet from `o` to `o'`; the sink took `taken` and let nothing out. -/
structure Took (o o' : Outlet σ) (cs : List SinkCall) (taken : List UInt8) : Prop where
  calls : o'.calls = o.calls ++ cs
  writes : ∀ c ∈ cs, c.isFlush = false
  bytes : cs.flatMap SinkCall.taken = taken
  pending : o'.pending = o.pending ++ taken
  flushed : o'.flushed = o.flushed

theorem Took.refl (o : Outlet σ) : Took o o [] [] where
  calls := (List.append_nil o.calls).symm
  writes c hc := by cases hc
  bytes := rfl
  pending := (List.append_nil o.pending).symm
  flushed := rfl

theorem Took.wrote (o : Outlet σ) (offered : List UInt8) (reply : Reply) (next : σ) {taken : List UInt8}
    (h : (SinkCall.write offered reply).taken = taken) :
    Took o (o.wrote offered reply next taken) [.write offered reply] taken :=
  ⟨rfl, fun _ hc => List.mem_singleton.mp hc ▸ rfl, (List.flatMap_singleton ..).trans h, rfl, rfl⟩

theorem Took.trans {cs ds : List SinkCall} {xs ys : List UInt8} (h : Took o o' cs xs) (h' : Took o' o'' ds ys) :
    Took o o'' (cs ++ ds) (xs ++ ys) where
  calls := by rw [h'.calls, h.calls, List.append_assoc]
  writes c hc := (List.mem_append.mp hc).elim (h.writes c) (h'.writes c)
  bytes := by rw [List.flatMap_append, h.bytes, h'.bytes]
  pending := by rw [h'.pending, h.pending, List.append_assoc]
  flushed := h'.flushed.trans h.flushed

/-- What writing some bytes comes to: all of them are taken and no call failed, or the last call is a write that
    failed with the error and some of them are left over. -/
inductive Written (o o' : Outlet σ) : Except IoError Unit → List UInt8 → Prop
  | whole {cs : List SinkCall} {bytes : List UInt8} (unbroken : Unbroken cs) (took : Took o o' cs bytes) :
      Written o o' (.ok ()) bytes
  | broken {e : IoError} {cs : List SinkCall} {offered : List UInt8} {reply : Reply} {taken left : List UInt8}
      (unbroken : Unbroken cs) (failure : (SinkCall.write offered reply).failure? = some e) (rest : left ≠ [])
      (took : Took o o' (cs ++ [.write offered reply]) taken) : Written o o' (.error e) (taken ++ left)

theorem Written.after {cs : List SinkCall} {xs ys : List UInt8} {r : Except IoError Unit} (hcs : Unbroken cs)
    (htook : Took o o' cs xs) (h : Written o' o'' r ys) : Written o o'' r (xs ++ ys) := by
  cases h with
  | whole hds htook' => exact .whole (hcs.append hds) (htook.trans htook')
  | broken hds hfail hleft htook' =>
    rw [← List.append_assoc]
    exact .broken (hcs.append hds) hfail hleft (List.append_assoc .. ▸ htook.trans htook')

/-- A write call that fails takes nothing. -/
theorem Written.refused {e : IoError} {reply : Reply} {bytes : List UInt8} (hne : bytes ≠ []) (next : σ)
    (hfail : (SinkCall.write bytes reply).failure? = some e) (hnone : (SinkCall.write bytes reply).taken = []) :
    Written o (o.wrote bytes reply next []) (.error e) bytes :=
  .broken .nil hfail hne (Took.wrote o bytes reply next hnone)

theorem writeAll_written (sink : Sink σ) (o : Outlet σ) (bytes : List UInt8) :
    Written o (o.writeAll sink bytes).2 (o.writeAll sink bytes).1 bytes := by
  fun_induction writeAll sink o bytes with
  | case1 o => exact .whole .nil (.refl o)
  | case2 o b rest s h ih => exact ih.after (.cons rfl .nil) (.wrote o (b :: rest) .interrupted s rfl)
  | case3 o b rest e s h => exact .refused (List.cons_ne_nil b rest) s rfl rfl
  | case4 o b rest s h => exact .refused (List.cons_ne_nil b rest) s rfl rfl
  | case5 o b rest n s h ih =>
    have hsplit : (b :: rest).take (n + 1) ++ rest.drop n = b :: rest := List.take_append_drop (n + 1) (b :: rest)
    have step : Took o _ _ ((b :: rest).take (n + 1)) := .wrote o (b :: rest) (.accepted (n + 1)) s rfl
    have hall := ih.after (.cons rfl .nil) step
    rwa [hsplit] at hall

/-- Pieces that are written one after another are written like one. -/
theorem writeEach_written (sink : Sink σ) (o : Outlet σ) (pieces : List (List UInt8)) :
    Written o (o.writeEach sink pieces).2 (o.writeEach sink pieces).1 pieces.flatten := by
  induction pieces generalizing o with
  | nil => exact .whole .nil (.refl o)
  | cons piece pieces ih =>
    have hpiece := writeAll_written sink o piece
    rw [writeEach, List.flatten_cons]
    rcases hw : o.writeAll sink piece with ⟨r, o'⟩
    rw [hw] at hpiece
    cases hpiece with
    | whole hcs htook => exact (ih o').after hcs htook
    | broken hcs hfail hleft htook =>
      rw [List.append_assoc]
      exact .broken hcs hfail (List.append_ne_nil_of_left_ne_nil hleft _) htook

/-! ### Emitting -/

/-- No call from `o` to `o'` failed, and all that was taken has been let out, as these entries. -/
structure LetOut (o o' : Outlet σ) (entries : List Flushed) : Prop where
  flushed : o'.flushed = o.flushed ++ entries
  pending : o'.pending = []
  calls : ∃ cs, Unbroken cs ∧ o'.calls = o.calls ++ cs

theorem LetOut.refl (h : o.pending = []) : LetOut o o [] := ⟨by simp, h, [], .nil, by simp⟩

theorem LetOut.trans {xs ys : List Flushed} (h : LetOut o o' xs) (h' : LetOut o' o'' ys) :
    LetOut o o'' (xs ++ ys) := by
  obtain ⟨cs, hcs, hcalls⟩ := h.calls
  obtain ⟨ds, hds, hcalls'⟩ := h'.calls
  refine ⟨?_, h'.pending, cs ++ ds, hcs.append hds, ?_⟩
  · rw [h'.flushed, h.flushed, List.append_assoc]
  · rw [hcalls', hcalls, List.append_assoc]

/-- The emission of `m` ended with the call `last`, which failed with `e`, after `taken` of its line. -/
structure Broke (m : Marker) (e : IoError) (last : SinkCall) (taken : List UInt8) (o o' : Outlet σ) : Prop where
  flushed : o'.flushed = o.flushed
  pending : o'.pending = o.pending ++ taken
  isPrefix : taken <+: m.line
  /-- It is the flush that failed exactly if the whole line was taken. -/
  whole : last.isFlush = true ↔ taken = m.line
  failure : last.failure? = some e
  calls : ∃ cs, Unbroken cs ∧ o'.calls = o.calls ++ cs ++ [last]

/-- The ends of an emission: the line is let out with all that was pending, or it is pending as a whole since the
    flush failed, or a write failed within it. -/
inductive Emitted (clock : Nat) (m : Marker) (o o' : Outlet σ) : Except IoError Unit → Prop
  | out {cs : List SinkCall} {w : Outlet σ} (unbroken : Unbroken cs) (took : Took o w cs m.line)
      (calls : o'.calls = w.calls ++ [.flush none]) (pending : o'.pending = [])
      (flushed : o'.flushed = w.flushed ++ [⟨clock, w.pending⟩]) : Emitted clock m o o' (.ok ())
  | held {e : IoError} {cs : List SinkCall} {w : Outlet σ} (unbroken : Unbroken cs) (took : Took o w cs m.line)
      (calls : o'.calls = w.calls ++ [.flush (some e)]) (pending : o'.pending = w.pending)
      (flushed : o'.flushed = w.flushed) : Emitted clock m o o' (.error e)
  | cut {e : IoError} {cs : List SinkCall} {offered : List UInt8} {reply : Reply} {taken left : List UInt8}
      (unbroken : Unbroken cs) (failure : (SinkCall.write offered reply).failure? = some e)
      (took : Took o o' (cs ++ [.write offered reply]) taken) (line : taken ++ left = m.line) (rest : left ≠ []) :
      Emitted clock m o o' (.error e)

theorem emit_emitted (sink : Sink σ) (clock : Nat) (o : Outlet σ) (m : Marker) :
    Emitted clock m o (o.emit sink clock m).2 (o.emit sink clock m).1 := by
  have hwritten := writeEach_written sink o (m.pieces.map Utf8.encode)
  rw [← List.flatMap_def, m.flatMap_encode_pieces] at hwritten
  unfold emit
  rcases hw : o.writeEach sink (m.pieces.map Utf8.encode) with ⟨r, w⟩
  rw [hw] at hwritten
  generalize hline : m.line = line at hwritten
  cases hwritten with
  | whole hcs htook =>
    rw [← hline] at htook
    simp only [flush]
    rcases sink.flush w.state with ⟨failure, s⟩
    cases failure with
    | some e => exact .held hcs htook rfl rfl rfl
    | none => exact .out hcs htook rfl rfl rfl
  | broken hcs hfail hleft htook => exact .cut hcs hfail htook hline.symm hleft

theorem emit_cases (sink : Sink σ) (clock : Nat) (o : Outlet σ) (m : Marker) :
    ((o.emit sink clock m).1 = .ok () ∧ LetOut o (o.emit sink clock m).2 [⟨clock, o.pending ++ m.line⟩]) ∨
    ∃ e last taken, (o.emit sink clock m).1 = .error e ∧ Broke m e last taken o (o.emit sink clock m).2 := by
  have hemitted := emit_emitted sink clock o m
  generalize (o.emit sink clock m).1 = r, (o.emit sink clock m).2 = o' at hemitted ⊢
  cases hemitted with
  | @out cs w hcs htook hcalls hpending hflushed =>
    refine Or.inl ⟨rfl, ?_, hpending, cs ++ [.flush none], hcs.append (.cons rfl .nil), ?_⟩
    · rw [hflushed, htook.flushed, htook.pending]
    · rw [hcalls, htook.calls, List.append_assoc]
  | @held e cs w hcs htook hcalls hpending hflushed =>
    refine Or.inr ⟨e, .flush (some e), m.line, rfl, hflushed.trans htook.flushed, hpending.trans htook.pending,
      List.prefix_rfl, iff_of_true rfl rfl, rfl, cs, hcs, ?_⟩
    rw [hcalls, htook.calls]
  | @cut e cs offered reply taken left hcs hfail htook hline hleft =>
    have hpart : taken ≠ m.line := fun htaken => hleft (List.self_eq_append_right.mp (htaken.trans hline.symm))
    refine Or.inr ⟨e, .write offered reply, taken, rfl, htook.flushed, htook.pending, ⟨left, hline⟩,
      iff_of_false Bool.false_ne_true hpart, hfail, cs, hcs, ?_⟩
    rw [htook.calls, List.append_assoc]

/-! ### Plans -/

/-- What became of a plan: its outcome, the time of the last emission, and the outlet. -/
structure Emission (σ : Type u) where
  result : Except IoError Unit
  clock : Nat
  outlet : Outlet σ

/-- Emits the markers of a plan, each at its time, up to the first failure. -/
def follow (sink : Sink σ) (clock : Nat) (o : Outlet σ) : List (Nat × Marker) → Emission σ
  | [] => ⟨.ok (), clock, o⟩
  | (time, m) :: plan =>
    match o.emit sink time m with
    | (.ok (), o') => follow sink time o' plan
    | (.error e, o') => ⟨.error e, time, o'⟩

/-- A plan is over by the time up to which all its emissions are. -/
theorem follow_clock_le {sink : Sink σ} {clock bound : Nat} {o : Outlet σ} {plan : List (Nat × Marker)}
    (hclock : clock ≤ bound) (hplan : ∀ x ∈ plan, x.1 ≤ bound) : (follow sink clock o plan).clock ≤ bound := by
  induction plan generalizing clock o with
  | nil => exact hclock
  | cons head plan ih =>
    obtain ⟨htime, hrest⟩ := List.forall_mem_cons.mp hplan
    rw [follow]
    split
    · exact ih htime hrest
    · exact htime

/-- The entry that an emission of the plan leaves. -/
def entry (x : Nat × Marker) : Flushed := ⟨x.1, x.2.line⟩

/-- A plan is followed to its end, or up to an emission that broke; those before it left an entry each. -/
theorem follow_cases (sink : Sink σ) (clock : Nat) (o : Outlet σ) (ho : o.pending = []) (plan : List (Nat × Marker)) :
    let x := follow sink clock o plan
    (x.result = .ok () ∧ x.clock = plan.foldl (fun _ y => y.1) clock ∧ LetOut o x.outlet (plan.map entry)) ∨
    ∃ done time m rest e last taken before, plan = done ++ (time, m) :: rest ∧ x.result = .error e ∧ x.clock = time ∧
      LetOut o before (done.map entry) ∧ Broke m e last taken before x.outlet := by
  induction plan generalizing clock o with
  | nil => exact Or.inl ⟨rfl, rfl, .refl ho⟩
  | cons head plan ih =>
    obtain ⟨time, m⟩ := head
    have hemit := emit_cases sink time o m
    rw [follow]
    rcases he : o.emit sink time m with ⟨r, o'⟩
    rw [he] at hemit
    rcases hemit with ⟨hr, hout⟩ | ⟨e, last, taken, hr, hbroke⟩
    · obtain rfl : r = .ok () := hr
      rw [ho, List.nil_append] at hout
      rcases ih time o' hout.pending with ⟨hok, hclock, hrest⟩ |
          ⟨done, time', m', rest, e, last, taken, before, rfl, herr, hclock, hdone, hbroke⟩
      · exact Or.inl ⟨hok, hclock, hout.trans hrest⟩
      · exact Or.inr ⟨(time, m) :: done, time', m', rest, e, last, taken, before, rfl, herr, hclock, hout.trans hdone,
          hbroke⟩
    · obtain rfl : r = .error e := hr
      exact Or.inr ⟨[], time, m, plan, e, last, taken, o, rfl, rfl, rfl, .refl ho, hbroke⟩

end Outlet

/-! ### Sinks that never fail -/

/-- A sink none of whose calls fails: of the bytes that it is offered a write takes at least one, unless it is
interrupted, and every flush succeeds. -/
structure Sink.Unfailing {σ : Type u} (sink : Sink σ) : Prop where
  write : ∀ s bytes, bytes ≠ [] → (∀ e, (sink.write s bytes).1 ≠ .failed e) ∧ (sink.write s bytes).1 ≠ .accepted 0
  flush : ∀ s, (sink.flush s).1 = none

/-- A sink that takes all that it is offered in one call, and whose flushes succeed. -/
structure Sink.Willing {σ : Type u} (sink : Sink σ) : Prop where
  write : ∀ s bytes, (sink.write s bytes).1 = .accepted bytes.length
  flush : ∀ s, (sink.flush s).1 = none

theorem Sink.Willing.unfailing {σ : Type u} {sink : Sink σ} (h : sink.Willing) : sink.Unfailing where
  write s bytes hbytes := by
    rw [h.write]
    constructor
    · rintro e ⟨⟩
    · exact fun hzero => hbytes (List.length_eq_zero_iff.mp (Reply.accepted.inj hzero))
  flush := h.flush

theorem SinkScript.willing : ({} : SinkScript).sink.Willing := ⟨fun _ _ => rfl, fun _ => rfl⟩

/-- A scripted writer with room without end never fails, however little it takes at once and however often it is
interrupted. -/
theorem SinkScript.unfailing {script : SinkScript} (room : script.capacity = none) (share : script.chunk ≠ some 0)
    (flushes : script.flushFailsAt = none) : script.sink.Unfailing where
  write s bytes hbytes := by
    have hpos := List.length_pos_iff.mpr hbytes
    have hshare : script.share s.accepted bytes.length ≠ 0 := by
      simp only [SinkScript.share, room]
      split
      · rename_i c hc
        have hc0 : c ≠ 0 := fun h => share (h ▸ hc)
        omega
      · omega
    simp only [SinkScript.sink, SinkScript.write, SinkScript.isFull, room]
    split
    · constructor
      · rintro e ⟨⟩
      · rintro ⟨⟩
    · constructor
      · rintro e ⟨⟩
      · exact fun h => hshare (Reply.accepted.inj h)
  flush s := by simp [SinkScript.sink, SinkScript.flush, flushes]

namespace Outlet

variable {σ : Type u} {sink : Sink σ}

theorem writeAll_of_unfailing (h : sink.Unfailing) (o : Outlet σ) (bytes : List UInt8) :
    (o.writeAll sink bytes).1 = .ok () := by
  fun_induction writeAll sink o bytes with
  | case1 => rfl
  | case2 o b rest s hw ih => exact ih
  | case3 o b rest e s hw => exact absurd (congrArg Prod.fst hw) ((h.write o.state _ (List.cons_ne_nil b rest)).1 e)
  | case4 o b rest s hw => exact absurd (congrArg Prod.fst hw) (h.write o.state _ (List.cons_ne_nil b rest)).2
  | case5 o b rest n s hw ih => exact ih

theorem writeEach_of_unfailing (h : sink.Unfailing) (o : Outlet σ) (pieces : List (List UInt8)) :
    (o.writeEach sink pieces).1 = .ok () := by
  induction pieces generalizing o with
  | nil => rfl
  | cons piece pieces ih =>
    have hpiece := writeAll_of_unfailing h o piece
    rw [writeEach]
    rcases hw : o.writeAll sink piece with ⟨r, o'⟩
    rw [hw] at hpiece
    obtain rfl : r = .ok () := hpiece
    exact ih o'

theorem emit_of_unfailing (h : sink.Unfailing) (clock : Nat) (o : Outlet σ) (m : Marker) :
    (o.emit sink clock m).1 = .ok () := by
  unfold emit
  have hwrite := writeEach_of_unfailing h o (m.pieces.map Utf8.encode)
  rcases hw : o.writeEach sink (m.pieces.map Utf8.encode) with ⟨r, o'⟩
  rw [hw] at hwrite
  obtain rfl : r = .ok () := hwrite
  have hflush := h.flush o'.state
  simp only [flush]
  rcases hf : sink.flush o'.state with ⟨failure, s⟩
  rw [hf] at hflush
  obtain rfl : failure = none := hflush
  rfl

theorem follow_of_unfailing (h : sink.Unfailing) (clock : Nat) (o : Outlet σ) (plan : List (Nat × Marker)) :
    (follow sink clock o plan).result = .ok () := by
  induction plan generalizing clock o with
  | nil => rfl
  | cons head plan ih =>
    obtain ⟨time, m⟩ := head
    have hemit := emit_of_unfailing h time o m
    rw [follow]
    rcases he : o.emit sink time m with ⟨r, o'⟩
    rw [he] at hemit
    obtain rfl : r = .ok () := hemit
    exact ih time o'

/-- What is left by a plan that came to its end: nothing is pending, and each emission has an entry. -/
theorem follow_letOut (h : sink.Unfailing) (clock : Nat) (o : Outlet σ) (ho : o.pending = [])
    (plan : List (Nat × Marker)) :
    (follow sink clock o plan).clock = plan.foldl (fun _ y => y.1) clock ∧
      LetOut o (follow sink clock o plan).outlet (plan.map entry) := by
  rcases follow_cases sink clock o ho plan with ⟨-, hclock, hout⟩ | ⟨_, _, _, _, e, _, _, _, -, herr, -⟩
  · exact ⟨hclock, hout⟩
  · cases (follow_of_unfailing h clock o plan).symm.trans herr

end Outlet
end OrderlyExit
