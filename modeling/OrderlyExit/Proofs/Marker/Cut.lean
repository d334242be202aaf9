import OrderlyExit.Proofs.Marker.Wire

/-! A stream of markers that is cut off anywhere. What has come of it are some whole lines and a prefix of the next
    text. Such a prefix spells no marker before its stem is complete, and one that stops inside a process id spells
    a marker with a smaller one. -/

namespace OrderlyExit
namespace Marker

/-! ### Whole lines and a rest -/

/-- The text that comes next. -/
def ahead : List Marker → List Char
  | [] => []
  | m :: _ => m.chars

/-- The lines of `done` have come, and `cs` of the line that is next in `rest`. -/
structure Cut (ms : List Marker) (bytes : List UInt8) (done rest : List Marker) (cs : List Char) : Prop where
  markers : ms = done ++ rest
  isPrefix : cs <+: ahead rest
  bytes : bytes = done.flatMap line ++ cs.map Utf8.asciiByte

theorem Cut.cons {ms : List Marker} {bytes : List UInt8} {done rest : List Marker} {cs : List Char}
    (h : Cut ms bytes done rest cs) (m : Marker) : Cut (m :: ms) (m.line ++ bytes) (m :: done) rest cs where
  markers := by rw [h.markers, List.cons_append]
  isPrefix := h.isPrefix
  bytes := by rw [h.bytes, List.flatMap_cons, List.append_assoc]

/-- Wherever a stream of markers is cut, there is such a place. -/
theorem exists_cut (ms : List Marker) {bytes : List UInt8} (h : bytes <+: ms.flatMap line) :
    ∃ done rest cs, Cut ms bytes done rest cs := by
  induction ms generalizing bytes with
  | nil => exact ⟨[], [], [], rfl, List.nil_prefix, List.prefix_nil.mp h⟩
  | cons m ms ih =>
    rw [List.flatMap_cons] at h
    rcases List.prefix_or_prefix_of_prefix h (List.prefix_append m.line _) with hpart | ⟨more, rfl⟩
    · rw [line_eq, List.prefix_concat_iff, List.prefix_map_iff] at hpart
      rcases hpart with hwhole | ⟨cs, hcs, rfl⟩
      · refine ⟨[m], ms, [], rfl, List.nil_prefix, ?_⟩
        rw [hwhole, ← line_eq, List.flatMap_singleton, List.map_nil, List.append_nil]
      · exact ⟨[], m :: ms, cs, rfl, hcs, rfl⟩
    · obtain ⟨done, rest, cs, hcut⟩ := ih ((List.prefix_append_right_inj m.line).mp h)
      exact ⟨m :: done, rest, cs, hcut.cons m⟩

theorem all_isPlain_ahead {rest : List Marker} {cs : List Char} (h : cs <+: ahead rest) :
    ∀ c ∈ cs, isPlain c = true := fun c hc => by
  cases rest with
  | nil => cases (List.prefix_nil.mp h ▸ hc)
  | cons m rest => exact all_isPlain_chars m c (h.subset hc)

theorem oneLine_ahead {rest : List Marker} {cs : List Char} (h : cs <+: ahead rest) : OneLine cs :=
  fun c hc => isLineEnd_of_isPlain (all_isPlain_ahead h c hc)

/-- The reader keeps what has come of the next line as a line of its own. -/
theorem Cut.linesOf {ms done rest : List Marker} {pieces : List (List UInt8)} {cs : List Char}
    (h : Cut ms pieces.flatten done rest cs) : linesOf pieces = done.map text ++ started cs :=
  linesOf_markers (oneLine_ahead h.isPrefix)
    (fun c hc => ascii_of_isPlain (all_isPlain_ahead h.isPrefix c hc)) h.bytes

/-! ### Texts that stop early -/

theorem prefix_append_split {α : Type} {cs ds es : List α} (h : cs <+: ds ++ es) :
    cs <+: ds ∨ ∃ value, value ≠ [] ∧ value <+: es ∧ cs = ds ++ value := by
  rcases List.prefix_or_prefix_of_prefix h (List.prefix_append ds es) with hcs | ⟨value, rfl⟩
  · exact Or.inl hcs
  · cases value with
    | nil => exact Or.inl (by rw [List.append_nil])
    | cons c value => exact Or.inr ⟨c :: value, List.cons_ne_nil _ _, (List.prefix_append_right_inj ds).mp h, rfl⟩

/-- The fixed texts and the stems. -/
def parts : List (List Char) := [startedStem, startText, pidStem, completeText]

theorem eq_of_isPrefix_of_parts : ∀ t ∈ parts, ∀ u ∈ parts, u <+: t → u = t := by decide

/-- A prefix of a stem spells nothing, and neither does one of a fixed text unless it is all of it. -/
theorem not_spells_of_isPrefix {t cs : List Char} (ht : t ∈ parts) (h : cs <+: t)
    (hpart : t = startText ∨ t = completeText → cs ≠ t) (m : Marker) : ¬Spells cs m := by
  -- the text of a marker with a process id is longer than its stem
  have bare : ∀ {stem value : List Char} {pid : UInt32}, stem ∈ parts → stem ++ value <+: t →
      readPid? value ≠ some pid := fun {stem value pid} hstem hcs hvalue => by
    obtain rfl := eq_of_isPrefix_of_parts t ht stem hstem ((List.prefix_append stem value).trans hcs)
    have hlen := hcs.length_le
    rw [List.length_append] at hlen
    obtain rfl := List.length_eq_zero_iff.mp (show value.length = 0 by omega)
    cases hvalue
  intro hs
  cases hs with
  | start =>
    obtain rfl := eq_of_isPrefix_of_parts t ht startText (by decide) h
    exact hpart (Or.inl rfl) rfl
  | complete =>
    obtain rfl := eq_of_isPrefix_of_parts t ht completeText (by decide) h
    exact hpart (Or.inr rfl) rfl
  | started hvalue => exact bare (by decide) h hvalue
  | pid hvalue => exact bare (by decide) h hvalue

/-- A process id that lost digits is read as a quotient by a power of ten. -/
theorem readPid?_of_append {value lost : List Char} {pid : UInt32} (hne : value ≠ [])
    (h : value ++ lost = Decimal.digits pid.toNat) :
    ∃ found, readPid? value = some found ∧ found.toNat = pid.toNat / 10 ^ lost.length := by
  have hlt : pid.toNat / 10 ^ lost.length < UInt32.size :=
    Nat.lt_of_le_of_lt (Nat.div_le_self _ _) pid.toNat_lt_size
  have hfound : (UInt32.ofNat (pid.toNat / 10 ^ lost.length)).toNat = pid.toNat / 10 ^ lost.length :=
    UInt32.toNat_ofNat_of_lt' hlt
  refine ⟨UInt32.ofNat (pid.toNat / 10 ^ lost.length), readPid?_eq_some.mpr ?_, hfound⟩
  rw [hfound, Decimal.eq_digits_of_append hne h, Decimal.value?_digits]

end Marker
end OrderlyExit
