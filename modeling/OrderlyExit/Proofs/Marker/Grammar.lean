import Mathlib.Data.List.Infix
import Mathlib.Data.List.TakeWhile
import OrderlyExit.Marker
import OrderlyExit.Proofs.Text.Decimal
import OrderlyExit.Proofs.Text.Utf8

/-! The grammar of marker lines. `Spells` lists the spellings of a marker, and the reader finds a marker on a
    line exactly if the line, without its line ends, spells it. The text of a marker is plain ASCII on one line. -/

namespace OrderlyExit
namespace Marker

/-! ### Line ends -/

/-- No character of the text is a line end. -/
def OneLine (cs : List Char) : Prop := ∀ c ∈ cs, isLineEnd c = false

theorem OneLine.mono {cs ds : List Char} (h : cs <+: ds) (hd : OneLine ds) : OneLine cs :=
  fun c hc => hd c (h.subset hc)

theorem body_oneLine {cs : List Char} (h : OneLine cs) : body cs = cs := by
  have hkeep : cs.reverse.dropWhile isLineEnd = cs.reverse := by
    rw [List.dropWhile_eq_self_iff]
    intro hl
    rw [h _ (List.mem_reverse.mp (List.getElem_mem hl))]
    exact Bool.false_ne_true
  rw [body, hkeep, List.reverse_reverse]

/-! ### Spellings -/

theorem readPid?_eq_some {cs : List Char} {pid : UInt32} :
    readPid? cs = some pid ↔ Decimal.value? cs = some pid.toNat := by
  unfold readPid?
  constructor
  · intro h
    split at h
    · rename_i n hn
      split at h
      · rename_i hlt
        cases h
        rw [hn, UInt32.toNat_ofNat_of_lt' hlt]
      · cases h
    · cases h
  · intro h
    simp [h, UInt32.toNat_lt_size]

theorem readPid?_digits (pid : UInt32) : readPid? (Decimal.digits pid.toNat) = some pid :=
  readPid?_eq_some.mpr (Decimal.value?_digits _)

/-- The texts that are a marker: two fixed ones, and two stems with a numeral behind them. -/
inductive Spells : List Char → Marker → Prop
  | start : Spells startText .shutdownStart
  | complete : Spells completeText .shutdownComplete
  | started {value : List Char} {pid : UInt32} (h : readPid? value = some pid) :
      Spells (startedStem ++ value) (.processStarted pid)
  | pid {value : List Char} {pid : UInt32} (h : readPid? value = some pid) :
      Spells (pidStem ++ value) (.shutdownPid pid)

theorem spells_chars (m : Marker) : Spells m.chars m := by
  cases m with
  | processStarted pid => exact .started (readPid?_digits pid)
  | shutdownStart => exact .start
  | shutdownPid pid => exact .pid (readPid?_digits pid)
  | shutdownComplete => exact .complete

theorem Spells.ne_nil {cs : List Char} {m : Marker} (h : Spells cs m) : cs ≠ [] := by
  cases h with
  | start => decide
  | complete => decide
  | started => exact List.append_ne_nil_of_left_ne_nil (by decide) _
  | pid => exact List.append_ne_nil_of_left_ne_nil (by decide) _

theorem withPid_eq_ok {make : UInt32 → Marker} {line value : List Char} {m : Marker} :
    withPid make line value = .ok m ↔ ∃ pid, readPid? value = some pid ∧ m = make pid := by
  unfold withPid
  cases h : readPid? value <;> simp [eq_comm]

/-! ### Stems -/

theorem startedStem_append_ne {ds : List Char} (value : List Char) (h : ¬startedStem <+: ds) :
    startedStem ++ value ≠ ds := fun heq => h (heq ▸ List.prefix_append _ _)

theorem pidStem_append_ne {ds : List Char} (value : List Char) (h : ¬pidStem <+: ds) : pidStem ++ value ≠ ds :=
  fun heq => h (heq ▸ List.prefix_append _ _)

theorem startedStem_isPrefixOf?_pidStem (value : List Char) : startedStem.isPrefixOf? (pidStem ++ value) = none := by
  refine Option.eq_none_iff_forall_ne_some.mpr fun rest h => ?_
  have hpre : startedStem <+: pidStem ++ value := ⟨rest, List.append_eq_of_isPrefixOf?_eq_some h⟩
  exact absurd (List.prefix_of_prefix_length_le hpre (List.prefix_append _ _) (by decide)) (by decide)

/-! ### The reader -/

/-- Behind the stem of a startup line the reader looks for a process id. -/
theorem parseBody_startedStem (value : List Char) :
    parseBody (startedStem ++ value) = withPid .processStarted (startedStem ++ value) value := by
  have hstem : startedStem.isPrefixOf? (startedStem ++ value) = some value :=
    List.isPrefixOf?_eq_some_iff_append_eq.mpr rfl
  rw [parseBody, if_neg (startedStem_append_ne value (by decide)), if_neg (startedStem_append_ne value (by decide)),
    hstem]

theorem parseBody_pidStem (value : List Char) :
    parseBody (pidStem ++ value) = withPid .shutdownPid (pidStem ++ value) value := by
  have hstem : pidStem.isPrefixOf? (pidStem ++ value) = some value :=
    List.isPrefixOf?_eq_some_iff_append_eq.mpr rfl
  rw [parseBody, if_neg (pidStem_append_ne value (by decide)), if_neg (pidStem_append_ne value (by decide)),
    startedStem_isPrefixOf?_pidStem, hstem]

theorem parseBody_of_spells {line : List Char} {m : Marker} (h : Spells line m) : parseBody line = .ok m := by
  cases h with
  | start => rfl
  | complete => rfl
  | @started value pid h => exact (parseBody_startedStem value).trans (withPid_eq_ok.mpr ⟨pid, h, rfl⟩)
  | @pid value pid h => exact (parseBody_pidStem value).trans (withPid_eq_ok.mpr ⟨pid, h, rfl⟩)

theorem spells_of_parseBody {line : List Char} {m : Marker} (h : parseBody line = .ok m) : Spells line m := by
  unfold parseBody at h
  split at h
  · rename_i hline
    cases h
    exact hline ▸ .start
  · split at h
    · rename_i hline
      cases h
      exact hline ▸ .complete
    · split at h
      · rename_i value hstem
        obtain ⟨pid, hpid, rfl⟩ := withPid_eq_ok.mp h
        exact List.append_eq_of_isPrefixOf?_eq_some hstem ▸ .started hpid
      · split at h
        · rename_i value hstem
          obtain ⟨pid, hpid, rfl⟩ := withPid_eq_ok.mp h
          exact List.append_eq_of_isPrefixOf?_eq_some hstem ▸ .pid hpid
        · cases h

theorem parseBody_eq_ok {line : List Char} {m : Marker} : parseBody line = .ok m ↔ Spells line m :=
  ⟨spells_of_parseBody, parseBody_of_spells⟩

theorem parse?_eq_some {line : String} {m : Marker} : parse? line = some m ↔ Spells (body line.toList) m := by
  rw [← parseBody_eq_ok, parse?, parse]
  cases parseBody (body line.toList) <;> simp [Except.toOption]

/-- On a text without line ends, the reader decides whether the text itself spells a marker. -/
theorem parse?_ofList {cs : List Char} (h : OneLine cs) {m : Marker} :
    parse? (String.ofList cs) = some m ↔ Spells cs m := by
  rw [parse?_eq_some, String.toList_ofList, body_oneLine h]

/-! ### The text of a marker -/

/-- A character that may stand in the text of a marker. -/
def isPlain (c : Char) : Bool := decide (c.toNat < 128) && !isLineEnd c

theorem isPlain_of_isDigit {c : Char} (h : c.isDigit = true) : isPlain c = true := by
  simp only [Char.isDigit, Bool.and_eq_true, decide_eq_true_eq, ge_iff_le, UInt32.le_iff_toNat_le] at h
  have h₁ : 48 ≤ c.toNat := h.1
  have h₂ : c.toNat ≤ 57 := h.2
  have hr : c ≠ '\r' := fun hc => by
    rw [hc] at h₁
    exact absurd h₁ (by decide)
  have hn : c ≠ '\n' := fun hc => by
    rw [hc] at h₁
    exact absurd h₁ (by decide)
  have h128 : c.toNat < 128 := by omega
  simp [isPlain, isLineEnd, h128, hr, hn]

theorem all_isPlain_chars (m : Marker) : ∀ c ∈ m.chars, isPlain c = true := by
  have fixed : ∀ {cs : List Char}, cs.all isPlain = true → ∀ c ∈ cs, isPlain c = true := List.all_eq_true.mp
  have stem : ∀ {cs : List Char} (n : Nat), cs.all isPlain = true →
      ∀ c ∈ cs ++ Decimal.digits n, isPlain c = true := fun n hcs c hc => by
    rcases List.mem_append.mp hc with hc | hc
    · exact fixed hcs c hc
    · exact isPlain_of_isDigit (Decimal.isDigit_of_mem_digits n hc)
  cases m with
  | processStarted pid => exact stem _ (by decide)
  | shutdownStart => exact fixed (by decide)
  | shutdownPid pid => exact stem _ (by decide)
  | shutdownComplete => exact fixed (by decide)

theorem ascii_of_isPlain {c : Char} (h : isPlain c = true) : c.toNat < 128 := by
  simp only [isPlain, Bool.and_eq_true, decide_eq_true_eq] at h
  exact h.1

theorem isLineEnd_of_isPlain {c : Char} (h : isPlain c = true) : isLineEnd c = false := by
  simp only [isPlain, Bool.and_eq_true, Bool.not_eq_true'] at h
  exact h.2

theorem chars_ascii (m : Marker) : ∀ c ∈ m.chars, c.toNat < 128 :=
  fun c hc => ascii_of_isPlain (all_isPlain_chars m c hc)

theorem chars_oneLine (m : Marker) : OneLine m.chars := fun c hc => isLineEnd_of_isPlain (all_isPlain_chars m c hc)

theorem parse?_text (m : Marker) : parse? m.text = some m := (parse?_ofList (chars_oneLine m)).mpr (spells_chars m)

end Marker
end OrderlyExit
