import OrderlyExit.Proofs.Marker.Classification

/-! Writing and reading a marker undo each other. A marker that was written is read back whatever line ends follow it,
    and a line that was read is written as it stands, but for the line ends behind it and for needless zeros in front
    of its process id. So the text of a marker is the normal form of all lines that are read as this marker. -/

namespace OrderlyExit
namespace Marker
open Decimal

/-! ### Line ends -/

theorem body_append {ends : List Char} (h : ∀ c ∈ ends, c = '\r' ∨ c = '\n') (cs : List Char) :
    body (cs ++ ends) = body cs := by
  have hends : ∀ c ∈ ends.reverse, isLineEnd c = true := fun c hc => isLineEnd_iff.mpr (h c (List.mem_reverse.mp hc))
  rw [body, body, List.reverse_append, List.dropWhile_append_of_pos hends]

/-- A line has only one text without the line ends behind it. -/
theorem IsBody.body_eq {cs t : List Char} (h : IsBody cs t) : body cs = t := by
  obtain ⟨ends, rfl, hends⟩ := h.split
  rw [body_append hends, body]
  rcases List.eq_nil_or_concat t with rfl | ⟨front, c, rfl⟩
  · rfl
  · have hc : ¬isLineEnd c = true := fun hend =>
      h.last c (by rw [List.concat_eq_append, List.getLast?_concat]) (isLineEnd_iff.mp hend)
    rw [List.concat_eq_append, List.reverse_append, List.reverse_singleton, List.singleton_append,
      List.dropWhile_cons_of_neg hc, List.reverse_cons, List.reverse_reverse]

theorem body_chars (m : Marker) : body m.chars = m.chars := body_oneLine (chars_oneLine m)

/-- The text of a marker is read back, whatever line ends follow it. -/
theorem parse_text_append (m : Marker) {ends : String} (h : ∀ c ∈ ends.toList, c = '\r' ∨ c = '\n') :
    parse (m.text ++ ends) = .ok m := by
  rw [parse_eq_ok, String.toList_append, text, String.toList_ofList, body_append h, body_chars]
  exact spells_chars m

theorem parse_text (m : Marker) : parse m.text = .ok m := by
  rw [parse_eq_ok, text, String.toList_ofList, body_chars]
  exact spells_chars m

/-! ### Zeros in front -/

/-- What stands in the place of a process id, on a line that has such a place. -/
def pidField? (line : List Char) : Option (List Char) :=
  (startedStem.isPrefixOf? line).or (pidStem.isPrefixOf? line)

theorem pidField?_startedStem (value : List Char) : pidField? (startedStem ++ value) = some value := by
  rw [pidField?, List.isPrefixOf?_eq_some_iff_append_eq.mpr rfl, Option.some_or]

theorem pidField?_pidStem (value : List Char) : pidField? (pidStem ++ value) = some value := by
  rw [pidField?, startedStem_isPrefixOf?_pidStem, Option.none_or]
  exact List.isPrefixOf?_eq_some_iff_append_eq.mpr rfl

/-- The stems with a numeral behind them are written as they stand exactly if the numeral has no needless zero. -/
theorem stem_digits_eq_iff {stem value : List Char} {pid : UInt32} (hvalue : readPid? value = some pid)
    (hfield : pidField? (stem ++ value) = some value) :
    stem ++ digits pid.toNat = stem ++ value ↔ ∀ v, pidField? (stem ++ value) = some v → Shortest v := by
  rw [List.append_cancel_left_eq, (readPid?_eq_some_iff.mp hvalue).eq_digits_iff, hfield]
  exact ⟨fun h v hv => Option.some.inj hv ▸ h, fun h => h value rfl⟩

theorem Spells.chars_eq_iff {cs : List Char} {m : Marker} (h : Spells cs m) :
    m.chars = cs ↔ ∀ value, pidField? cs = some value → Shortest value := by
  cases h with
  | start =>
    have hnone : pidField? startText = none := by decide
    exact iff_of_true rfl fun value hvalue => by cases hnone.symm.trans hvalue
  | complete =>
    have hnone : pidField? completeText = none := by decide
    exact iff_of_true rfl fun value hvalue => by cases hnone.symm.trans hvalue
  | started hvalue => exact stem_digits_eq_iff hvalue (pidField?_startedStem _)
  | pid hvalue => exact stem_digits_eq_iff hvalue (pidField?_pidStem _)

/-! ### Normal forms -/

/-- The text of the marker on a line. -/
def normalText (line : String) : Except MarkerError String := (parse line).map text

theorem text_injective : Function.Injective text := fun m m' h =>
  Except.ok.inj ((parse_text m).symm.trans (h ▸ parse_text m'))

theorem normalText_of_parse {line : String} {m : Marker} (h : parse line = .ok m) : normalText line = .ok m.text := by
  rw [normalText, h]
  rfl

theorem exists_of_normalText {line text' : String} (h : normalText line = .ok text') :
    ∃ m, parse line = .ok m ∧ m.text = text' := by
  unfold normalText at h
  cases hm : parse line with
  | error e =>
    rw [hm] at h
    cases h
  | ok m =>
    rw [hm] at h
    exact ⟨m, rfl, Except.ok.inj h⟩

/-- Writing and reading undo each other up to leading zeros and line ends. The text of a marker is read as the marker,
with any line ends behind it. A line that is read as a marker is the text of the marker, once the line ends behind it
are gone, exactly if its process id, where it has one, has no needless zero in front; and the text is read as the
marker again in any case. So different markers have different texts, and a line that was read and written once stays
the same when it is read and written again. -/
theorem parse_inverts_text :
    (∀ (m : Marker) (ends : String), (∀ c ∈ ends.toList, c = '\r' ∨ c = '\n') → parse (m.text ++ ends) = .ok m) ∧
    (∀ (line : String) (m : Marker), parse line = .ok m → ∀ t, IsBody line.toList t →
      (m.text = String.ofList t ↔ ∀ value, pidField? t = some value → Shortest value) ∧ parse m.text = .ok m) ∧
    Function.Injective text ∧
    ∀ line line', normalText line = .ok line' → normalText line' = .ok line' := by
  refine ⟨fun m ends => parse_text_append m, fun line m h t ht => ⟨?_, parse_text m⟩, text_injective,
    fun line line' h => ?_⟩
  · rw [parse_eq_ok, ht.body_eq] at h
    rw [← h.chars_eq_iff, text, String.ofList_inj]
  · obtain ⟨m, -, rfl⟩ := exists_of_normalText h
    exact normalText_of_parse (parse_text m)

/-- Seven with two zeros in front, on a line that ends twice, is written as seven. -/
theorem parse_inverts_text_zeros :
    let line := "PROCESS_STARTED_PID=007\r\n\n"
    let t := "PROCESS_STARTED_PID=007".toList
    parse line = .ok (.processStarted 7) ∧ IsBody line.toList t ∧ pidField? t = some ['0', '0', '7'] ∧
      ¬Shortest ['0', '0', '7'] ∧ (processStarted 7).text ≠ String.ofList t ∧
      parse ((processStarted 7).text ++ "\n\r") = .ok (.processStarted 7) := by
  intro line t
  have hbody : IsBody line.toList t := by
    refine ⟨⟨['\r', '\n', '\n'], by decide, by simp⟩, fun c hc => ?_⟩
    obtain rfl : '7' = c := Option.some.inj hc
    decide
  have hparse : parse line = .ok (.processStarted 7) := by
    rw [parse_eq_ok, hbody.body_eq]
    exact .started (show readPid? ['0', '0', '7'] = some 7 by decide)
  have hfield : pidField? t = some ['0', '0', '7'] := pidField?_startedStem ['0', '0', '7']
  have hzero : ¬Shortest ['0', '0', '7'] := fun h => by cases h ['0', '7'] rfl
  obtain ⟨happend, hinverse, -⟩ := parse_inverts_text
  refine ⟨hparse, hbody, hfield, hzero, fun htext => ?_, happend _ "\n\r" (by simp)⟩
  exact hzero ((hinverse line _ hparse t hbody).1.mp htext _ hfield)

end Marker
end OrderlyExit
