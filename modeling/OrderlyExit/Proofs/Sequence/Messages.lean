import OrderlyExit.Proofs.Marker.Normal
import OrderlyExit.Proofs.Outcome.Texts
import OrderlyExit.Proofs.Text.Duration
import OrderlyExit.Proofs.Text.Quoted
import OrderlyExit.Sequence

/-! What is said of a violation tells which one it is. The first words of a message tell its kind, but for a missing
    marker, whose name comes first and may be any text: there the last words do. The particulars of a kind stand between
    words that are fixed, and behind a blank or before a comma that they do not have in them. -/

namespace OrderlyExit

/-! ### Markers in messages -/

namespace Marker

/-- A character of the text of a marker. -/
def isTokenChar (c : Char) : Bool := c.isUpper || c.isDigit || c == '_' || c == '='

theorem isTokenChar_of_mem_chars (m : Marker) : ∀ c ∈ m.chars, isTokenChar c = true := by
  have fixed {cs : List Char} (hcs : cs.all isTokenChar = true) : ∀ c ∈ cs, isTokenChar c = true :=
    List.all_eq_true.mp hcs
  have stem {cs : List Char} (n : Nat) (hcs : cs.all isTokenChar = true) :
      ∀ c ∈ cs ++ Decimal.digits n, isTokenChar c = true := fun c hc => by
    rcases List.mem_append.mp hc with hc | hc
    · exact fixed hcs c hc
    · simp [isTokenChar, Decimal.isDigit_of_mem_digits n hc]
  cases m with
  | processStarted pid => exact stem _ (by decide)
  | shutdownStart => exact fixed (by decide)
  | shutdownPid pid => exact stem _ (by decide)
  | shutdownComplete => exact fixed (by decide)

theorem notMem_chars {c : Char} (h : isTokenChar c = false) (m : Marker) : c ∉ m.chars := by
  intro hmem
  rw [isTokenChar_of_mem_chars m c hmem] at h
  cases h

theorem toList_text (m : Marker) : m.text.toList = m.chars := String.toList_ofList

theorem chars_ne_nil (m : Marker) : m.chars ≠ [] := (spells_chars m).ne_nil

end Marker

/-! ### Texts with a separator -/

/-- A list is cut in one way at the first place where a separator stands. -/
theorem append_cons_inj_of_first {α : Type} {sep : α} : ∀ {front front' rest rest' : List α},
    sep ∉ front → sep ∉ front' → front ++ sep :: rest = front' ++ sep :: rest' → front = front' ∧ rest = rest'
  | [], [], _, _, _, _, h => ⟨rfl, (List.cons.inj h).2⟩
  | [], x :: _, _, _, _, hfront', h => by
    obtain rfl : sep = x := (List.cons.inj h).1
    exact absurd List.mem_cons_self hfront'
  | x :: _, [], _, _, hfront, _, h => by
    obtain rfl : x = sep := (List.cons.inj h).1
    exact absurd List.mem_cons_self hfront
  | x :: front, y :: front', rest, rest', hfront, hfront', h => by
    obtain ⟨rfl, htail⟩ := List.cons.inj h
    obtain ⟨rfl, hrest⟩ := append_cons_inj_of_first (List.not_mem_of_not_mem_cons hfront)
      (List.not_mem_of_not_mem_cons hfront') htail
    exact ⟨rfl, hrest⟩

/-- And in one way at the last place. -/
theorem append_cons_inj_of_last {α : Type} {sep : α} {front front' rest rest' : List α} (h : sep ∉ rest)
    (h' : sep ∉ rest') (heq : front ++ sep :: rest = front' ++ sep :: rest') : front = front' ∧ rest = rest' := by
  have hreverse := congrArg List.reverse heq
  simp only [List.reverse_append, List.reverse_cons, List.append_assoc, List.singleton_append] at hreverse
  obtain ⟨hrest, hfront⟩ := append_cons_inj_of_first (by rwa [List.mem_reverse]) (by rwa [List.mem_reverse]) hreverse
  exact ⟨List.reverse_inj.mp hfront, List.reverse_inj.mp hrest⟩

namespace SequenceViolation

/-! ### Kinds -/

/-- What is wrong, without the particulars. -/
inductive Kind
  | noMarkers
  | startupNotFirst
  | startupNotFirstLine
  | missing
  | outOfOrder
  | pidMismatch
  | cleanupTooShort
  | trailing
  deriving DecidableEq

def kind : SequenceViolation → Kind
  | .noMarkers => .noMarkers
  | .startupNotFirst _ => .startupNotFirst
  | .startupNotFirstLine _ => .startupNotFirstLine
  | .missing _ => .missing
  | .outOfOrder _ _ => .outOfOrder
  | .pidMismatch _ _ => .pidMismatch
  | .cleanupTooShort _ _ => .cleanupTooShort
  | .trailing _ => .trailing

/-- The words with which all messages of a kind begin. -/
def Kind.opening : Kind → String
  | .noMarkers => "no marker lines were observed"
  | .startupNotFirst => "first marker was "
  | .startupNotFirstLine => "first line was "
  | .missing => ""
  | .outOfOrder => "expected "
  | .pidMismatch => "GRACEFUL_SHUTDOWN_PID="
  | .cleanupTooShort => "cleanup took "
  | .trailing => "unexpected marker after GRACEFUL_SHUTDOWN_COMPLETE: "

/-- The words with which the message of a missing marker ends. -/
def neverObserved : String := " was never observed"

/-- What a message says behind these words. -/
def particulars : SequenceViolation → String
  | .noMarkers => ""
  | .startupNotFirst found => found.text ++ ", expected PROCESS_STARTED_PID"
  | .startupNotFirstLine text => Quoted.text text ++ ", expected PROCESS_STARTED_PID"
  | .missing expected => expected ++ neverObserved
  | .outOfOrder expected found => expected ++ (", found " ++ found.text)
  | .pidMismatch expected found =>
    Decimal.text found.toNat ++ (" does not match startup pid " ++ Decimal.text expected.toNat)
  | .cleanupTooShort actual minimum => actual.text ++ (", expected at least " ++ minimum.text)
  | .trailing extra => extra.text

theorem message_eq (v : SequenceViolation) : v.message = v.kind.opening ++ v.particulars := by
  cases v with
  | noMarkers => exact String.append_empty.symm
  | startupNotFirst found => exact String.append_assoc ..
  | startupNotFirstLine text => exact String.append_assoc ..
  | missing expected => exact String.empty_append.symm
  | outOfOrder expected found => exact (String.append_assoc ..).trans (String.append_assoc ..)
  | pidMismatch expected found => exact (String.append_assoc ..).trans (String.append_assoc ..)
  | cleanupTooShort actual minimum => exact (String.append_assoc ..).trans (String.append_assoc ..)
  | trailing extra => rfl

theorem opens_message (v : SequenceViolation) : v.kind.opening.toList <+: v.message.toList := by
  rw [message_eq, String.toList_append]
  exact List.prefix_append _ _

/-- No two kinds that have words of their own in front begin alike. -/
theorem eq_of_opens_alike : ∀ {k k' : Kind}, k ≠ .missing → k' ≠ .missing →
    k.opening.toList <+: k'.opening.toList → k = k' := by
  intro k k'
  cases k <;> cases k' <;> decide

/-! ### Last words -/

theorem getLast?_append {s t : String} {c : Char} (h : t.toList.getLast? = some c) :
    (s ++ t).toList.getLast? = some c := by
  rw [String.toList_append, List.getLast?_append, h, Option.some_or]

/-- No text of a marker and no numeral ends as the words of a missing marker do. -/
theorem exists_last {cs : List Char} (hne : cs ≠ []) (h : 'd' ∉ cs) : ∃ c, cs.getLast? = some c ∧ c ≠ 'd' := by
  refine ⟨cs.getLast hne, List.getLast?_eq_some_getLast hne, fun hd => h ?_⟩
  rw [← hd]
  exact List.getLast_mem hne

theorem exists_last_marker (m : Marker) : ∃ c, m.text.toList.getLast? = some c ∧ c ≠ 'd' := by
  rw [Marker.toList_text]
  exact exists_last m.chars_ne_nil (m.notMem_chars (by decide))

theorem exists_last_numeral (n : Nat) : ∃ c, (Decimal.text n).toList.getLast? = some c ∧ c ≠ 'd' := by
  rw [Decimal.toList_text]
  refine exists_last (Decimal.digits_ne_nil n) fun h => ?_
  exact absurd (Decimal.isDigit_of_mem_digits n h) (by decide)

/-- The words of a missing marker end no other message. -/
theorem not_suffix_of_kind {v : SequenceViolation} (h : v.kind ≠ .missing) :
    ¬neverObserved.toList <:+ v.message.toList := by
  -- but for a transcript without markers, the last letter is enough to see it
  have hlast {c : Char} (hc : v.particulars.toList.getLast? = some c) (hne : c ≠ 'd') :
      ¬neverObserved.toList <:+ v.message.toList := by
    rintro ⟨front, hfront⟩
    have hd : v.message.toList.getLast? = some 'd' := by
      rw [← hfront, List.getLast?_append]
      rfl
    rw [message_eq, getLast?_append hc] at hd
    exact hne (Option.some.inj hd)
  cases v with
  | noMarkers => decide
  | startupNotFirst found => exact hlast (getLast?_append (by decide : _ = some 'D')) (by decide)
  | startupNotFirstLine text => exact hlast (getLast?_append (by decide : _ = some 'D')) (by decide)
  | missing expected => exact absurd rfl h
  | outOfOrder expected found =>
    obtain ⟨c, hc, hne⟩ := exists_last_marker found
    exact hlast (getLast?_append (getLast?_append hc)) hne
  | pidMismatch expected found =>
    obtain ⟨c, hc, hne⟩ := exists_last_numeral expected.toNat
    exact hlast (getLast?_append (getLast?_append hc)) hne
  | cleanupTooShort actual minimum =>
    have hunit : minimum.text.toList.getLast? = some 's' := by
      rw [Duration.text, String.toList_ofList, Duration.getLast?_chars]
    exact hlast (getLast?_append (getLast?_append hunit)) (by decide)
  | trailing extra =>
    obtain ⟨c, hc, hne⟩ := exists_last_marker extra
    exact hlast hc hne

theorem suffix_iff_missing (v : SequenceViolation) :
    neverObserved.toList <:+ v.message.toList ↔ v.kind = .missing := by
  constructor
  · intro h
    by_contra hkind
    exact not_suffix_of_kind hkind h
  · intro h
    cases v with
    | missing expected =>
      show neverObserved.toList <:+ (expected ++ neverObserved).toList
      rw [String.toList_append]
      exact List.suffix_append _ _
    | _ => cases h

/-- The message of a violation tells its kind. -/
theorem kind_eq_of_message_eq {v w : SequenceViolation} (h : v.message = w.message) : v.kind = w.kind := by
  by_cases hv : v.kind = .missing
  · rw [hv]
    exact ((suffix_iff_missing w).mp (h ▸ (suffix_iff_missing v).mpr hv)).symm
  · have hw : w.kind ≠ .missing := fun hw => hv ((suffix_iff_missing v).mp (h ▸ (suffix_iff_missing w).mpr hw))
    have hopening := w.opens_message
    rw [← h] at hopening
    rcases List.prefix_or_prefix_of_prefix v.opens_message hopening with hpre | hpre
    · exact eq_of_opens_alike hv hw hpre
    · exact (eq_of_opens_alike hw hv hpre).symm

/-! ### Particulars -/

theorem particulars_eq_of_message_eq {v w : SequenceViolation} (h : v.message = w.message) :
    v.particulars = w.particulars := by
  have hkind := kind_eq_of_message_eq h
  rw [message_eq, message_eq, hkind] at h
  exact (String.append_right_inj _).mp h

theorem eq_of_outOfOrder {expected expected' : String} {found found' : Marker}
    (h : (outOfOrder expected found).particulars = (outOfOrder expected' found').particulars) :
    expected = expected' ∧ found = found' := by
  have hblank (m : Marker) : ' ' ∉ m.text.toList := by
    rw [Marker.toList_text]
    exact m.notMem_chars (by decide)
  have hlist (e : String) (m : Marker) : (outOfOrder e m).particulars.toList =
      (e.toList ++ [',', ' ', 'f', 'o', 'u', 'n', 'd']) ++ ' ' :: m.text.toList := by
    simp [particulars]
  have hsplit := congrArg String.toList h
  rw [hlist, hlist] at hsplit
  obtain ⟨hfront, htext⟩ := append_cons_inj_of_last (hblank found) (hblank found') hsplit
  exact ⟨String.toList_inj.mp (List.append_cancel_right hfront), Marker.text_injective (String.toList_inj.mp htext)⟩

theorem eq_of_pidMismatch {expected expected' found found' : UInt32}
    (h : (pidMismatch expected found).particulars = (pidMismatch expected' found').particulars) :
    expected = expected' ∧ found = found' := by
  have hblank (pid : UInt32) : ' ' ∉ (Decimal.text pid.toNat).toList := fun hmem => by
    rw [Decimal.toList_text] at hmem
    exact absurd (Decimal.isDigit_of_mem_digits _ hmem) (by decide)
  have hlist (e f : UInt32) : (pidMismatch e f).particulars.toList =
      (Decimal.text f.toNat).toList ++ ' ' :: ("does not match startup pid " ++ Decimal.text e.toNat).toList := by
    simp [particulars]
  have hsplit := congrArg String.toList h
  rw [hlist, hlist] at hsplit
  obtain ⟨hfound, hrest⟩ := append_cons_inj_of_first (hblank found) (hblank found') hsplit
  have hexpected := (String.append_right_inj _).mp (String.toList_inj.mp hrest)
  exact ⟨UInt32.toNat_inj.mp (Decimal.text_injective hexpected),
    UInt32.toNat_inj.mp (Decimal.text_injective (String.toList_inj.mp hfound))⟩

theorem eq_of_cleanupTooShort {actual actual' minimum minimum' : Duration}
    (h : (cleanupTooShort actual minimum).particulars = (cleanupTooShort actual' minimum').particulars) :
    actual = actual' ∧ minimum = minimum' := by
  have hcomma (d : Duration) : ',' ∉ d.text.toList := by
    rw [Duration.text, String.toList_ofList]
    exact d.comma_notMem_chars
  have hlist (a m : Duration) : (cleanupTooShort a m).particulars.toList =
      a.text.toList ++ ',' :: (" expected at least " ++ m.text).toList := by
    simp [particulars]
  have hsplit := congrArg String.toList h
  rw [hlist, hlist] at hsplit
  obtain ⟨hactual, hrest⟩ := append_cons_inj_of_first (hcomma actual) (hcomma actual') hsplit
  exact ⟨Duration.text_injective (String.toList_inj.mp hactual),
    Duration.text_injective ((String.append_right_inj _).mp (String.toList_inj.mp hrest))⟩

/-- Different violations have different messages. -/
theorem message_injective : Function.Injective message := by
  intro v w h
  have hkind := kind_eq_of_message_eq h
  have hparticulars := particulars_eq_of_message_eq h
  cases v with
  | noMarkers =>
    cases w with
    | noMarkers => rfl
    | _ => cases hkind
  | startupNotFirst found =>
    cases w with
    | startupNotFirst found' =>
      rw [Marker.text_injective ((String.append_left_inj _).mp hparticulars)]
    | _ => cases hkind
  | startupNotFirstLine text =>
    cases w with
    | startupNotFirstLine text' =>
      rw [Quoted.text_injective ((String.append_left_inj _).mp hparticulars)]
    | _ => cases hkind
  | missing expected =>
    cases w with
    | missing expected' => rw [(String.append_left_inj _).mp hparticulars]
    | _ => cases hkind
  | outOfOrder expected found =>
    cases w with
    | outOfOrder expected' found' =>
      obtain ⟨rfl, rfl⟩ := eq_of_outOfOrder hparticulars
      rfl
    | _ => cases hkind
  | pidMismatch expected found =>
    cases w with
    | pidMismatch expected' found' =>
      obtain ⟨rfl, rfl⟩ := eq_of_pidMismatch hparticulars
      rfl
    | _ => cases hkind
  | cleanupTooShort actual minimum =>
    cases w with
    | cleanupTooShort actual' minimum' =>
      obtain ⟨rfl, rfl⟩ := eq_of_cleanupTooShort hparticulars
      rfl
    | _ => cases hkind
  | trailing extra =>
    cases w with
    | trailing extra' => rw [Marker.text_injective hparticulars]
    | _ => cases hkind

end SequenceViolation
end OrderlyExit
