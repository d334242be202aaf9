import Mathlib.Data.List.DropRight
import OrderlyExit.Proofs.Capture.Segments
import OrderlyExit.Proofs.Marker.Normal
import OrderlyExit.Proofs.Marker.Wire

/-! Markers in the bytes of a line. Bytes are read as text with replacements, and two readers in turn drop line ends,
    but none of it makes or loses a marker: one is found exactly where the bytes, without the carriage returns behind
    them, are the ASCII text of a marker line. -/

namespace OrderlyExit
open LineBuffer

namespace Marker

/-! ### Lines of markers -/

/-- The bytes of the lines that are markers: two fixed ones, and two with the numeral of a process id at their end. -/
inductive SpelledIn : List UInt8 → Marker → Prop
  | start : SpelledIn ("GRACEFUL_SHUTDOWN_START".toList.map Utf8.asciiByte) .shutdownStart
  | complete : SpelledIn ("GRACEFUL_SHUTDOWN_COMPLETE".toList.map Utf8.asciiByte) .shutdownComplete
  | started {value : List Char} {pid : UInt32} (h : Decimal.Numeral value pid.toNat) :
      SpelledIn (("PROCESS_STARTED_PID=".toList ++ value).map Utf8.asciiByte) (.processStarted pid)
  | pid {value : List Char} {pid : UInt32} (h : Decimal.Numeral value pid.toNat) :
      SpelledIn (("GRACEFUL_SHUTDOWN_PID=".toList ++ value).map Utf8.asciiByte) (.shutdownPid pid)

theorem spelledIn_iff {bs : List UInt8} {m : Marker} :
    SpelledIn bs m ↔ ∃ cs, bs = cs.map Utf8.asciiByte ∧ Spells cs m := by
  constructor
  · rintro (_ | _ | h | h)
    · exact ⟨_, rfl, .start⟩
    · exact ⟨_, rfl, .complete⟩
    · exact ⟨_, rfl, .started (readPid?_eq_some_iff.mpr h)⟩
    · exact ⟨_, rfl, .pid (readPid?_eq_some_iff.mpr h)⟩
  · rintro ⟨cs, rfl, hspells⟩
    cases hspells with
    | start => exact .start
    | complete => exact .complete
    | started h => exact .started (readPid?_eq_some_iff.mp h)
    | pid h => exact .pid (readPid?_eq_some_iff.mp h)

/-- Every spelling of a marker is ASCII on one line. -/
theorem Spells.all_isPlain {cs : List Char} {m : Marker} (h : Spells cs m) : ∀ c ∈ cs, isPlain c = true := by
  have fixed : ∀ {cs : List Char}, cs.all isPlain = true → ∀ c ∈ cs, isPlain c = true := List.all_eq_true.mp
  have numbered {stem value : List Char} {pid : UInt32} (hstem : stem.all isPlain = true)
      (hvalue : readPid? value = some pid) : ∀ c ∈ stem ++ value, isPlain c = true := fun c hc => by
    rcases List.mem_append.mp hc with hc | hc
    · exact fixed hstem c hc
    · exact isPlain_of_isDigit ((readPid?_eq_some_iff.mp hvalue).isDigit c hc)
  cases h with
  | start => exact fixed (by decide)
  | complete => exact fixed (by decide)
  | started hvalue => exact numbered (by decide) hvalue
  | pid hvalue => exact numbered (by decide) hvalue

/-! ### Line ends -/

/-- The byte of a line end. -/
def IsEndByte (b : UInt8) : Prop := b = carriageReturn ∨ b = lineFeed

theorem isEndByte_iff {c : Char} (hc : c.toNat < 128) : IsEndByte (Utf8.asciiByte c) ↔ c = '\r' ∨ c = '\n' := by
  have byte {d : Char} (hd : d.toNat < 128) : Utf8.asciiByte c = Utf8.asciiByte d ↔ c = d :=
    ⟨Utf8.asciiByte_inj hc hd, congrArg Utf8.asciiByte⟩
  exact or_congr (byte (d := '\r') (by decide)) (byte (d := '\n') (by decide))

theorem exists_ends {ends : List UInt8} (h : ∀ b ∈ ends, IsEndByte b) :
    ∃ cs : List Char, ends = cs.map Utf8.asciiByte ∧ ∀ c ∈ cs, c = '\r' ∨ c = '\n' := by
  induction ends with
  | nil => exact ⟨[], rfl, List.forall_mem_nil _⟩
  | cons b ends ih =>
    obtain ⟨hb, hends⟩ := List.forall_mem_cons.mp h
    obtain ⟨cs, rfl, hcs⟩ := ih hends
    rcases hb with rfl | rfl
    · exact ⟨'\r' :: cs, rfl, List.forall_mem_cons.mpr ⟨Or.inl rfl, hcs⟩⟩
    · exact ⟨'\n' :: cs, rfl, List.forall_mem_cons.mpr ⟨Or.inr rfl, hcs⟩⟩

theorem ascii_of_lineEnd {c : Char} (h : c = '\r' ∨ c = '\n') : c.toNat < 128 := by
  rcases h with rfl | rfl <;> decide

/-- Line ends behind the bytes of a line do not change its marker. -/
theorem parse?_append_ends {ends : List UInt8} (h : ∀ b ∈ ends, IsEndByte b) (bs : List UInt8) :
    parse? (Utf8.toStringLossy (bs ++ ends)) = parse? (Utf8.toStringLossy bs) := by
  obtain ⟨cs, rfl, hcs⟩ := exists_ends h
  have hread := Utf8.decodeLossy_append_ascii (fun c hc => ascii_of_lineEnd (hcs c hc)) bs
  simp only [parse?, parse, Utf8.toStringLossy, String.toList_ofList, hread, body_append hcs]

/-! ### The marker on a line -/

/-- Bytes without line ends behind them are read as a marker exactly if they spell it, byte for byte. -/
theorem parse?_toStringLossy_iff {bs : List UInt8} (h : ∀ b, bs.getLast? = some b → ¬IsEndByte b) {m : Marker} :
    parse? (Utf8.toStringLossy bs) = some m ↔ SpelledIn bs m := by
  rw [spelledIn_iff]
  constructor
  · intro hparse
    rw [parse?_eq_some, Utf8.toStringLossy, String.toList_ofList] at hparse
    obtain ⟨ends, hsplit, hends⟩ := (isBody_body (Utf8.decodeLossy bs)).split
    -- a replacement is no ASCII character, so a text that has none is the text of its bytes
    have hascii : ∀ c ∈ Utf8.decodeLossy bs, c.toNat < 128 := fun c hc => by
      rw [hsplit, List.mem_append] at hc
      rcases hc with hc | hc
      · exact ascii_of_isPlain (hparse.all_isPlain c hc)
      · exact ascii_of_lineEnd (hends c hc)
    have hbytes := Utf8.eq_map_of_decodeLossy hascii
    rcases List.eq_nil_or_concat ends with rfl | ⟨front, c, rfl⟩
    · rw [List.append_nil] at hsplit
      exact ⟨_, hbytes.trans (congrArg _ hsplit), hparse⟩
    · have hc : c = '\r' ∨ c = '\n' := hends c (by simp)
      refine absurd ((isEndByte_iff (ascii_of_lineEnd hc)).mpr hc) (h _ ?_)
      rw [hbytes, hsplit]
      simp
  · rintro ⟨cs, rfl, hspells⟩
    have hplain := hspells.all_isPlain
    rw [toStringLossy_ascii fun c hc => ascii_of_isPlain (hplain c hc)]
    exact (parse?_ofList fun c hc => isLineEnd_of_isPlain (hplain c hc)).mpr hspells

end Marker

/-! ### Carriage returns -/

def isReturn (b : UInt8) : Bool := b == carriageReturn

/-- A segment less all carriage returns at its end. -/
def withoutReturns (segment : List UInt8) : List UInt8 := segment.rdropWhile isReturn

theorem exists_returns (segment : List UInt8) :
    ∃ ends, segment = withoutReturns segment ++ ends ∧ ∀ b ∈ ends, b = carriageReturn :=
  ⟨segment.rtakeWhile isReturn, List.rdropWhile_append_rtakeWhile.symm,
    fun _ hb => eq_of_beq (List.mem_rtakeWhile_imp (p := isReturn) hb)⟩

theorem withoutReturns_withoutReturn (segment : List UInt8) :
    withoutReturns (withoutReturn segment) = withoutReturns segment := by
  unfold withoutReturn
  split
  · rename_i h
    obtain ⟨front, rfl⟩ := List.getLast?_eq_some_iff.mp h
    rw [List.dropLast_concat]
    exact (List.rdropWhile_concat_pos isReturn front carriageReturn rfl).symm
  · rfl

/-- No line end is left behind a segment between two line feeds. -/
theorem not_isEndByte_of_getLast? {segment : List UInt8} (h : lineFeed ∉ segment) {b : UInt8}
    (hb : (withoutReturns segment).getLast? = some b) : ¬Marker.IsEndByte b := by
  have hne : withoutReturns segment ≠ [] := fun hnil => by simp [hnil] at hb
  have hlast : (withoutReturns segment).getLast hne = b :=
    Option.some.inj ((List.getLast?_eq_getLast_of_ne_nil hne).symm.trans hb)
  rintro (rfl | rfl)
  · exact List.rdropWhile_last_not isReturn segment hne (beq_iff_eq.mpr hlast)
  · exact h ((List.rdropWhile_prefix isReturn segment).subset (hlast ▸ List.getLast_mem hne))

end OrderlyExit
