import OrderlyExit.Proofs.Capture.Lines
import OrderlyExit.Proofs.Text.Utf8

/-! The segments of a stream. Line feeds end some of them, and one is left that nothing has ended. An ended segment is a
    line, less one carriage return; the last one is a line as it is, if it has any bytes. -/

namespace OrderlyExit
open LineBuffer

/-! ### Segments -/

/-- `bytes` are the segments `ended`, with a line feed behind each of them, and then `last`. -/
inductive Segments : List UInt8 → List (List UInt8) → List UInt8 → Prop
  | last {segment : List UInt8} : lineFeed ∉ segment → Segments segment [] segment
  | ended {segment rest : List UInt8} {others : List (List UInt8)} {last : List UInt8} :
    lineFeed ∉ segment → Segments rest others last → Segments (segment ++ lineFeed :: rest) (segment :: others) last

theorem exists_segments (bytes : List UInt8) : ∃ ended last, Segments bytes ended last := by
  induction bytes with
  | nil => exact ⟨[], [], .last List.not_mem_nil⟩
  | cons b bytes ih =>
    obtain ⟨ended, last, h⟩ := ih
    by_cases hb : b = lineFeed
    · exact ⟨[] :: ended, last, hb ▸ .ended List.not_mem_nil h⟩
    · -- another byte goes to the front of the first segment
      have hfront {segment : List UInt8} (hsegment : lineFeed ∉ segment) : lineFeed ∉ b :: segment :=
        List.not_mem_cons_of_ne_of_not_mem (Ne.symm hb) hsegment
      cases h with
      | last hlast => exact ⟨[], _, .last (hfront hlast)⟩
      | ended hsegment h => exact ⟨_, last, .ended (hfront hsegment) h⟩

namespace Segments
variable {bytes last : List UInt8} {ended : List (List UInt8)}

theorem splitOn_eq (h : Segments bytes ended last) : bytes.splitOn lineFeed = ended ++ [last] := by
  induction h with
  | last hlast => exact List.splitOn_eq_singleton hlast
  | ended hsegment _ ih => rw [List.splitOn_append_cons_self_of_not_mem hsegment, ih, List.cons_append]

theorem count_eq (h : Segments bytes ended last) : bytes.count lineFeed = ended.length := by
  induction h with
  | last hlast => exact List.count_eq_zero.mpr hlast
  | ended hsegment _ ih =>
    rw [List.count_append, List.count_cons_self, List.count_eq_zero.mpr hsegment, ih, List.length_cons, Nat.zero_add]

/-- Nothing is left behind the last line feed of a stream exactly if the stream ends there. -/
theorem last_eq_nil_iff (h : Segments bytes ended last) :
    last = [] ↔ bytes = [] ∨ bytes.getLast? = some lineFeed := by
  induction h with
  | last hlast =>
    refine ⟨Or.inl, fun h => h.resolve_right fun hend => hlast (List.mem_of_getLast? hend)⟩
  | @ended segment rest _ _ hsegment _ ih =>
    have hne : segment ++ lineFeed :: rest ≠ [] := List.append_ne_nil_of_right_ne_nil _ (List.cons_ne_nil _ _)
    rw [ih, or_iff_right hne, List.getLast?_append, List.getLast?_cons, Option.some_or, Option.some.injEq]
    cases hend : rest.getLast? with
    | none => simp [List.getLast?_eq_none_iff.mp hend]
    | some b =>
      have hrest : rest ≠ [] := fun hnil => by simp [hnil] at hend
      simp [hrest]

theorem notMem_ended (h : Segments bytes ended last) : ∀ segment ∈ ended, lineFeed ∉ segment := by
  induction h with
  | last => exact fun _ hmem => nomatch hmem
  | ended hsegment _ ih => exact List.forall_mem_cons.mpr ⟨hsegment, ih⟩

theorem notMem_last (h : Segments bytes ended last) : lineFeed ∉ last := by
  induction h with
  | last hlast => exact hlast
  | ended _ _ ih => exact ih

end Segments

/-! ### Lines -/

/-- A segment less one carriage return at its end. -/
def withoutReturn (segment : List UInt8) : List UInt8 :=
  if segment.getLast? = some carriageReturn then segment.dropLast else segment

theorem withoutReturn_concat (segment : List UInt8) : withoutReturn (segment ++ [carriageReturn]) = segment := by
  rw [withoutReturn, if_pos List.getLast?_concat, List.dropLast_concat]

theorem mem_of_mem_withoutReturn {segment : List UInt8} {b : UInt8} (h : b ∈ withoutReturn segment) : b ∈ segment := by
  unfold withoutReturn at h
  split at h
  · exact (List.dropLast_sublist _).subset h
  · exact h

theorem endedLine_eq (segment : List UInt8) :
    endedLine segment.reverse = Utf8.toStringLossy (withoutReturn segment) := by
  by_cases h : segment.getLast? = some carriageReturn
  · obtain ⟨front, rfl⟩ := List.getLast?_eq_some_iff.mp h
    rw [withoutReturn_concat, List.reverse_append, List.reverse_singleton, List.singleton_append, endedLine, if_pos rfl,
      List.reverse_reverse]
  · rw [endedLine_reverse h, withoutReturn, if_neg h]

/-- The line of what nothing has ended, if it has any bytes. -/
def lastLine (segment : List UInt8) : List String := if segment = [] then [] else [Utf8.toStringLossy segment]

theorem finish_eq (segment : List UInt8) : finish ⟨segment.reverse⟩ = lastLine segment := by
  simp only [finish, lastLine, List.reverse_eq_nil_iff, List.reverse_reverse]

/-- An ended segment is a line at once, and the last one is held back. -/
theorem Segments.feed_eq {bytes last : List UInt8} {ended : List (List UInt8)} (h : Segments bytes ended last) :
    feed {} bytes = (ended.map fun segment => Utf8.toStringLossy (withoutReturn segment), ⟨last.reverse⟩) := by
  induction h with
  | last hlast => rw [feed_segment hlast, List.append_nil, List.map_nil]
  | ended hsegment _ ih => rw [feed_line hsegment, ih, endedLine_eq, List.map_cons]

section
variable {pieces : List (List UInt8)} {last : List UInt8} {ended : List (List UInt8)}

theorem Segments.linesOf_eq (h : Segments pieces.flatten ended last) :
    linesOf pieces = ended.map (fun segment => Utf8.toStringLossy (withoutReturn segment)) ++ lastLine last := by
  rw [OrderlyExit.linesOf_eq, h.feed_eq, finish_eq]

theorem Segments.length_linesOf (h : Segments pieces.flatten ended last) :
    (linesOf pieces).length = ended.length + if last = [] then 0 else 1 := by
  rw [h.linesOf_eq, List.length_append, List.length_map, lastLine]
  split <;> rfl

/-- The line at a place is the segment at that place, less a carriage return only where a line feed has ended it. -/
theorem Segments.getElem_linesOf (h : Segments pieces.flatten ended last) {i : Nat} (hi : i < (linesOf pieces).length) :
    ∃ segment, (ended ++ [last])[i]? = some segment ∧
      (linesOf pieces)[i] = Utf8.toStringLossy (if i < ended.length then withoutReturn segment else segment) := by
  have hlength := h.length_linesOf
  by_cases hended : i < ended.length
  · refine ⟨ended[i], ?_, ?_⟩
    · rw [List.getElem?_append_left hended, List.getElem?_eq_getElem hended]
    · simp only [h.linesOf_eq, hended, ↓reduceIte, List.getElem_append_left, List.length_map, List.getElem_map]
  · have hlast : last ≠ [] := fun hnil => hended (by rw [hlength, if_pos hnil] at hi; exact hi)
    obtain rfl : i = ended.length := by rw [hlength, if_neg hlast] at hi; omega
    refine ⟨last, List.getElem?_concat_length, ?_⟩
    simp [h.linesOf_eq, lastLine, hlast]

end

theorem newline_mem_toStringLossy_iff {bytes : List UInt8} :
    '\n' ∈ (Utf8.toStringLossy bytes).toList ↔ lineFeed ∈ bytes := by
  rw [Utf8.toStringLossy, String.toList_ofList]
  exact Utf8.ascii_mem_decodeLossy_iff (a := '\n') (by decide) bytes

theorem newline_notMem_of_mem_linesOf {pieces : List (List UInt8)} {text : String} (h : text ∈ linesOf pieces) :
    '\n' ∉ text.toList := by
  obtain ⟨ended, last, hsegments⟩ := exists_segments pieces.flatten
  rw [hsegments.linesOf_eq, List.mem_append, List.mem_map] at h
  rcases h with ⟨segment, hmem, rfl⟩ | hlast
  · exact fun hn => hsegments.notMem_ended segment hmem (mem_of_mem_withoutReturn (newline_mem_toStringLossy_iff.mp hn))
  · unfold lastLine at hlast
    split at hlast
    · cases hlast
    · obtain rfl := List.mem_singleton.mp hlast
      exact fun hn => hsegments.notMem_last (newline_mem_toStringLossy_iff.mp hn)

/-! ### Texts with line ends -/

/-- What may end a line of text. -/
inductive LineEnd
  | lf
  | crlf
  deriving DecidableEq, Repr

/-- What stands before the line feed. -/
def LineEnd.returned : LineEnd → List UInt8
  | .lf => []
  | .crlf => [carriageReturn]

def LineEnd.bytes (terminator : LineEnd) : List UInt8 := terminator.returned ++ [lineFeed]

/-- Texts, each with its own line end. -/
def terminated (texts : List (String × LineEnd)) : List UInt8 :=
  texts.flatMap fun line => Utf8.ofString line.1 ++ line.2.bytes

theorem toStringLossy_ofString (text : String) : Utf8.toStringLossy (Utf8.ofString text) = text := by
  rw [Utf8.toStringLossy, Utf8.ofString, Utf8.decodeLossy_encode, String.ofList_toList]

theorem ofString_eq_nil_iff {text : String} : Utf8.ofString text = [] ↔ text = "" := by
  constructor
  · intro hnil
    rw [← toStringLossy_ofString text, hnil]
    exact toStringLossy_ofString ""
  · rintro rfl
    rfl

theorem lineFeed_mem_ofString_iff {text : String} : lineFeed ∈ Utf8.ofString text ↔ '\n' ∈ text.toList :=
  Utf8.ascii_mem_encode_iff (a := '\n') (by decide)

/-- The bytes of a text end in a carriage return only if the text does. -/
theorem getLast?_ofString_ne {text : String} (h : text.toList.getLast? ≠ some '\r') :
    (Utf8.ofString text).getLast? ≠ some carriageReturn := by
  rw [Utf8.ofString]
  rcases List.eq_nil_or_concat text.toList with hnil | ⟨front, c, hconcat⟩
  · rw [hnil]
    exact (nomatch ·)
  · rw [hconcat, List.concat_eq_append] at h ⊢
    intro hlast
    -- the last byte is one of the last character
    have hmem : carriageReturn ∈ String.utf8EncodeChar c := by
      obtain ⟨b, bs, hchar, -⟩ := Utf8.next_encodeChar c []
      have hsingle : Utf8.encode [c] = b :: bs := hchar ▸ List.flatMap_singleton _ _
      rw [Utf8.encode_append, hsingle, List.getLast?_append, List.getLast?_cons, Option.some_or,
        ← List.getLast?_cons] at hlast
      exact hchar ▸ List.mem_of_getLast? hlast
    obtain rfl : '\r' = c := (Utf8.ascii_mem_encodeChar_iff (a := '\r') (by decide)).mp hmem
    exact h List.getLast?_concat

theorem withoutReturn_terminated {text : String} (h : text.toList.getLast? ≠ some '\r') (terminator : LineEnd) :
    withoutReturn (Utf8.ofString text ++ terminator.returned) = Utf8.ofString text := by
  cases terminator with
  | lf => rw [LineEnd.returned, List.append_nil, withoutReturn, if_neg (getLast?_ofString_ne h)]
  | crlf => exact withoutReturn_concat _

theorem segments_terminated {texts : List (String × LineEnd)} {last : String}
    (htexts : ∀ line ∈ texts, '\n' ∉ line.1.toList) (hlast : '\n' ∉ last.toList) :
    Segments (terminated texts ++ Utf8.ofString last)
      (texts.map fun line => Utf8.ofString line.1 ++ line.2.returned) (Utf8.ofString last) := by
  induction texts with
  | nil => exact .last (mt lineFeed_mem_ofString_iff.mp hlast)
  | cons line texts ih =>
    obtain ⟨hline, htexts⟩ := List.forall_mem_cons.mp htexts
    have hreturned : lineFeed ∉ line.2.returned := by cases line.2 <;> decide
    have hsegment : lineFeed ∉ Utf8.ofString line.1 ++ line.2.returned := fun h =>
      (List.mem_append.mp h).elim (mt lineFeed_mem_ofString_iff.mp hline) hreturned
    have hbytes : terminated (line :: texts) ++ Utf8.ofString last =
        (Utf8.ofString line.1 ++ line.2.returned) ++ lineFeed :: (terminated texts ++ Utf8.ofString last) := by
      simp [terminated, LineEnd.bytes]
    rw [hbytes, List.map_cons]
    exact .ended hsegment (ih htexts)

/-- Texts that are written one to a line are read back, whatever ends each line, and so is a text that none ends. -/
theorem linesOf_terminated {pieces : List (List UInt8)} {texts : List (String × LineEnd)} {last : String}
    (htexts : ∀ line ∈ texts, '\n' ∉ line.1.toList ∧ line.1.toList.getLast? ≠ some '\r') (hlast : '\n' ∉ last.toList)
    (h : pieces.flatten = terminated texts ++ Utf8.ofString last) :
    linesOf pieces = texts.map Prod.fst ++ if last = "" then [] else [last] := by
  have hsegments := segments_terminated (fun line hmem => (htexts line hmem).1) hlast
  rw [← h] at hsegments
  have hread : ∀ line ∈ texts,
      Utf8.toStringLossy (withoutReturn (Utf8.ofString line.1 ++ line.2.returned)) = line.1 := fun line hmem => by
    rw [withoutReturn_terminated (htexts line hmem).2, toStringLossy_ofString]
  have hlines : texts.map (fun line => Utf8.toStringLossy (withoutReturn (Utf8.ofString line.1 ++ line.2.returned))) =
      texts.map Prod.fst := List.map_congr_left hread
  rw [hsegments.linesOf_eq, List.map_map]
  simp only [Function.comp_def, hlines, lastLine, ofString_eq_nil_iff, toStringLossy_ofString]

end OrderlyExit
