import OrderlyExit.Capture.Transcript
import OrderlyExit.Proofs.Text.Decimal

/-! The printed form of a transcript, and reading it back. Each line of the transcript is printed on one line, behind
    its offset: what is between the bracket and the unit is that number, however wide it is, and all that follows the
    closing bracket and its blank is the text, whatever it looks like. -/

namespace OrderlyExit

/-! ### Padded numerals -/

namespace Decimal

theorem dropWhile_blankPadded (width n : Nat) (rest : List Char) :
    (blankPadded width n ++ rest).dropWhile (· == ' ') = digits n ++ rest := by
  have hblanks : ∀ c ∈ List.replicate (width - (digits n).length) ' ', (c == ' ') = true := fun c hc => by
    rw [List.eq_of_mem_replicate hc]
    rfl
  obtain ⟨d, ds, hdigits, hd⟩ := exists_digits_eq_cons n
  have hne : ¬(d == ' ') = true := fun hblank => by
    rw [beq_iff_eq.mp hblank] at hd
    exact absurd hd (by decide)
  rw [blankPadded, List.append_assoc, List.dropWhile_append_of_pos hblanks, hdigits, List.cons_append,
    List.dropWhile_cons_of_neg (p := (· == ' ')) hne]

theorem takeWhile_digits (n : Nat) {c : Char} (hc : c.isDigit = false) (rest : List Char) :
    (digits n ++ c :: rest).takeWhile Char.isDigit = digits n := by
  rw [List.takeWhile_append_of_pos fun d hd => isDigit_of_mem_digits n hd, List.takeWhile_cons_of_neg (by simp [hc]),
    List.append_nil]

theorem dropWhile_digits (n : Nat) {c : Char} (hc : c.isDigit = false) (rest : List Char) :
    (digits n ++ c :: rest).dropWhile Char.isDigit = c :: rest := by
  rw [List.dropWhile_append_of_pos fun d hd => isDigit_of_mem_digits n hd, List.dropWhile_cons_of_neg (by simp [hc])]

theorem mem_blankPadded {width n : Nat} {c : Char} (h : c ∈ blankPadded width n) : c = ' ' ∨ c.isDigit = true := by
  rcases List.mem_append.mp h with hblank | hdigit
  · exact .inl (List.eq_of_mem_replicate hblank)
  · exact .inr (isDigit_of_mem_digits n hdigit)

end Decimal

namespace Transcript

/-! ### Printed lines -/

/-- What a printed transcript tells of its lines: the whole milliseconds from the start to each of them, none for an
earlier one, and its text. -/
def entries (t : Transcript) : List (Nat × String) :=
  t.lines.map fun line => ((max 0 (line.stamp.nanos - t.started.nanos)).toNat / 1000000, line.text)

/-- The line on which such an entry is printed, without its line feed. -/
def printed (entry : Nat × String) : List Char :=
  ['[', '+'] ++ Decimal.blankPadded 5 entry.1 ++ ['m', 's', ']', ' '] ++ entry.2.toList

/-- No text has a line feed in it. -/
def OneLined (t : Transcript) : Prop := ∀ line ∈ t.lines, '\n' ∉ line.text.toList

instance (t : Transcript) : Decidable t.OneLined :=
  inferInstanceAs (Decidable (∀ line ∈ t.lines, '\n' ∉ line.text.toList))

theorem millis_offset (t : Transcript) (line : ObservedLine) :
    (t.offset line).millis = (max 0 (line.stamp.nanos - t.started.nanos)).toNat / 1000000 := by
  have hsaturated : (max 0 (line.stamp.nanos - t.started.nanos)).toNat = (line.stamp.nanos - t.started.nanos).toNat := by
    omega
  rw [hsaturated]
  rfl

theorem renderLine_eq (t : Transcript) (line : ObservedLine) :
    t.renderLine line =
      printed ((max 0 (line.stamp.nanos - t.started.nanos)).toNat / 1000000, line.text) ++ ['\n'] := by
  rw [renderLine, millis_offset]
  rfl

/-- The printed form depends on the entries alone. -/
theorem toList_render (t : Transcript) : t.render.toList = (t.entries.map printed).flatMap (· ++ ['\n']) := by
  rw [render, String.toList_ofList, entries, List.map_map, List.flatMap_map]
  exact congrArg (List.flatMap · t.lines) (funext t.renderLine_eq)

theorem newline_notMem_printed {entry : Nat × String} (h : '\n' ∉ entry.2.toList) : '\n' ∉ printed entry := by
  intro hmem
  rw [printed, List.mem_append, List.mem_append, List.mem_append] at hmem
  rcases hmem with ((hopen | hoffset) | hunit) | htext
  · exact absurd hopen (by decide)
  · exact absurd (Decimal.mem_blankPadded hoffset) (by decide)
  · exact absurd hunit (by decide)
  · exact h htext

theorem OneLined.entries {t : Transcript} (h : t.OneLined) : ∀ entry ∈ t.entries, '\n' ∉ entry.2.toList := by
  intro entry hentry
  obtain ⟨line, hline, rfl⟩ := List.mem_map.mp hentry
  exact h line hline

theorem splitOn_lines {lines : List (List Char)} (h : ∀ line ∈ lines, '\n' ∉ line) :
    (lines.flatMap (· ++ ['\n'])).splitOn '\n' = lines ++ [[]] := by
  induction lines with
  | nil => rfl
  | cons line lines ih =>
    obtain ⟨hline, hlines⟩ := List.forall_mem_cons.mp h
    rw [List.flatMap_cons, List.append_assoc, List.singleton_append, List.splitOn_append_cons_self_of_not_mem hline,
      ih hlines, List.cons_append]

/-- Cut at its line feeds, the printed form is one line for each line of the transcript, and nothing behind them. -/
theorem splitOn_render {t : Transcript} (h : t.OneLined) :
    t.render.toList.splitOn '\n' = t.entries.map printed ++ [[]] := by
  have hlines : ∀ line ∈ t.entries.map printed, '\n' ∉ line := fun line hline => by
    obtain ⟨entry, hentry, rfl⟩ := List.mem_map.mp hline
    exact newline_notMem_printed (h.entries entry hentry)
  rw [toList_render, splitOn_lines hlines]

/-! ### Reading them back -/

/-- The entry on a printed line: the number behind the bracket and its blanks, and what follows the four characters
behind that. -/
def readEntry (line : List Char) : Nat × String :=
  let numbered := (line.drop 2).dropWhile (· == ' ')
  (Decimal.value (numbered.takeWhile Char.isDigit), String.ofList ((numbered.dropWhile Char.isDigit).drop 4))

/-- The entries of a printed transcript. -/
def readRendered (text : String) : List (Nat × String) := (text.toList.splitOn '\n').dropLast.map readEntry

theorem readEntry_printed (entry : Nat × String) : readEntry (printed entry) = entry := by
  obtain ⟨offset, text⟩ := entry
  have hnumbered : ((printed (offset, text)).drop 2).dropWhile (· == ' ') =
      Decimal.digits offset ++ 'm' :: (['s', ']', ' '] ++ text.toList) := by
    show (Decimal.blankPadded 5 offset ++ ['m', 's', ']', ' '] ++ text.toList).dropWhile (· == ' ') = _
    rw [List.append_assoc, Decimal.dropWhile_blankPadded]
    rfl
  have hunit : 'm'.isDigit = false := by decide
  simp only [readEntry, hnumbered, Decimal.takeWhile_digits offset hunit, Decimal.dropWhile_digits offset hunit,
    Decimal.value_digits]
  exact congrArg (Prod.mk offset) String.ofList_toList

theorem readRendered_render {t : Transcript} (h : t.OneLined) : readRendered t.render = t.entries := by
  rw [readRendered, splitOn_render h, List.dropLast_concat, List.map_map]
  exact (List.map_congr_left fun entry _ => readEntry_printed entry).trans (List.map_id _)

end Transcript
end OrderlyExit
