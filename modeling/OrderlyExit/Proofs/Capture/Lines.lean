import OrderlyExit.Capture.Lines

/-! The reader loop. Taking in two pieces one after the other is taking in both at once, so the lines of a
    stream depend on its bytes alone, and a segment between two line feeds is a line of its own. -/

namespace OrderlyExit
namespace LineBuffer

theorem feed_append (buffer : LineBuffer) (xs ys : List UInt8) :
    buffer.feed (xs ++ ys) =
      ((buffer.feed xs).1 ++ ((buffer.feed xs).2.feed ys).1, ((buffer.feed xs).2.feed ys).2) := by
  induction xs generalizing buffer with
  | nil => rfl
  | cons b xs ih =>
    by_cases hb : b = lineFeed
    · simp only [List.cons_append, feed, hb, ↓reduceIte, ih]
    · simp only [List.cons_append, feed, hb, ↓reduceIte, ih]

theorem feedAll_eq (buffer : LineBuffer) (pieces : List (List UInt8)) :
    buffer.feedAll pieces = (buffer.feed pieces.flatten).1 ++ (buffer.feed pieces.flatten).2.finish := by
  induction pieces generalizing buffer with
  | nil => rfl
  | cons piece pieces ih => rw [feedAll, ih, List.flatten_cons, feed_append, List.append_assoc]

/-- Bytes without a line feed end no line. -/
theorem feed_segment {segment : List UInt8} (h : lineFeed ∉ segment) (buffer : LineBuffer) :
    buffer.feed segment = ([], ⟨segment.reverse ++ buffer.held⟩) := by
  induction segment generalizing buffer with
  | nil => rfl
  | cons b segment ih =>
    obtain ⟨hb, hrest⟩ := List.ne_and_not_mem_of_not_mem_cons h
    rw [feed, if_neg (Ne.symm hb), ih hrest, List.reverse_cons, List.append_assoc, List.singleton_append]

/-- A segment and its line feed end one line and leave nothing behind. -/
theorem feed_line {segment : List UInt8} (h : lineFeed ∉ segment) (rest : List UInt8) :
    feed {} (segment ++ lineFeed :: rest) =
      (endedLine segment.reverse :: (feed {} rest).1, (feed {} rest).2) := by
  rw [feed_append, feed_segment h, feed, if_pos rfl]
  simp only [List.append_nil, List.nil_append]

/-- Only a carriage return right before the line feed is dropped. -/
theorem endedLine_reverse {segment : List UInt8} (h : segment.getLast? ≠ some carriageReturn) :
    endedLine segment.reverse = Utf8.toStringLossy segment := by
  rcases List.eq_nil_or_concat segment with rfl | ⟨front, b, rfl⟩
  · rfl
  · rw [List.concat_eq_append] at h ⊢
    have hb : b ≠ carriageReturn := fun hb => h (by rw [List.getLast?_concat, hb])
    rw [List.reverse_append, List.reverse_singleton, List.singleton_append, endedLine, if_neg hb, List.reverse_cons,
      List.reverse_reverse]

end LineBuffer

/-- The lines of a stream, from its bytes all at once. -/
theorem linesOf_eq (pieces : List (List UInt8)) :
    linesOf pieces = (LineBuffer.feed {} pieces.flatten).1 ++ (LineBuffer.feed {} pieces.flatten).2.finish :=
  LineBuffer.feedAll_eq {} pieces

end OrderlyExit
