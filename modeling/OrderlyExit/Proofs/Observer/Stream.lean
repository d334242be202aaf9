import OrderlyExit.Proofs.Capture.Segments
import OrderlyExit.Proofs.Observer.Record

/-! A whole output. The texts of the lines that an observation has of an output that has been closed are the lines of
    its bytes, whatever has been called meanwhile and whatever pieces the output has come in. -/

namespace OrderlyExit

universe u
variable {σ : Type u} {env : System σ}

/-- The pieces of the output among what is shown, up to the end of the output or a failure to read it. -/
def chunks : List (Instant × Sighting) → List (List UInt8)
  | [] => []
  | (_, .output bytes) :: rest => bytes :: chunks rest
  | (_, .closed) :: _ | (_, .readFailed _) :: _ => []
  | (_, .ended _) :: rest | (_, .waitFailed _) :: rest => chunks rest

namespace LineReader

/-- The output has been closed, and all of it has been read. -/
def closed (r : LineReader) : Bool := r.capture = .closed

theorem takeAll_of_stopped {r : LineReader} (h : r.capture ≠ .running) (shown : List (Instant × Sighting)) :
    r.takeAll shown = r := by
  induction shown with
  | nil => rfl
  | cons seen shown ih =>
    have hkept : r.take seen.1 seen.2 = r := by
      cases hseen : seen.2 with
      | output bytes | closed | readFailed e => exact if_neg h
      | ended status | waitFailed e => rfl
    rw [takeAll, List.foldl_cons, hkept]
    exact ih

theorem texts_arrive (texts : List String) (moment : Instant) :
    (texts.map (ObservedLine.arrive · moment)).map (·.text) = texts := by
  simp [ObservedLine.arrive, Function.comp_def]

/-- A reader has the lines that the pieces of an output make, and what is left over once the output has been closed. -/
theorem texts_takeAll {r : LineReader} {shown : List (Instant × Sighting)} (running : r.capture = .running) :
    (r.takeAll shown).lines.map (·.text) = r.lines.map (·.text) ++ ((r.held.feed (chunks shown).flatten).1 ++
      if (r.takeAll shown).closed then (r.held.feed (chunks shown).flatten).2.finish else []) := by
  induction shown generalizing r with
  | nil => simp [takeAll, closed, running, chunks, LineBuffer.feed]
  | cons seen shown ih =>
    obtain ⟨moment, x⟩ := seen
    rw [takeAll, List.foldl_cons, ← takeAll]
    cases x with
    | output bytes =>
      have htake : r.take moment (.output bytes) =
          { r with
            held := (r.held.feed bytes).2
            lines := r.lines ++ (r.held.feed bytes).1.map (ObservedLine.arrive · moment) } := if_pos running
      rw [htake, chunks, List.flatten_cons, LineBuffer.feed_append]
      refine (ih ?_).trans ?_
      · exact running
      · rw [List.map_append, texts_arrive]
        simp only [List.append_assoc]
    | closed =>
      have htake : r.take moment .closed =
          { held := {}, lines := r.lines ++ r.held.finish.map (ObservedLine.arrive · moment), capture := .closed } :=
        if_pos running
      have hstopped (lines : List ObservedLine) :
          takeAll { held := {}, lines := lines, capture := .closed } shown = ⟨{}, lines, .closed⟩ :=
        takeAll_of_stopped (fun h => by cases h) shown
      rw [htake, hstopped, List.map_append, texts_arrive]
      rfl
    | readFailed e =>
      -- a line that has not ended by then never does
      have htake : r.take moment (.readFailed e) = { r with capture := .broken } := if_pos running
      have hstopped : takeAll { r with capture := .broken } shown = { r with capture := .broken } :=
        takeAll_of_stopped (fun h => by cases h) shown
      rw [htake, hstopped]
      simp [closed, chunks, LineBuffer.feed]
    | ended status | waitFailed e => exact ih running

end LineReader

namespace Observation

/-- What has been read and what waits to be read are the lines of the output so far; what is left over is one of them
once the output has been closed. -/
theorem texts_append_unread {launch : Launch} {clock : Instant} {s : σ} {o : Observation σ}
    (hspawn : spawn env launch clock s = .ok o) (calls : List Call) :
    let now := (o.performAll env calls).2
    let bytes := (chunks (shown env launch clock s calls)).flatten
    (now.transcript.lines ++ now.unread).map (·.text) =
      (LineBuffer.feed {} bytes).1 ++ if now.closed then (LineBuffer.feed {} bytes).2.finish else [] := by
  intro now bytes
  have hreader := reader_performAll hspawn calls
  have hlines := congrArg LineReader.lines hreader
  have hclosed : now.closed = _ := congrArg LineReader.closed hreader
  rw [show now.transcript.lines ++ now.unread = _ from hlines, hclosed, LineReader.texts_takeAll rfl]
  rfl

/-- Once an output has been closed, what has been read of it and what waits to be read are all its lines. -/
theorem texts_performAll {launch : Launch} {clock : Instant} {s : σ} {o : Observation σ}
    (hspawn : spawn env launch clock s = .ok o) {calls : List Call}
    (hclosed : (o.performAll env calls).2.closed = true) :
    ((o.performAll env calls).2.transcript.lines ++ (o.performAll env calls).2.unread).map (·.text) =
      linesOf (chunks (shown env launch clock s calls)) := by
  rw [linesOf_eq, texts_append_unread hspawn, if_pos hclosed]

open LineBuffer in
/-- An output is cut into lines by its bytes alone, in whatever pieces it comes, whatever is called meanwhile and
however late its lines are read. Every line feed ends a line, and a line is left over if the output ends in another
byte. A line is the text of its segment, with replacements for what is no text, less one carriage return right before
the line feed; a segment without a line feed keeps its own. No line has a line feed in it. So texts of one line each are
read back from what is written, whether a line feed or a carriage return and a line feed ends each of them, and with
one more text behind them that nothing ends. -/
theorem output_cut_at_line_feeds (env : System σ) (pieces : List (List UInt8)) :
    let bytes := pieces.flatten
    let segments := bytes.splitOn lineFeed
    let lines := linesOf pieces
    (∀ launch clock s o calls, spawn env launch clock s = .ok o →
      let now := (o.performAll env calls).2
      now.closed = true → chunks (shown env launch clock s calls) = pieces →
      (now.transcript.lines ++ now.unread).map (·.text) = lines) ∧
    (∀ others : List (List UInt8), others.flatten = bytes → linesOf others = lines) ∧
    lines.length = bytes.count lineFeed + (if bytes = [] ∨ bytes.getLast? = some lineFeed then 0 else 1) ∧
    (∀ i (hi : i < lines.length), ∃ segment, segments[i]? = some segment ∧
      lines[i] = Utf8.toStringLossy (if i < bytes.count lineFeed then withoutReturn segment else segment)) ∧
    (∀ text ∈ lines, '\n' ∉ text.toList) ∧
    ∀ (texts : List (String × LineEnd)) (last : String),
      (∀ line ∈ texts, '\n' ∉ line.1.toList ∧ line.1.toList.getLast? ≠ some '\r') → '\n' ∉ last.toList →
      bytes = terminated texts ++ Utf8.ofString last →
      lines = texts.map Prod.fst ++ if last = "" then [] else [last] := by
  intro bytes segments lines
  obtain ⟨ended, last, hsegments⟩ := exists_segments bytes
  refine ⟨?_, fun others h => ?_, ?_, fun i hi => ?_, fun text => newline_notMem_of_mem_linesOf, fun texts last => ?_⟩
  · rintro launch clock s o calls hspawn now hclosed rfl
    exact texts_performAll hspawn hclosed
  · rw [OrderlyExit.linesOf_eq, h, ← OrderlyExit.linesOf_eq]
  · rw [hsegments.length_linesOf, hsegments.count_eq]
    simp only [hsegments.last_eq_nil_iff]
  · obtain ⟨segment, hsegment, hline⟩ := hsegments.getElem_linesOf hi
    rw [hsegments.count_eq]
    exact ⟨segment, (congrArg (·[i]?) hsegments.splitOn_eq).trans hsegment, hline⟩
  · exact linesOf_terminated

/-- A system whose program writes some pieces at once and closes its output. -/
def printing (pieces : List (List UInt8)) : System Unit where
  spawn _ _ := (.ok { pid := some 7, seen := pieces.map .output ++ [.closed] }, ())
  advance _ _ _ := (none, ())
  send _ _ _ := (none, [], ())
  reap _ _ := ()

/-- An output that is there from the start. -/
def printed (pieces : List (List UInt8)) : Observation Unit :=
  seeAll { system := (), pid := 7, clock := .start, transcript := {} } (pieces.map .output ++ [.closed])

theorem spawn_printing (pieces : List (List UInt8)) :
    spawn (printing pieces) { program := [] } .start () = .ok (printed pieces) := rfl

theorem closed_printed (pieces : List (List UInt8)) : (printed pieces).closed = true := by
  have hclosed (o : Observation Unit) (running : o.capture = .running) :
      (o.seeAll (pieces.map .output ++ [.closed])).closed = true := by
    induction pieces generalizing o with
    | nil => simp [seeAll, see, running, closed]
    | cons piece pieces ih =>
      refine ih (o.see (.output piece)) ?_
      simp [see, running, arrive]
  exact hclosed _ rfl

theorem nothing_read_printed (pieces : List (List UInt8)) : (printed pieces).transcript.lines = [] :=
  congrArg Transcript.lines (passive_seeAll _ _).transcript

theorem chunks_printing (pieces : List (List UInt8)) :
    chunks (shown (printing pieces) { program := [] } .start () []) = pieces := by
  have hchunks : chunks ((pieces.map Sighting.output ++ [Sighting.closed]).map (Instant.start, ·)) = pieces := by
    induction pieces with
    | nil => rfl
    | cons piece pieces ih => exact congrArg (piece :: ·) ih
  have hshown : shown (printing pieces) { program := [] } .start () [] =
      (pieces.map Sighting.output ++ [Sighting.closed]).map (Instant.start, ·) :=
    (congrArg Recorded.shown (system_seeAll _ _)).trans (List.nil_append _)
  rw [hshown, hchunks]

/-- Three lines whose bytes come one by one, also those of `é` and those that end its line. -/
def apart : List (List UInt8) := [[0xC3], [0xA9], [13], [10], [10], [111], [107], [13]]

/-- They are read whole, the empty one too, and the last one keeps its carriage return. -/
theorem output_cut_at_line_feeds_apart :
    let o : Observation Unit := { system := (), pid := 7, clock := .start, transcript := {} }
    let now := o.seeAll (apart.map .output ++ [.closed])
    spawn (printing apart) { program := [] } .start () = .ok now ∧ now.closed = true ∧
      chunks (shown (printing apart) { program := [] } .start () []) = apart ∧
      now.unread.map (·.text) = ["é", "", "ok\r"] := by
  intro o now
  have hchunks : chunks (shown (printing apart) { program := [] } .start () []) = apart := chunks_printing apart
  obtain ⟨hrun, -, -, -, -, hread⟩ := output_cut_at_line_feeds (printing apart) apart
  have htexts : linesOf apart = ["é", "", "ok\r"] :=
    hread [("é", .crlf), ("", .lf)] "ok\r" (by decide) (by decide) (by decide)
  -- for any such observation, so that this one is not computed
  have hunread (now : Observation Unit) (hspawn : spawn (printing apart) { program := [] } .start () = .ok now)
      (hclosed : now.closed = true) (hnothing : now.transcript.lines = []) :
      now.unread.map (·.text) = ["é", "", "ok\r"] := by
    have hlines : (now.transcript.lines ++ now.unread).map (·.text) = linesOf apart :=
      hrun _ _ _ now [] hspawn hclosed hchunks
    rw [hnothing, List.nil_append] at hlines
    exact hlines.trans htexts
  exact ⟨spawn_printing apart, closed_printed apart, hchunks,
    hunread (printed apart) (spawn_printing apart) (closed_printed apart) (nothing_read_printed apart)⟩

end Observation

end OrderlyExit
