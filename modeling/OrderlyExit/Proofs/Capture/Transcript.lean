import OrderlyExit.Capture.Transcript

/-! A transcript that is built line by line, and what a reader of markers sees of it. -/

namespace OrderlyExit

/-- The markers among some lines, each with the moment its line arrived. -/
def stampedMarkers (lines : List ObservedLine) : List (Marker × Instant) :=
  lines.filterMap fun line => line.marker.map (·, line.stamp)

theorem stampedMarkers_append (ls ls' : List ObservedLine) :
    stampedMarkers (ls ++ ls') = stampedMarkers ls ++ stampedMarkers ls' := List.filterMap_append

theorem stampedMarkers_cons {l : ObservedLine} {m : Marker} (h : l.marker = some m) (ls : List ObservedLine) :
    stampedMarkers (l :: ls) = (m, l.stamp) :: stampedMarkers ls := by
  rw [stampedMarkers, List.filterMap_cons_some]
  · rfl
  · rw [h]
    rfl

theorem stampedMarkers_cons_none {l : ObservedLine} (h : l.marker = none) (ls : List ObservedLine) :
    stampedMarkers (l :: ls) = stampedMarkers ls := List.filterMap_cons_none (by rw [h]; rfl)

theorem stampedMarkers_eq_nil_iff {ls : List ObservedLine} : stampedMarkers ls = [] ↔ ∀ l ∈ ls, l.marker = none := by
  simp only [stampedMarkers, List.filterMap_eq_nil_iff, Option.map_eq_none_iff]

/-- The first marker among some lines, if there is one. -/
theorem findSome?_marker_cases (ls : List ObservedLine) :
    ls.findSome? (·.marker) = none ∧ stampedMarkers ls = [] ∨
      ∃ m stamp ms, ls.findSome? (·.marker) = some m ∧ stampedMarkers ls = (m, stamp) :: ms := by
  induction ls with
  | nil => exact Or.inl ⟨rfl, rfl⟩
  | cons l ls ih =>
    simp only [List.findSome?_cons]
    cases hm : l.marker with
    | some m => exact Or.inr ⟨m, l.stamp, stampedMarkers ls, rfl, stampedMarkers_cons hm ls⟩
    | none => exact stampedMarkers_cons_none hm ls ▸ ih

/-- A marker with the moment of its line. -/
def stamped (x : ObservedLine × Marker) : Marker × Instant := (x.2, x.1.stamp)

namespace Transcript

/-- The transcript of lines that arrive one after another, each with its text and its moment. -/
def ofArrivals (started : Instant) (arrivals : List (String × Instant)) : Transcript :=
  arrivals.foldl (fun t a => t.push (.arrive a.1 a.2)) { started := started }

theorem foldl_push (arrivals : List (String × Instant)) (t : Transcript) :
    (arrivals.foldl (fun t a => t.push (.arrive a.1 a.2)) t).lines =
      t.lines ++ arrivals.map fun a => .arrive a.1 a.2 := by
  induction arrivals generalizing t with
  | nil => simp
  | cons a arrivals ih =>
    rw [List.foldl_cons, ih, push, List.append_assoc]
    rfl

theorem lines_ofArrivals (started : Instant) (arrivals : List (String × Instant)) :
    (ofArrivals started arrivals).lines = arrivals.map fun a => .arrive a.1 a.2 :=
  foldl_push arrivals { started := started }

/-- The markers among the lines that arrive, each with its moment. -/
def arrivedMarkers (arrivals : List (String × Instant)) : List (Marker × Instant) :=
  arrivals.filterMap fun a => (Marker.parse? a.1).map (·, a.2)

/-- A transcript to which further lines have been added. -/
def pushAll (t : Transcript) (ls : List ObservedLine) : Transcript := ls.foldl push t

theorem lines_pushAll (t : Transcript) (ls : List ObservedLine) : (t.pushAll ls).lines = t.lines ++ ls := by
  induction ls generalizing t with
  | nil => exact (List.append_nil t.lines).symm
  | cons l ls ih =>
    refine (ih (t.push l)).trans ?_
    rw [push, List.append_assoc, List.singleton_append]

theorem stampedMarkers_arrivals (arrivals : List (String × Instant)) :
    stampedMarkers (arrivals.map fun a => .arrive a.1 a.2) = arrivedMarkers arrivals := by
  rw [stampedMarkers, List.filterMap_map]
  rfl

theorem arrivedMarkers_cons {text : String} {m : Marker} (h : Marker.parse? text = some m) (stamp : Instant)
    (arrivals : List (String × Instant)) :
    arrivedMarkers ((text, stamp) :: arrivals) = (m, stamp) :: arrivedMarkers arrivals := by
  rw [arrivedMarkers, List.filterMap_cons_some]
  · rfl
  · rw [h]
    rfl

theorem arrivedMarkers_eq_cons_iff {arrivals : List (String × Instant)} {m : Marker} {stamp : Instant}
    {ms : List (Marker × Instant)} :
    arrivedMarkers arrivals = (m, stamp) :: ms ↔ ∃ noise text rest, arrivals = noise ++ (text, stamp) :: rest ∧
      (∀ a ∈ noise, Marker.parse? a.1 = none) ∧ Marker.parse? text = some m ∧ arrivedMarkers rest = ms := by
  rw [arrivedMarkers, List.filterMap_eq_cons_iff]
  constructor
  · rintro ⟨noise, ⟨text, i⟩, rest, rfl, hnoise, hsome, rfl⟩
    obtain ⟨_, hm, hpair⟩ := Option.map_eq_some_iff.mp hsome
    obtain ⟨rfl, rfl⟩ := Prod.mk.inj hpair
    exact ⟨noise, text, rest, rfl, fun a ha => Option.map_eq_none_iff.mp (hnoise a ha), hm, rfl⟩
  · rintro ⟨noise, text, rest, rfl, hnoise, hm, rfl⟩
    refine ⟨noise, (text, stamp), rest, rfl, fun a ha => Option.map_eq_none_iff.mpr (hnoise a ha), ?_, rfl⟩
    rw [hm]
    rfl

theorem arrivedMarkers_eq_nil_iff {arrivals : List (String × Instant)} :
    arrivedMarkers arrivals = [] ↔ ∀ a ∈ arrivals, Marker.parse? a.1 = none := by
  simp only [arrivedMarkers, List.filterMap_eq_nil_iff, Option.map_eq_none_iff]

theorem markers_cons {t : Transcript} {first : ObservedLine} {rest : List ObservedLine}
    (h : t.lines = first :: rest) :
    t.markers = (first.marker.map (first, ·)).toList ++ markers { t with lines := rest } := by
  rw [markers, h]
  cases hm : first.marker with
  | none => rw [List.filterMap_cons_none (by rw [hm]; rfl)]; rfl
  | some m => rw [List.filterMap_cons_some (by rw [hm]; rfl)]; rfl

theorem map_stamped_markers (t : Transcript) : t.markers.map stamped = stampedMarkers t.lines := by
  rw [markers, List.map_filterMap]
  simp only [Option.map_map]
  rfl

/-- When every line is a marker, no line and no marker is left out. -/
theorem markers_eq_zip {t : Transcript} {ms : List Marker} (h : t.lines.map (·.marker) = ms.map some) :
    t.markers = t.lines.zip ms := by
  unfold markers
  generalize t.lines = lines at h
  induction lines generalizing ms with
  | nil => rfl
  | cons line lines ih =>
    obtain ⟨m, ms, rfl⟩ := List.exists_cons_of_ne_nil (l := ms) (by rintro rfl; cases h)
    obtain ⟨hline, hlines⟩ : line.marker = some m ∧ lines.map (·.marker) = ms.map some := List.cons.inj h
    rw [List.filterMap_cons_some (by rw [hline, Option.map_some]), ih hlines, List.zip_cons_cons]

end Transcript
end OrderlyExit
