import Mathlib.Data.List.Nodup
import OrderlyExit.Proofs.Settings.Document
import OrderlyExit.Proofs.Settings.Valid
import OrderlyExit.Proofs.Toml.Sections
import OrderlyExit.Settings.Written

/-! Settings that were written and are read back. A document says each of them in a section of its own; whatever the
    order of the sections and the spelling of the texts, it gives these settings and the defaults for all others. -/

namespace OrderlyExit
open Toml (Table Value ReadsAs Spelled SpelledChar BareName)
open Settings (cleanupDelayPlace tickPlace logLevelPlace)

namespace Setting

/-! ### Written settings -/

/-- A document holds the number of a setting if that fits into a signed 64-bit word, and any text. -/
def Fits : Setting → Prop
  | .cleanupDelay ms | .tick ms => ms ≤ 2 ^ 63 - 1
  | .logLevel _ => True

instance : DecidablePred Fits
  | .cleanupDelay ms | .tick ms => inferInstanceAs (Decidable (ms ≤ 2 ^ 63 - 1))
  | .logLevel _ => inferInstanceAs (Decidable True)

/-- The value of a setting as it is written: a number by its numeral, a text as a basic string in any spelling. -/
inductive WrittenAs : Setting → List Char → Prop
  | cleanupDelay (ms : Nat) : WrittenAs (.cleanupDelay ms) (Decimal.digits ms)
  | tick (ms : Nat) : WrittenAs (.tick ms) (Decimal.digits ms)
  | logLevel {level : String} {spelled : List Char} (h : Spelled level.toList spelled) :
    WrittenAs (.logLevel level) ('"' :: spelled ++ ['"'])

/-- A text says these settings in this order: the header of each, and below it its key with its value. -/
inductive WrittenIn : List Setting → List Char → Prop
  | nil : WrittenIn [] []
  | cons {s : Setting} {settings : List Setting} {written text : List Char} (h : s.WrittenAs written)
    (hs : WrittenIn settings text) :
    WrittenIn (s :: settings) (Toml.writeTable s.place.table.toList s.place.key.toList written ++ text)

theorem writtenAs_value (s : Setting) : s.WrittenAs s.value := by
  cases s with
  | cleanupDelay ms => exact .cleanupDelay ms
  | tick ms => exact .tick ms
  | logLevel level => exact .logLevel (Toml.spelled_flatMap_writeChar level.toList)

theorem writtenIn_document : ∀ settings : List Setting, WrittenIn settings (document settings)
  | [] => .nil
  | s :: settings => .cons s.writtenAs_value (writtenIn_document settings)

/-! ### Sections -/

/-- The value of a setting as it is read. -/
def stored : Setting → Value
  | .cleanupDelay ms | .tick ms => .integer ms
  | .logLevel level => .string level

/-- What the root table has of a setting. -/
def entry (s : Setting) : String × Value := (s.place.table, .table [(s.place.key, s.stored)])

theorem WrittenAs.readsAs {s : Setting} {written : List Char} (h : s.WrittenAs written) (hfits : s.Fits) :
    ReadsAs written s.stored := by
  cases h with
  | cleanupDelay | tick => exact Toml.readsAs_digits hfits
  | logLevel h => exact Toml.readsAs_string h

/-- The places of all settings. -/
def places : List Settings.Place := [cleanupDelayPlace, tickPlace, logLevelPlace]

theorem place_mem_places (s : Setting) : s.place ∈ places := by
  cases s <;> simp [place, places]

theorem bareName_of_mem_places : ∀ p ∈ places, BareName p.table ∧ BareName p.key := by decide

/-- No two places are in tables of the same name. -/
theorem eq_of_table_eq : ∀ p ∈ places, ∀ q ∈ places, p.table = q.table → p = q := by decide

/-- The section that says a setting. -/
def toSection (s : Setting) {written : List Char} (h : s.WrittenAs written) (hfits : s.Fits) : Toml.Section where
  table := s.place.table
  key := s.place.key
  written := written
  value := s.stored
  bareTable := (bareName_of_mem_places _ s.place_mem_places).1
  bareKey := (bareName_of_mem_places _ s.place_mem_places).2
  readsAs := h.readsAs hfits

theorem WrittenIn.sections {settings : List Setting} {text : List Char} (h : WrittenIn settings text)
    (hfits : ∀ s ∈ settings, s.Fits) :
    ∃ sections : List Toml.Section, text = sections.flatMap Toml.Section.text ∧
      sections.map Toml.Section.entry = settings.map entry := by
  induction h with
  | nil => exact ⟨[], rfl, rfl⟩
  | @cons s settings written text h _ ih =>
    obtain ⟨hs, hsettings⟩ := List.forall_mem_cons.mp hfits
    obtain ⟨sections, rfl, hentries⟩ := ih hsettings
    exact ⟨s.toSection h hs :: sections, rfl, congrArg (s.entry :: ·) hentries⟩

theorem nodup_entries {settings : List Setting} (h : (settings.map place).Nodup) :
    ((settings.map entry).map Prod.fst).Nodup := by
  have hnames : (settings.map entry).map Prod.fst = (settings.map place).map Settings.Place.table := by
    simp only [List.map_map]
    rfl
  rw [hnames]
  refine List.Nodup.map_on (fun p hp q hq htable => ?_) h
  obtain ⟨s, -, rfl⟩ := List.mem_map.mp hp
  obtain ⟨t, -, rfl⟩ := List.mem_map.mp hq
  exact eq_of_table_eq _ s.place_mem_places _ t.place_mem_places htable

end Setting

namespace Settings

/-! ### Filling in -/

/-- These settings, and the defaults where there is none. -/
def given (settings : List Setting) : Settings := settings.foldl Setting.apply {}

section Find
variable {α : Type} (read : Value → Option α) (default : α) {place : Place} {root : Table}

theorem find?_own (v : Value) :
    find? read default place ((place.table, .table [(place.key, v)]) :: root) = read v := by
  simp only [find?, setting?, List.lookup_cons_self]

theorem find?_other {name : String} (hne : place.table ≠ name) (v : Value) :
    find? read default place ((name, v) :: root) = find? read default place root := by
  simp only [find?, List.lookup_cons, beq_eq_false_iff_ne.mpr hne]

theorem find?_absent (h : root.lookup place.table = none) : find? read default place root = some default := by
  simp only [find?, h]

end Find

/-- What a document gives over other settings than the defaults. -/
def fill (d : Settings) (root : Table) : Option Settings := do
  let cleanupDelay ← find? natural? d.cleanupDelay cleanupDelayPlace root
  let tick ← find? natural? d.tick tickPlace root
  let logLevel ← find? string? d.logLevel logLevelPlace root
  return { cleanupDelay, tick, logLevel }

/-- A section at the front says its setting, and nothing about the others. -/
theorem fill_cons (d : Settings) (s : Setting) {root : Table} (h : root.lookup s.place.table = none) :
    fill d (s.entry :: root) = fill (Setting.apply d s) root := by
  have hcleanup : cleanupDelayPlace.table ≠ tickPlace.table := by decide
  have htick : tickPlace.table ≠ logLevelPlace.table := by decide
  have hlog : cleanupDelayPlace.table ≠ logLevelPlace.table := by decide
  cases s with
  | cleanupDelay ms =>
    have hms : natural? (.integer ms) = some ms := natural?_eq_some_iff.mpr rfl
    have habsent : find? natural? ms cleanupDelayPlace root = some ms := find?_absent natural? ms h
    simp only [fill, Setting.entry, Setting.place, Setting.stored, Setting.apply, find?_own,
      find?_other _ _ hcleanup.symm, find?_other _ _ hlog.symm, hms, habsent]
  | tick ms =>
    have hms : natural? (.integer ms) = some ms := natural?_eq_some_iff.mpr rfl
    have habsent : find? natural? ms tickPlace root = some ms := find?_absent natural? ms h
    simp only [fill, Setting.entry, Setting.place, Setting.stored, Setting.apply, find?_own, find?_other _ _ hcleanup,
      find?_other _ _ htick.symm, hms, habsent]
  | logLevel level =>
    have habsent : find? string? level logLevelPlace root = some level := find?_absent string? level h
    simp only [fill, Setting.entry, Setting.place, Setting.stored, Setting.apply, find?_own, find?_other _ _ hlog,
      find?_other _ _ htick, string?, habsent]

/-- Sections with names of their own give their settings, each of them once. -/
theorem fill_entries {settings : List Setting} (h : ((settings.map Setting.entry).map Prod.fst).Nodup) (d : Settings) :
    fill d (settings.map Setting.entry) = some (settings.foldl Setting.apply d) := by
  -- what a section says is the default for all sections behind it, and none of them says it again
  induction settings generalizing d with
  | nil => rfl
  | cons s settings ih =>
    rw [List.map_cons, List.map_cons, List.nodup_cons] at h
    obtain ⟨hs, hsettings⟩ := h
    have habsent : (settings.map Setting.entry).lookup s.place.table = none :=
      List.lookup_eq_none_iff.mpr fun e he => bne_iff_ne.mpr fun hname => hs (List.mem_map.mpr ⟨e, he, hname.symm⟩)
    rw [List.map_cons, fill_cons d s habsent, ih hsettings, List.foldl_cons]

/-! ### Reading back -/

theorem ofText?_writtenIn {settings : List Setting} {text : List Char} (hdistinct : (settings.map Setting.place).Nodup)
    (hfits : ∀ s ∈ settings, s.Fits) (h : Setting.WrittenIn settings text) : ofText? text = some (given settings) := by
  have hnames := Setting.nodup_entries hdistinct
  obtain ⟨sections, rfl, hentries⟩ := h.sections hfits
  have htables : (sections.map Toml.Section.table).Nodup := by
    rw [← hentries, List.map_map] at hnames
    exact hnames
  rw [ofText?_of_readDocument? (Toml.readDocument?_sections htables), hentries]
  exact fill_entries hnames {}

/-- Settings at places of their own, whose numbers fit, can be written as a document; and every text that says them, in
any order and any spelling, is read as these settings with the defaults for all others. From a file they come as they
are if they keep every limit, and else all the limits that they break are listed. -/
theorem load_written {settings : List Setting} (hdistinct : (settings.map Setting.place).Nodup)
    (hfits : ∀ s ∈ settings, s.Fits) :
    Setting.WrittenIn settings (Setting.document settings) ∧
      ∀ text, Setting.WrittenIn settings text →
        ofText? text = some (given settings) ∧
        ((given settings).problems = [] → load (.ok (Utf8.encode text)) = .ok (given settings)) ∧
        ((given settings).problems ≠ [] →
          load (.ok (Utf8.encode text)) = .error (.validation (given settings).problems)) := by
  refine ⟨Setting.writtenIn_document settings, fun text htext => ?_⟩
  have hgiven := ofText?_writtenIn hdistinct hfits htext
  have hload := load_of_ofText?_some (Utf8.decode?_encode text) hgiven
  refine ⟨hgiven, fun hvalid => ?_, fun hbroken => ?_⟩
  · rw [hload, validate_eq_ok_iff.mpr ⟨rfl, problems_eq_nil_iff.mp hvalid⟩]
    rfl
  · rw [hload, validate]
    split
    · contradiction
    · rfl

theorem load_written_spelled :
    load (.ok (Utf8.ofString "[observability]\nlog_level = \"\\u0057\\U00000041rN\"\n[idle]\ntick_ms = 250\n")) =
        .ok { cleanupDelay := 200, tick := 250, logLevel := "WArN" } ∧
      load (.ok (Utf8.encode (Setting.document [.logLevel "\"\\\x01😀", .cleanupDelay 9223372036854775807]))) =
        .error (.validation
          [.cleanupDelayOutOfRange 9223372036854775807 10000, .unknownLogLevel "\"\\\x01😀"]) := by
  constructor
  · have hW : SpelledChar 'W' ['\\', 'u', '0', '0', '5', '7'] := .four rfl ⟨List.all_eq_true.mp rfl, rfl⟩
    have hA : SpelledChar 'A' ['\\', 'U', '0', '0', '0', '0', '0', '0', '4', '1'] :=
      .eight rfl ⟨List.all_eq_true.mp rfl, rfl⟩
    have hlevel : "WArN".toList = ['W', 'A', 'r', 'N'] := by simp only [String.reduceToList]
    have hr : SpelledChar 'r' ['r'] := .plain (by decide)
    have hN : SpelledChar 'N' ['N'] := .plain (by decide)
    have hspelled := Spelled.cons hW (.cons hA (.cons hr (.cons hN .nil)))
    rw [← hlevel] at hspelled
    obtain ⟨-, hread⟩ := @load_written [.logLevel "WArN", .tick 250] (by decide) (by decide)
    obtain ⟨-, hvalid, -⟩ := hread _ (.cons (.logLevel hspelled) (.cons (.tick 250) .nil))
    have hdigits : Decimal.digits 250 = ['2', '5', '0'] := by simp [Decimal.digits, Decimal.lastDigit]
    rw [hdigits] at hvalid
    exact hvalid (by decide)
  · obtain ⟨hdocument, hread⟩ :=
      @load_written [.logLevel "\"\\\x01😀", .cleanupDelay 9223372036854775807] (by decide) (by decide)
    obtain ⟨-, -, hbroken⟩ := hread _ hdocument
    exact hbroken (by decide)

end Settings

end OrderlyExit
