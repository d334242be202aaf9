import OrderlyExit.Proofs.Text.Utf8
import OrderlyExit.Settings.Load

/-! What a document says about settings, by the form of each section. A section has one value for its setting, has
    none, or is of a form that cannot have any. The three sections are read apart from each other, and nothing else of
    the document matters. -/

namespace OrderlyExit.Settings
open Toml (Value Table)

variable {α : Type} {WellTyped : Value → α → Prop} {read : Value → Option α} {default : α}

/-! ### Values -/

/-- The value is this number, which is not negative. -/
def IsNatural (v : Value) (n : Nat) : Prop := v = .integer n

/-- The value is this text. -/
def IsString (v : Value) (s : String) : Prop := v = .string s

theorem natural?_eq_some_iff {v : Value} {n : Nat} : natural? v = some n ↔ IsNatural v n := by
  constructor
  · intro h
    unfold natural? at h
    split at h
    · rename_i m
      split at h
      · rename_i hm
        obtain rfl : m.toNat = n := Option.some.inj h
        rw [IsNatural, Int.toNat_of_nonneg hm]
      · exact nomatch h
    · exact nomatch h
  · rintro rfl
    rw [natural?, if_pos (Int.natCast_nonneg n), Int.toNat_natCast]

theorem string?_eq_some_iff {v : Value} {s : String} : string? v = some s ↔ IsString v s := by
  constructor
  · intro h
    unfold string? at h
    split at h
    · rw [IsString, Option.some.inj h]
    · exact nomatch h
  · rintro rfl
    rfl

/-! ### Sections -/

/-- The value that a section has for its setting, if any: under its key, or first in a list. -/
inductive Holds (key : String) : Value → Option Value → Prop
  | keyed {entries : Table} {v : Value} (h : entries.lookup key = some v) : Holds key (.table entries) (some v)
  | unkeyed {entries : Table} (h : entries.lookup key = none) : Holds key (.table entries) none
  | listed (v : Value) (others : List Value) : Holds key (.array (v :: others)) (some v)
  | unlisted : Holds key (.array []) none
  | datetime : Holds key .datetime none

/-- The forms that no section has. -/
inductive Bare : Value → Prop
  | string (text : String) : Bare (.string text)
  | integer (n : Int) : Bare (.integer n)
  | float : Bare .float
  | boolean (b : Bool) : Bare (.boolean b)

theorem bare_or_holds (key : String) (v : Value) : Bare v ∨ ∃ w?, Holds key v w? := by
  match v with
  | .string text => exact Or.inl (.string text)
  | .integer n => exact Or.inl (.integer n)
  | .float => exact Or.inl .float
  | .boolean b => exact Or.inl (.boolean b)
  | .datetime => exact Or.inr ⟨none, .datetime⟩
  | .array [] => exact Or.inr ⟨none, .unlisted⟩
  | .array (w :: others) => exact Or.inr ⟨some w, .listed w others⟩
  | .table entries =>
    cases h : entries.lookup key with
    | none => exact Or.inr ⟨none, .unkeyed h⟩
    | some w => exact Or.inr ⟨some w, .keyed h⟩

theorem setting?_of_bare {key : String} {v : Value} (h : Bare v) : setting? read default key v = none := by
  cases h <;> rfl

theorem setting?_of_holds_none {key : String} {v : Value} (h : Holds key v none) :
    setting? read default key v = some default := by
  cases h with
  | unkeyed h => simp only [setting?, h]
  | unlisted => rfl
  | datetime => rfl

theorem setting?_of_holds_some {key : String} {v w : Value} (h : Holds key v (some w)) :
    setting? read default key v = read w := by
  cases h with
  | keyed h => simp only [setting?, h]
  | listed w others => rfl

/-! ### Places -/

/-- What a document gives at a place: the default where it says nothing, and else what it says. -/
inductive Gives (WellTyped : Value → α → Prop) (default : α) (place : Place) (root : Table) : α → Prop
  | absent (h : root.lookup place.table = none) : Gives WellTyped default place root default
  | silent {v : Value} (h : root.lookup place.table = some v) (hv : Holds place.key v none) :
    Gives WellTyped default place root default
  | said {v w : Value} {a : α} (h : root.lookup place.table = some v) (hv : Holds place.key v (some w))
    (hw : WellTyped w a) : Gives WellTyped default place root a

/-- A section is there at a place, and it is of no form of a section or its setting is of a wrong type. -/
inductive IllTyped (WellTyped : Value → α → Prop) (place : Place) (root : Table) : Prop
  | bare {v : Value} (h : root.lookup place.table = some v) (hv : Bare v)
  | setting {v w : Value} (h : root.lookup place.table = some v) (hv : Holds place.key v (some w))
    (hw : ∀ a, ¬WellTyped w a)

theorem find?_of_gives (hread : ∀ {v a}, read v = some a ↔ WellTyped v a) {place : Place} {root : Table} {a : α}
    (h : Gives WellTyped default place root a) : find? read default place root = some a := by
  cases h with
  | absent h => simp only [find?, h]
  | silent h hv => simp only [find?, h, setting?_of_holds_none hv]
  | said h hv hw => simp only [find?, h, setting?_of_holds_some hv, hread.mpr hw]

theorem find?_of_illTyped (hread : ∀ {v a}, read v = some a ↔ WellTyped v a) {place : Place} {root : Table}
    (h : IllTyped WellTyped place root) : find? read default place root = none := by
  cases h with
  | bare h hv => simp only [find?, h, setting?_of_bare hv]
  | setting h hv hw =>
    simp only [find?, h, setting?_of_holds_some hv]
    exact Option.eq_none_iff_forall_ne_some.mpr fun a ha => hw a (hread.mp ha)

/-- What stands at a place is ill-typed, or it gives some setting. -/
theorem illTyped_or_gives (hread : ∀ {v a}, read v = some a ↔ WellTyped v a) (default : α) (place : Place)
    (root : Table) : IllTyped WellTyped place root ∨ ∃ a, Gives WellTyped default place root a := by
  cases h : root.lookup place.table with
  | none => exact Or.inr ⟨default, .absent h⟩
  | some v =>
    rcases bare_or_holds place.key v with hv | ⟨w?, hv⟩
    · exact Or.inl (.bare h hv)
    · cases w? with
      | none => exact Or.inr ⟨default, .silent h hv⟩
      | some w =>
        cases hw : read w with
        | none => exact Or.inl (.setting h hv fun a ha => nomatch hw.symm.trans (hread.mpr ha))
        | some a => exact Or.inr ⟨a, .said h hv (hread.mp hw)⟩

theorem find?_eq_some_iff (hread : ∀ {v a}, read v = some a ↔ WellTyped v a) {place : Place} {root : Table} {a : α} :
    find? read default place root = some a ↔ Gives WellTyped default place root a := by
  refine ⟨fun h => ?_, find?_of_gives hread⟩
  rcases illTyped_or_gives hread default place root with hill | ⟨b, hgives⟩
  · exact nomatch h.symm.trans (find?_of_illTyped hread hill)
  · obtain rfl : a = b := Option.some.inj (h.symm.trans (find?_of_gives hread hgives))
    exact hgives

theorem find?_eq_none_iff (hread : ∀ {v a}, read v = some a ↔ WellTyped v a) {place : Place} {root : Table} :
    find? read default place root = none ↔ IllTyped WellTyped place root := by
  refine ⟨fun h => ?_, find?_of_illTyped hread⟩
  rcases illTyped_or_gives hread default place root with hill | ⟨b, hgives⟩
  · exact hill
  · exact nomatch h.symm.trans (find?_of_gives hread hgives)

/-! ### Documents -/

/-- The settings that the three sections of a document give, each of them on its own. -/
structure GivenBy (root : Table) (s : Settings) : Prop where
  cleanupDelay : Gives IsNatural 200 cleanupDelayPlace root s.cleanupDelay
  tick : Gives IsNatural 1000 tickPlace root s.tick
  logLevel : Gives IsString "warn" logLevelPlace root s.logLevel

/-- One of the three sections of a document is ill-typed. -/
def AnyIllTyped (root : Table) : Prop :=
  IllTyped IsNatural cleanupDelayPlace root ∨ IllTyped IsNatural tickPlace root ∨ IllTyped IsString logLevelPlace root

theorem ofTable?_eq_some_iff {root : Table} {s : Settings} : ofTable? root = some s ↔ GivenBy root s := by
  simp only [ofTable?, Option.bind_eq_bind, Option.pure_def, Option.bind_eq_some_iff, Option.some.injEq]
  constructor
  · rintro ⟨cleanupDelay, hcleanup, tick, htick, logLevel, hlog, rfl⟩
    exact ⟨(find?_eq_some_iff natural?_eq_some_iff).mp hcleanup, (find?_eq_some_iff natural?_eq_some_iff).mp htick,
      (find?_eq_some_iff string?_eq_some_iff).mp hlog⟩
  · intro h
    exact ⟨s.cleanupDelay, find?_of_gives natural?_eq_some_iff h.cleanupDelay, s.tick,
      find?_of_gives natural?_eq_some_iff h.tick, s.logLevel, find?_of_gives string?_eq_some_iff h.logLevel, rfl⟩

theorem ofTable?_eq_none_iff {root : Table} : ofTable? root = none ↔ AnyIllTyped root := by
  rw [AnyIllTyped, ← @find?_eq_none_iff _ _ natural? ({} : Settings).cleanupDelay natural?_eq_some_iff,
    ← @find?_eq_none_iff _ _ natural? ({} : Settings).tick natural?_eq_some_iff,
    ← @find?_eq_none_iff _ _ string? ({} : Settings).logLevel string?_eq_some_iff]
  simp only [ofTable?, Option.bind_eq_bind, Option.pure_def]
  cases find? natural? ({} : Settings).cleanupDelay cleanupDelayPlace root <;>
    cases find? natural? ({} : Settings).tick tickPlace root <;>
    cases find? string? ({} : Settings).logLevel logLevelPlace root <;> simp

theorem ofText?_of_readDocument? {text : List Char} {root : Table} (h : Toml.readDocument? text = some root) :
    ofText? text = ofTable? root := by
  rw [ofText?, h, Option.bind_some]

theorem load_of_ofText?_none {bytes : List UInt8} {text : List Char} (hbytes : Utf8.decode? bytes = some text)
    (h : ofText? text = none) : load (.ok bytes) = .error .parse := by
  simp only [load, hbytes, h]

theorem load_of_ofText?_some {bytes : List UInt8} {text : List Char} {s : Settings}
    (hbytes : Utf8.decode? bytes = some text) (h : ofText? text = some s) :
    load (.ok bytes) = s.validate.mapError .validation := by
  simp only [load, hbytes, h]

/-- What is valid or broken in settings is never a fault of the document. -/
theorem mapError_validation_ne_parse (s : Settings) :
    s.validate.mapError ConfigError.validation ≠ .error .parse := by
  intro h
  cases hs : s.validate with
  | ok s' => exact nomatch hs ▸ h
  | error ps => exact nomatch hs ▸ h

/-- A document is refused exactly if one of its three sections is ill-typed, and else it gives the settings of its
sections; so it is for the file that it is read from, before the settings are checked. -/
theorem load_document (root : Table) :
    (ofTable? root = none ↔ AnyIllTyped root) ∧
    (∀ s, ofTable? root = some s ↔ GivenBy root s) ∧
    ∀ bytes text, Utf8.decode? bytes = some text → Toml.readDocument? text = some root →
      (load (.ok bytes) = .error .parse ↔ AnyIllTyped root) ∧
        ∀ s, GivenBy root s → load (.ok bytes) = s.validate.mapError .validation := by
  refine ⟨ofTable?_eq_none_iff, fun s => ofTable?_eq_some_iff, fun bytes text hbytes hroot => ⟨?_, fun s hs => ?_⟩⟩
  · rw [← ofTable?_eq_none_iff, ← ofText?_of_readDocument? hroot]
    refine ⟨fun h => ?_, load_of_ofText?_none hbytes⟩
    cases htext : ofText? text with
    | none => rfl
    | some s => exact absurd ((load_of_ofText?_some hbytes htext).symm.trans h) (mapError_validation_ne_parse s)
  · exact load_of_ofText?_some hbytes ((ofText?_of_readDocument? hroot).trans (ofTable?_eq_some_iff.mpr hs))

theorem load_document_forms :
    load (.ok (Utf8.ofString "idle=[5,true]\nobservability=1979-05-27\n[shutdown]\nother=1")) =
        .ok { cleanupDelay := 200, tick := 5, logLevel := "warn" } ∧
      load (.ok (Utf8.ofString "idle=[-1]")) = .error .parse := by
  let root : Table := [("idle", .array [.integer 5, .boolean true]), ("observability", .datetime),
    ("shutdown", .table [("other", .integer 1)])]
  have hroot : Toml.readDocument? "idle=[5,true]\nobservability=1979-05-27\n[shutdown]\nother=1".toList = some root := by
    simp only [String.reduceToList]
    with_unfolding_all rfl
  have hnegative : Toml.readDocument? "idle=[-1]".toList = some [("idle", .array [.integer (-1)])] := by
    simp only [String.reduceToList]
    with_unfolding_all rfl
  obtain ⟨-, -, hfile⟩ := load_document root
  obtain ⟨-, -, hrefused⟩ := load_document [("idle", .array [.integer (-1)])]
  constructor
  · have hsections : GivenBy root ⟨200, 5, "warn"⟩ :=
      ⟨.silent rfl (.unkeyed rfl), .said rfl (.listed _ _) rfl, .silent rfl .datetime⟩
    obtain ⟨-, hgiven⟩ := hfile _ _ (Utf8.decode?_encode _) hroot
    exact hgiven _ hsections
  · obtain ⟨hparse, -⟩ := hrefused _ _ (Utf8.decode?_encode _) hnegative
    exact hparse.mpr (.inr (.inl (.setting rfl (.listed _ _) fun a ha => nomatch ha)))

end OrderlyExit.Settings
