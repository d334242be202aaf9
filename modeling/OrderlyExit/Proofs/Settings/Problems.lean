import OrderlyExit.Proofs.Settings.Valid
import OrderlyExit.Proofs.Text.AsciiCase
import OrderlyExit.Settings.Written

/-! What is reported of settings. There are three limits, and each of them that is broken is reported once, in a fixed
    order and with the value that breaks it. A limit is about one setting, so a change of another one never matters to
    what is reported of it. -/

namespace OrderlyExit

/-! ### Lists in order -/

/-- Taking out of a list keeps its order, so what is left of a list without duplicates is told by its members. -/
theorem filter_mem_eq {α : Type} [DecidableEq α] {ps l : List α} (h : ps.Sublist l) (hl : l.Nodup) :
    l.filter (· ∈ ps) = ps := by
  induction h with
  | slnil => rfl
  | @cons ps l a h ih =>
    obtain ⟨ha, hl⟩ := List.nodup_cons.mp hl
    have hgone : a ∉ ps := fun hmem => ha (h.subset hmem)
    rw [List.filter_cons_of_neg (by simpa using hgone)]
    exact ih hl
  | @cons_cons ps l a h ih =>
    obtain ⟨ha, hl⟩ := List.nodup_cons.mp hl
    rw [List.filter_cons_of_pos (by simp)]
    refine congrArg (a :: ·) (Eq.trans (List.filter_congr fun x hx => ?_) (ih hl))
    have hne : x ≠ a := fun hxa => ha (hxa ▸ hx)
    simp [hne]

/-- The setting that a problem is about. -/
def SettingsProblem.place : SettingsProblem → Settings.Place
  | .cleanupDelayOutOfRange _ _ => Settings.cleanupDelayPlace
  | .tickOutOfRange _ _ => Settings.tickPlace
  | .unknownLogLevel _ => Settings.logLevelPlace

namespace Settings

/-! ### Every broken limit, and no other -/

/-- A log level that there is: in small letters it is one of six words. -/
def KnownLevel (level : String) : Prop := lowerCase level ∈ ["trace", "debug", "info", "warn", "error", "off"]

/-- All that could be wrong with settings, in the order in which it is reported. -/
def imaginable (s : Settings) : List SettingsProblem :=
  [.cleanupDelayOutOfRange s.cleanupDelay 10000, .tickOutOfRange s.tick 60000, .unknownLogLevel s.logLevel]

/-- The list of what is wrong with settings: of all that could be, in that order, exactly what is. -/
structure Lists (s : Settings) (ps : List SettingsProblem) : Prop where
  ordered : ps.Sublist s.imaginable
  cleanupDelay : .cleanupDelayOutOfRange s.cleanupDelay 10000 ∈ ps ↔ ¬(1 ≤ s.cleanupDelay ∧ s.cleanupDelay ≤ 10000)
  tick : .tickOutOfRange s.tick 60000 ∈ ps ↔ ¬(1 ≤ s.tick ∧ s.tick ≤ 60000)
  logLevel : .unknownLogLevel s.logLevel ∈ ps ↔ ¬KnownLevel s.logLevel

theorem mem_problems_iff {s : Settings} {p : SettingsProblem} :
    p ∈ s.problems ↔
      (¬(1 ≤ s.cleanupDelay ∧ s.cleanupDelay ≤ 10000) ∧ p = .cleanupDelayOutOfRange s.cleanupDelay 10000) ∨
      (¬(1 ≤ s.tick ∧ s.tick ≤ 60000) ∧ p = .tickOutOfRange s.tick 60000) ∨
      ¬KnownLevel s.logLevel ∧ p = .unknownLogLevel s.logLevel := by
  simp only [problems, cleanupDelayProblems, tickProblems, logLevelProblems, List.mem_append, List.mem_ite_nil_left,
    List.mem_singleton, or_assoc]
  exact Iff.rfl

/-- A limit is reported once at most. -/
theorem limit_sublist (holds : Prop) [Decidable holds] (p : SettingsProblem) :
    (if holds then [] else [p]).Sublist [p] := by
  split
  · exact List.nil_sublist _
  · exact List.Sublist.refl _

theorem lists_problems (s : Settings) : s.Lists s.problems where
  ordered := ((limit_sublist _ _).append (limit_sublist _ _)).append (limit_sublist _ _)
  cleanupDelay := by simp [mem_problems_iff]
  tick := by simp [mem_problems_iff]
  logLevel := by simp [mem_problems_iff]

theorem Lists.mem_iff {s : Settings} {ps qs : List SettingsProblem} (hps : s.Lists ps) (hqs : s.Lists qs) :
    ∀ p ∈ s.imaginable, p ∈ ps ↔ p ∈ qs := by
  intro p hp
  simp only [imaginable, List.mem_cons, List.not_mem_nil, or_false] at hp
  rcases hp with rfl | rfl | rfl
  · exact hps.cleanupDelay.trans hqs.cleanupDelay.symm
  · exact hps.tick.trans hqs.tick.symm
  · exact hps.logLevel.trans hqs.logLevel.symm

/-- There is one such list only. -/
theorem lists_iff {s : Settings} {ps : List SettingsProblem} : s.Lists ps ↔ ps = s.problems := by
  constructor
  · intro h
    have hnodup : s.imaginable.Nodup := by simp [imaginable]
    calc ps
      _ = s.imaginable.filter (· ∈ ps) := (filter_mem_eq h.ordered hnodup).symm
      _ = s.imaginable.filter (· ∈ s.problems) :=
        List.filter_congr fun p hp => decide_eq_decide.mpr (h.mem_iff s.lists_problems p hp)
      _ = s.problems := filter_mem_eq s.lists_problems.ordered hnodup
  · rintro rfl
    exact s.lists_problems

theorem validate_eq_error_iff {s : Settings} {ps : List SettingsProblem} :
    s.validate = .error ps ↔ ps ≠ [] ∧ s.Lists ps := by
  rw [lists_iff, validate]
  cases hproblems : s.problems with
  | nil => exact iff_of_false (by simp) fun h => h.1 h.2
  | cons p rest =>
    simp only [Except.error.injEq]
    constructor
    · rintro rfl
      exact ⟨List.cons_ne_nil p rest, rfl⟩
    · exact fun h => h.2.symm

/-! ### One setting changed -/

/-- What is reported of settings. -/
def reported (s : Settings) : List SettingsProblem :=
  match s.validate with
  | .ok _ => []
  | .error ps => ps

theorem reported_eq (s : Settings) : s.reported = s.problems := by
  unfold reported
  cases h : s.validate with
  | ok t => exact (problems_eq_nil_iff.mpr (validate_eq_ok_iff.mp h).2).symm
  | error ps => exact lists_iff.mp (validate_eq_error_iff.mp h).2

/-- All that is reported of a limit is about its setting. -/
theorem filter_limit (holds : Prop) [Decidable holds] {p : SettingsProblem} {place : Place} (h : p.place = place) :
    (if holds then [] else [p]).filter (·.place ≠ place) = [] := by
  rw [List.filter_eq_nil_iff]
  intro q hq
  rw [List.mem_singleton.mp ((limit_sublist holds p).subset hq)]
  simpa using h

theorem reported_apply (s : Settings) (change : Setting) :
    (Setting.apply s change).reported.filter (·.place ≠ change.place) =
      s.reported.filter (·.place ≠ change.place) := by
  rw [reported_eq, reported_eq]
  simp only [problems, List.filter_append]
  cases change with
  | cleanupDelay ms =>
    have hnone (t : Settings) : t.cleanupDelayProblems.filter (·.place ≠ cleanupDelayPlace) = [] := filter_limit _ rfl
    exact congrArg (· ++ _ ++ _) ((hnone _).trans (hnone _).symm)
  | tick ms =>
    have hnone (t : Settings) : t.tickProblems.filter (·.place ≠ tickPlace) = [] := filter_limit _ rfl
    exact congrArg (_ ++ · ++ _) ((hnone _).trans (hnone _).symm)
  | logLevel level =>
    have hnone (t : Settings) : t.logLevelProblems.filter (·.place ≠ logLevelPlace) = [] := filter_limit _ rfl
    exact congrArg (_ ++ ·) ((hnone _).trans (hnone _).symm)

/-! ### The case of the level -/

theorem knownLevel_congr {level level' : String} (h : SameLetters level level') :
    KnownLevel level ↔ KnownLevel level' := by
  have hsmall : lowerCase level = lowerCase level' := congrArg String.ofList (sameLetters_iff.mp h)
  rw [KnownLevel, KnownLevel, hsmall]

theorem valid_iff {s : Settings} :
    s.Valid ↔ (1 ≤ s.cleanupDelay ∧ s.cleanupDelay ≤ 10000) ∧ (1 ≤ s.tick ∧ s.tick ≤ 60000) ∧ KnownLevel s.logLevel :=
  ⟨fun h => ⟨h.cleanupDelay, h.tick, h.logLevel⟩, fun ⟨hdelay, htick, hlevel⟩ => ⟨hdelay, htick, hlevel⟩⟩

/-- Settings are accepted as they are exactly if they keep all three limits. Otherwise what is reported is a list that
is not empty: of the three problems that there could be, in the order of their settings and each with the value as it
was given, it has exactly those that there are. A change of one setting leaves what is reported of the other two as it
is, and a change of the case of the level does not matter to whether settings are accepted. -/
theorem validate_reports_problems :
    (∀ s t : Settings, s.validate = .ok t ↔ t = s ∧
      (1 ≤ s.cleanupDelay ∧ s.cleanupDelay ≤ 10000) ∧ (1 ≤ s.tick ∧ s.tick ≤ 60000) ∧ KnownLevel s.logLevel) ∧
    (∀ (s : Settings) (ps : List SettingsProblem), s.validate = .error ps ↔ ps ≠ [] ∧ s.Lists ps) ∧
    (∀ (s : Settings) (change : Setting),
      (Setting.apply s change).reported.filter (·.place ≠ change.place) =
        s.reported.filter (·.place ≠ change.place)) ∧
    ∀ (s : Settings) (level : String), SameLetters s.logLevel level →
      (s.validate.isOk = true ↔ (Setting.apply s (.logLevel level)).validate.isOk = true) := by
  refine ⟨fun s t => ?_, fun s ps => validate_eq_error_iff, reported_apply, fun s level h => ?_⟩
  · rw [validate_eq_ok_iff, valid_iff]
  · have hok (t : Settings) : t.validate.isOk = true ↔ t.Valid := by
      rw [← problems_eq_nil_iff, validate]
      cases t.problems <;> simp [Except.isOk, Except.toBool]
    rw [hok, hok, valid_iff, valid_iff]
    exact and_congr_right fun _ => and_congr_right fun _ => knownLevel_congr h

/-- All three limits are broken, the second one by one millisecond; and a level in capitals is as good as another. -/
theorem validate_reports_problems_all :
    let s : Settings := { cleanupDelay := 0, tick := 60001, logLevel := "Loud" }
    let t : Settings := { cleanupDelay := 10000, tick := 1, logLevel := "debug" }
    s.validate = .error [.cleanupDelayOutOfRange 0 10000, .tickOutOfRange 60001 60000, .unknownLogLevel "Loud"] ∧
      SameLetters t.logLevel "DeBUG" ∧ t.validate.isOk = true ∧
      (Setting.apply t (.logLevel "DeBUG")).validate.isOk = true := by
  intro s t
  obtain ⟨-, herror, -, hcase⟩ := validate_reports_problems
  have hlists : s.Lists [.cleanupDelayOutOfRange 0 10000, .tickOutOfRange 60001 60000, .unknownLogLevel "Loud"] :=
    lists_iff.mpr (by decide)
  have hsame : SameLetters t.logLevel "DeBUG" := by decide
  have hvalid : t.validate.isOk = true := by decide
  exact ⟨(herror _ _).mpr ⟨by simp, hlists⟩, hsame, hvalid, (hcase t _ hsame).mp hvalid⟩

end Settings
end OrderlyExit
