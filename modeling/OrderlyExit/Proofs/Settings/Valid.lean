import OrderlyExit.Settings.Load

/-! Valid settings: those that keep every limit. Checking settings never changes them, and what a file gives is
    valid. -/

namespace OrderlyExit.Settings

/-- Settings that keep every limit. -/
structure Valid (s : Settings) : Prop where
  cleanupDelay : 1 ≤ s.cleanupDelay ∧ s.cleanupDelay ≤ maxCleanupDelay
  tick : 1 ≤ s.tick ∧ s.tick ≤ maxTick
  logLevel : lowerCase s.logLevel ∈ logLevels

theorem problems_eq_nil_iff {s : Settings} : s.problems = [] ↔ s.Valid := by
  simp only [problems, cleanupDelayProblems, tickProblems, logLevelProblems, List.append_eq_nil_iff,
    ite_eq_left_iff, reduceCtorEq, imp_false, Decidable.not_not]
  exact ⟨fun ⟨⟨hcleanup, htick⟩, hlevel⟩ => ⟨hcleanup, htick, hlevel⟩, fun h => ⟨⟨h.cleanupDelay, h.tick⟩, h.logLevel⟩⟩

theorem validate_eq_ok_iff {s t : Settings} : s.validate = .ok t ↔ t = s ∧ s.Valid := by
  rw [← problems_eq_nil_iff, validate]
  split
  · rename_i h
    simp [h, eq_comm]
  · rename_i h
    exact iff_of_false (fun hok => nomatch hok) fun ⟨_, hnil⟩ => h hnil

/-- The defaults keep every limit. -/
theorem defaults_valid : ({} : Settings).Valid := ⟨by decide, by decide, by decide⟩

/-- What a file gives is valid. -/
theorem valid_of_load {content : Except IoError (List UInt8)} {s : Settings} (h : load content = .ok s) : s.Valid := by
  unfold load at h
  split at h
  · exact nomatch h
  · split at h
    · exact nomatch h
    · split at h
      · exact nomatch h
      · rename_i t _
        cases ht : t.validate with
        | error ps => exact nomatch ht ▸ h
        | ok u =>
          rw [ht] at h
          obtain ⟨rfl, hvalid⟩ := validate_eq_ok_iff.mp ht
          obtain rfl : u = s := Except.ok.inj h
          exact hvalid

end OrderlyExit.Settings
