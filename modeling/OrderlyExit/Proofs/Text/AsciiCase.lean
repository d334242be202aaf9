import Mathlib.Data.List.Forall2

/-! The case of ASCII letters. Two texts differ in nothing else exactly if they have the same small form; a letter
    outside of ASCII has no other case here, and no small form of its own. -/

namespace OrderlyExit

/-! ### Characters -/

/-- A capital ASCII letter and its small form. -/
def IsCapitalOf (c d : Char) : Prop := 'A'.toNat ≤ c.toNat ∧ c.toNat ≤ 'Z'.toNat ∧ d.toNat = c.toNat + 32

/-- The same character, but for the case of an ASCII letter. -/
def SameLetter (c d : Char) : Prop := c = d ∨ IsCapitalOf c d ∨ IsCapitalOf d c

theorem toNat_toLower_of_capital {c : Char} (h : 65 ≤ c.toNat ∧ c.toNat ≤ 90) : c.toLower.toNat = c.toNat + 32 := by
  have hval : c.val ≥ 'A'.val ∧ c.val ≤ 'Z'.val := by
    simp only [ge_iff_le, UInt32.le_iff_toNat_le]
    exact h
  have hlower : c.toLower.val = c.val + ('a'.val - 'A'.val) := congrArg Char.val (dif_pos hval)
  have hle : c.val.toNat ≤ 90 := h.2
  have hshift : ('a'.val - 'A'.val).toNat = 32 := by decide
  show c.toLower.val.toNat = c.val.toNat + 32
  rw [hlower, UInt32.toNat_add, hshift]
  omega

theorem toLower_of_not_capital {c : Char} (h : ¬(65 ≤ c.toNat ∧ c.toNat ≤ 90)) : c.toLower = c := by
  refine dif_neg fun hval => h ?_
  simp only [ge_iff_le, UInt32.le_iff_toNat_le] at hval
  exact hval

theorem toLower_eq_iff {c d : Char} : c.toLower = d.toLower ↔ SameLetter c d := by
  unfold SameLetter IsCapitalOf
  change _ ↔ c = d ∨ (65 ≤ c.toNat ∧ c.toNat ≤ 90 ∧ _) ∨ (65 ≤ d.toNat ∧ d.toNat ≤ 90 ∧ _)
  rw [← Char.toNat_inj, ← Char.toNat_inj]
  by_cases hc : 65 ≤ c.toNat ∧ c.toNat ≤ 90
  · rw [toNat_toLower_of_capital hc]
    by_cases hd : 65 ≤ d.toNat ∧ d.toNat ≤ 90
    · rw [toNat_toLower_of_capital hd]
      omega
    · rw [toLower_of_not_capital hd]
      omega
  · rw [toLower_of_not_capital hc]
    by_cases hd : 65 ≤ d.toNat ∧ d.toNat ≤ 90
    · rw [toNat_toLower_of_capital hd]
      omega
    · rw [toLower_of_not_capital hd]
      omega

/-! ### Texts -/

/-- Texts that differ in the case of ASCII letters at most. -/
def SameLetters (s t : String) : Prop := List.Forall₂ SameLetter s.toList t.toList

theorem sameLetters_iff {s t : String} : SameLetters s t ↔ s.toList.map Char.toLower = t.toList.map Char.toLower := by
  have hmaps : s.toList.map Char.toLower = t.toList.map Char.toLower ↔
      List.Forall₂ (fun c d => c.toLower = d.toLower) s.toList t.toList := by
    rw [← List.forall₂_eq_eq_eq, List.forall₂_map_left_iff, List.forall₂_map_right_iff]
  rw [hmaps]
  constructor
  · exact List.Forall₂.imp fun _ _ => toLower_eq_iff.mpr
  · exact List.Forall₂.imp fun _ _ => toLower_eq_iff.mp

instance (s t : String) : Decidable (SameLetters s t) := decidable_of_iff _ sameLetters_iff.symm

end OrderlyExit
