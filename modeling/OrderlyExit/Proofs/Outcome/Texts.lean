import Mathlib.Data.List.Nodup
import OrderlyExit.ExitOutcome
import OrderlyExit.Proofs.Text.Decimal

/-! The texts of outcomes. A numeral gives its number back, and so does the name of a signal; no signal has a name that
    could be the number of another one. So the text of an outcome tells which outcome it is. -/

namespace OrderlyExit

/-! ### Signed numerals -/

namespace Decimal

theorem toList_text (n : Nat) : (text n).toList = digits n := String.toList_ofList

theorem text_injective : Function.Injective text := by
  intro m n h
  rw [← value_digits m, ← toList_text m, h, toList_text, value_digits]

/-- A sign is no digit. -/
theorem text_ne_minus (m n : Nat) : text m ≠ "-" ++ text n := by
  intro h
  obtain ⟨d, ds, hdigits, hd⟩ := exists_digits_eq_cons m
  have hlist := congrArg String.toList h
  rw [toList_text, hdigits, String.toList_append] at hlist
  obtain rfl : d = '-' := (List.cons.inj hlist).1
  exact absurd hd (by decide)

theorem signedText_injective : Function.Injective signedText := by
  intro i j h
  cases i with
  | ofNat m =>
    cases j with
    | ofNat n => exact congrArg Int.ofNat (text_injective h)
    | negSucc n => exact absurd h (text_ne_minus m (n + 1))
  | negSucc m =>
    cases j with
    | ofNat n => exact absurd h.symm (text_ne_minus n (m + 1))
    | negSucc n =>
      have htext : text (m + 1) = text (n + 1) := String.append_right_inj "-" |>.mp h
      rw [Nat.succ.inj (text_injective htext)]

theorem mem_signedText {c : Char} {i : Int} (h : c ∈ (signedText i).toList) : c = '-' ∨ c.isDigit = true := by
  cases i with
  | ofNat n =>
    rw [signedText, toList_text] at h
    exact Or.inr (isDigit_of_mem_digits n h)
  | negSucc n =>
    rw [signedText, String.toList_append, toList_text] at h
    rcases List.mem_append.mp h with hsign | hdigit
    · exact Or.inl (List.mem_singleton.mp hsign)
    · exact Or.inr (isDigit_of_mem_digits _ hdigit)

end Decimal

/-! ### Names of signals -/

theorem nodup_signalNames : signalNames.Nodup := by decide

/-- Two signals of one name are one signal. -/
theorem signalName?_inj {m n : Int} {name : String} (hm : signalName? m = some name) (hn : signalName? n = some name) :
    m = n := by
  unfold signalName? at hm hn
  split at hm
  · rename_i hpos
    split at hn
    · rename_i hpos'
      obtain ⟨hlt, -⟩ := List.getElem?_eq_some_iff.mp hm
      have hindex : (m - 1).toNat = (n - 1).toNat :=
        (List.getElem?_inj hlt nodup_signalNames).mp (hm.trans hn.symm)
      omega
    · cases hn
  · cases hm

theorem mem_signalNames {n : Int} {name : String} (h : signalName? n = some name) : name ∈ signalNames := by
  unfold signalName? at h
  split at h
  · exact List.mem_of_getElem? h
  · cases h

/-- A name is in capitals, so it does not look like a number with a word in front. -/
theorem ne_numbered {name : String} (h : name ∈ signalNames) (n : Int) : name ≠ "signal " ++ Decimal.signedText n := by
  intro heq
  have hcapital : ∀ name ∈ signalNames, name.toList.head? = some 'S' := by decide
  have hhead := hcapital name h
  rw [heq, String.toList_append] at hhead
  exact absurd hhead (by simp)

namespace ExitOutcome

/-! ### Outcomes -/

/-- How a death by a signal is told. -/
def deathText (n : Int) : String := (signalName? n).getD ("signal " ++ Decimal.signedText n)

theorem text_signaled (n : Int) : (signaled n).text = "killed by " ++ deathText n := by
  cases h : signalName? n with
  | none =>
    have hfront : "killed by signal " = "killed by " ++ "signal " := by decide
    simp only [text, deathText, h, Option.getD_none, hfront, String.append_assoc]
  | some name => simp only [text, deathText, h, Option.getD_some]

theorem deathText_injective : Function.Injective deathText := by
  intro m n h
  unfold deathText at h
  cases hm : signalName? m with
  | none =>
    cases hn : signalName? n with
    | none =>
      rw [hm, hn] at h
      exact Decimal.signedText_injective (String.append_right_inj "signal " |>.mp h)
    | some name =>
      rw [hm, hn] at h
      exact absurd h.symm (ne_numbered (mem_signalNames hn) m)
  | some name =>
    cases hn : signalName? n with
    | none =>
      rw [hm, hn] at h
      exact absurd h (ne_numbered (mem_signalNames hm) n)
    | some name' =>
      rw [hm, hn] at h
      obtain rfl : name = name' := h
      exact signalName?_inj hm hn

theorem text_exited_ne (code n : Int) : (exited code).text ≠ (signaled n).text := by
  intro h
  have hlist := congrArg (List.head? ∘ String.toList) h
  rw [text_signaled, text] at hlist
  simp [String.toList_append] at hlist

theorem text_injective : Function.Injective text := by
  intro o o' h
  cases o with
  | exited code =>
    cases o' with
    | exited code' => exact congrArg exited (Decimal.signedText_injective (String.append_right_inj _ |>.mp h))
    | signaled n => exact absurd h (text_exited_ne code n)
  | signaled m =>
    cases o' with
    | exited code => exact absurd h.symm (text_exited_ne code m)
    | signaled n =>
      rw [text_signaled, text_signaled] at h
      exact congrArg signaled (deathText_injective (String.append_right_inj _ |>.mp h))

/-- A character that an outcome is told with: no bracket and no line end. -/
def isWordChar (c : Char) : Bool := c.isAlphanum || c == ' ' || c == '-'

theorem isWordChar_of_mem_signedText {c : Char} {i : Int} (h : c ∈ (Decimal.signedText i).toList) :
    isWordChar c = true := by
  rcases Decimal.mem_signedText h with rfl | hdigit
  · rfl
  · simp [isWordChar, Char.isAlphanum, hdigit]

theorem isWordChar_of_mem_append {word : String} (hword : word.toList.all isWordChar = true) {rest : String}
    (hrest : ∀ c ∈ rest.toList, isWordChar c = true) : ∀ c ∈ (word ++ rest).toList, isWordChar c = true := by
  intro c hc
  rw [String.toList_append] at hc
  exact (List.mem_append.mp hc).elim (List.all_eq_true.mp hword c) (hrest c)

theorem isWordChar_of_mem_deathText (n : Int) : ∀ c ∈ (deathText n).toList, isWordChar c = true := by
  unfold deathText
  cases h : signalName? n with
  | none => exact isWordChar_of_mem_append (by decide) fun c => isWordChar_of_mem_signedText
  | some name =>
    have hnames : ∀ name ∈ signalNames, name.toList.all isWordChar = true := by decide
    exact List.all_eq_true.mp (hnames name (mem_signalNames h))

theorem isWordChar_of_mem_text (o : ExitOutcome) : ∀ c ∈ o.text.toList, isWordChar c = true := by
  cases o with
  | exited code => exact isWordChar_of_mem_append (by decide) fun c => isWordChar_of_mem_signedText
  | signaled n =>
    rw [text_signaled]
    exact isWordChar_of_mem_append (by decide) (isWordChar_of_mem_deathText n)

end ExitOutcome
end OrderlyExit
