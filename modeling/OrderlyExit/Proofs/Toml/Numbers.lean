import Mathlib.Data.List.Basic
import OrderlyExit.Proofs.Text.Decimal
import OrderlyExit.Toml.Number

/-! Whole numbers. The numeral of a number that fits into a signed 64-bit word is read as that number: it is no date, no
    time and no other kind of number, as long as what follows it ends a value. -/

namespace OrderlyExit.Toml

/-! ### The end of a value -/

/-- What may follow a value. -/
def valueEnds : List Char := [' ', '\t', '#', '\n', ',', ']', '}']

/-- Nothing follows, or a character that ends a value. -/
def EndsValue (rest : List Char) : Prop := ∀ c, rest.head? = some c → c ∈ valueEnds

theorem EndsValue.head?_ne {rest : List Char} (h : EndsValue rest) {c : Char} (hc : c ∉ valueEnds) :
    rest.head? ≠ some c :=
  fun hhead => hc (h c hhead)

theorem not_isDigit_of_mem_valueEnds : ∀ c ∈ valueEnds, c.isDigit = false := by simp [valueEnds]

theorem EndsValue.not_isDigit {c : Char} {rest : List Char} (h : EndsValue (c :: rest)) : c.isDigit = false :=
  not_isDigit_of_mem_valueEnds c (h c rfl)

/-- A character of a kind is none that is not of this kind. -/
theorem ne_of_kind {kind : Char → Bool} {c d : Char} (hc : kind c = true) (hd : kind d = false) : c ≠ d := by
  rintro rfl
  exact Bool.false_ne_true (hd.symm.trans hc)

/-! ### Runs of digits -/

section Run
variable {ds rest : List Char} (hds : ∀ d ∈ ds, d.isDigit = true) (hrest : EndsValue rest)
include hds hrest

/-- Behind a run of digits, only a digit or what ends a value comes next. -/
theorem head?_run_ne {c : Char} (hdigit : c.isDigit = false) (hc : c ∉ valueEnds) :
    (ds ++ rest).head? ≠ some c := by
  rcases ds with _ | ⟨d, ds⟩
  · exact hrest.head?_ne hc
  · intro hhead
    exact ne_of_kind (hds d List.mem_cons_self) hdigit (Option.some.inj hhead)

theorem readChar?_run {c : Char} (hdigit : c.isDigit = false) (hc : c ∉ valueEnds) : readChar? c (ds ++ rest) = none := by
  have hhead := head?_run_ne hds hrest hdigit hc
  cases hrun : ds ++ rest with
  | nil => rfl
  | cons d more =>
    have hne : c ≠ d := by
      rintro rfl
      exact hhead (hrun ▸ rfl)
    simp [readChar?, List.isPrefixOf?, hne]

/-- A run of digits is taken to its end. -/
theorem readDigits?_run (hne : ds ≠ []) : readDigits? Char.isDigit (ds ++ rest) = some (ds, rest) := by
  induction ds with
  | nil => exact absurd rfl hne
  | cons d ds ih =>
    obtain ⟨hd, hds⟩ := List.forall_mem_cons.mp hds
    have hunderscore := head?_run_ne hds hrest (c := '_') (by decide) (by decide)
    rw [List.cons_append, readDigits?, if_pos hd]
    simp only [hunderscore, ↓reduceIte]
    by_cases hnil : ds = []
    · subst hnil
      have hstop : readDigits? Char.isDigit rest = none := by
        cases rest with
        | nil => rw [readDigits?]
        | cons c rest => rw [readDigits?, if_neg (Bool.eq_false_iff.mp hrest.not_isDigit)]
      simp only [List.nil_append, hstop]
    · simp only [ih hds hnil]

/-- What is left of a run of digits after some of them is again a run of digits. -/
theorem readCount?_run {count n : Nat} {after : List Char} (h : readCount? count (ds ++ rest) = some (n, after)) :
    ∃ more, (∀ d ∈ more, d.isDigit = true) ∧ after = more ++ rest := by
  unfold readCount? at h
  split at h
  · rename_i hvalue
    split at h
    · rename_i hlength
      obtain ⟨-, rfl⟩ := Prod.mk.inj (Option.some.inj h)
      obtain ⟨-, hdigits, -⟩ := Decimal.value?_eq_some_iff.mp hvalue
      by_cases hcount : count ≤ ds.length
      · exact ⟨ds.drop count, fun d hd => hds d (List.mem_of_mem_drop hd), List.drop_append_of_le_length hcount⟩
      · -- the digits end before the count is reached, so the count takes in what ends the value
        rw [List.take_append, List.take_of_length_le (by omega)] at hlength hdigits
        cases rest with
        | nil => simp at hlength; omega
        | cons c rest =>
          obtain ⟨k, hk⟩ : ∃ k, count - ds.length = k + 1 := ⟨count - ds.length - 1, by omega⟩
          have hc : c.isDigit = true := hdigits c (by simp [hk])
          exact absurd hc (Bool.eq_false_iff.mp hrest.not_isDigit)
    · exact nomatch h
  · exact nomatch h

/-- A run of digits is no date and no time. -/
theorem readDateTime?_run : readDateTime? (ds ++ rest) = none := by
  have hdate : readDate? (ds ++ rest) = none := by
    unfold readDate?
    cases h : readCount? 4 (ds ++ rest) with
    | none => rfl
    | some p =>
      obtain ⟨more, hmore, hafter⟩ := readCount?_run hds hrest h
      simp [hafter, readChar?_run hmore hrest (c := '-') (by decide) (by decide)]
  have htime : readTime? (ds ++ rest) = none := by
    unfold readTime?
    cases h : readCount? 2 (ds ++ rest) with
    | none => rfl
    | some p =>
      obtain ⟨more, hmore, hafter⟩ := readCount?_run hds hrest h
      simp [hafter, readChar?_run hmore hrest (c := ':') (by decide) (by decide)]
  simp [readDateTime?, hdate, htime]

end Run

/-! ### Numerals -/

section Numeral
variable (n : Nat) {rest : List Char} (hrest : EndsValue rest)

theorem readSign_digits : readSign (Decimal.digits n ++ rest) = (false, Decimal.digits n ++ rest) := by
  obtain ⟨d, ds, h, hd⟩ := Decimal.exists_digits_eq_cons n
  simp [h, readSign, ne_of_kind hd (d := '-') (by decide), ne_of_kind hd (d := '+') (by decide)]

theorem valueIn_digits : valueIn 10 (Decimal.digits n) = n := by
  have hstep : ∀ value, ∀ d ∈ Decimal.digits n,
      value * 10 + (hexValue? d).getD 0 = value * 10 + Decimal.digitValue d := by
    intro value d hd
    simp [hexValue?, Decimal.digitValue, Decimal.isDigit_of_mem_digits n hd]
  rw [valueIn, List.foldl_ext _ _ 0 hstep]
  exact Decimal.value_digits n

/-- No named infinity begins with a digit. -/
theorem readSpecial?_digits : readSpecial? (Decimal.digits n ++ rest) = none := by
  obtain ⟨d, ds, h, hd⟩ := Decimal.exists_digits_eq_cons n
  have hi : 'i' ≠ d := (ne_of_kind hd (by decide)).symm
  have hn : 'n' ≠ d := (ne_of_kind hd (by decide)).symm
  rw [readSpecial?, readSign_digits, h]
  simp [List.isPrefixOf?, hi, hn]

include hrest

theorem readWhole?_digits : readWhole? (Decimal.digits n ++ rest) = some (false, Decimal.digits n, rest) := by
  rw [readWhole?, readSign_digits]
  rcases Nat.eq_zero_or_pos n with rfl | hpos
  · have hzero : Decimal.digits 0 = ['0'] := Decimal.digits_of_lt (by decide)
    simp [hzero]
  · have hhead : (Decimal.digits n ++ rest).head? ≠ some '0' := by
      rw [List.head?_append_of_ne_nil _ (Decimal.digits_ne_nil n)]
      exact Decimal.head?_digits_ne_zero hpos
    simp only [hhead, ↓reduceIte, Option.map_some,
      readDigits?_run (fun d => Decimal.isDigit_of_mem_digits n) hrest (Decimal.digits_ne_nil n)]

/-- A numeral names no base. -/
theorem readBased?_digits {letter : Char} (base : Nat) (hdigit : letter.isDigit = false) (hletter : letter ∉ valueEnds) :
    readBased? letter base (Decimal.digits n ++ rest) = none := by
  have hprefix : ['0', letter].isPrefixOf? (Decimal.digits n ++ rest) = none := by
    obtain ⟨d, ds, h, -⟩ := Decimal.exists_digits_eq_cons n
    have hds : ∀ c ∈ ds, c.isDigit = true := fun c hc => Decimal.isDigit_of_mem_digits n (h ▸ List.mem_cons_of_mem d hc)
    have hchar := readChar?_run hds hrest hdigit hletter
    rw [readChar?] at hchar
    rw [h, List.cons_append, List.isPrefixOf?, hchar, ite_self]
  simp only [readBased?, hprefix]

/-- A numeral has neither a fraction nor an exponent. -/
theorem readPointed?_digits : readPointed? (Decimal.digits n ++ rest) = none := by
  have hpoint := hrest.head?_ne (c := '.') (by decide)
  have hsmall := hrest.head?_ne (c := 'e') (by decide)
  have hlarge := hrest.head?_ne (c := 'E') (by decide)
  simp [readPointed?, readWhole?_digits n hrest, readFraction?, readExponent?, hpoint, hsmall, hlarge]

/-- A number that fits is read from its numeral. -/
theorem readNumeric?_digits (hfits : n ≤ 2 ^ 63 - 1) :
    readNumeric? (Decimal.digits n ++ rest) = some (.integer n, rest) := by
  have hrun := readDateTime?_run (fun d => Decimal.isDigit_of_mem_digits n) hrest
  have hin : fits64 (n : Int) = true := by
    simp only [fits64, Bool.and_eq_true, decide_eq_true_eq]
    exact ⟨Int.le_trans (by decide) (Int.natCast_nonneg n), Int.ofNat_le.mpr hfits⟩
  have hdecimal : readDecimal? (Decimal.digits n ++ rest) = some ((n : Int), rest) := by
    simp [readDecimal?, readWhole?_digits n hrest, valueIn_digits, hin]
  have hinteger : readInteger? (Decimal.digits n ++ rest) = some ((n : Int), rest) := by
    simp [readInteger?, readBased?_digits n hrest, valueEnds, hdecimal]
  simp [readNumeric?, hrun, readFloat?, readPointed?_digits n hrest, readSpecial?_digits, hinteger]

end Numeral

end OrderlyExit.Toml
