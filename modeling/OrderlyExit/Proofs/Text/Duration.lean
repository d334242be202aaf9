import Mathlib.Data.List.DropRight
import OrderlyExit.Proofs.Text.Decimal
import OrderlyExit.Time

/-! The text of a duration gives it back to the nanosecond. The letters at its end say how many decimal places the unit
    has, the digits in front of the point are whole units, and the places behind it have only lost their last zeros. -/

namespace OrderlyExit

/-! ### Padded numerals -/

namespace Decimal

theorem value_replicate_append (k : Nat) (cs : List Char) : value (List.replicate k '0' ++ cs) = value cs := by
  induction k with
  | zero => rfl
  | succ k ih => exact ih

theorem value_zeroPadded (width n : Nat) : value (zeroPadded width n) = n := by
  rw [zeroPadded, value_replicate_append, value_digits]

theorem length_digits_le {n places : Nat} (hpos : 0 < places) (h : n < 10 ^ places) :
    (digits n).length ≤ places := by
  induction n using digits.induct generalizing places with
  | case1 n hn =>
    rw [digits_of_lt hn]
    exact hpos
  | case2 n hn ih =>
    cases places with
    | zero => exact absurd hpos (Nat.lt_irrefl 0)
    | succ places =>
      have hfront : n / 10 < 10 ^ places := by
        rw [Nat.pow_succ'] at h
        exact Nat.div_lt_of_lt_mul h
      have hplaces : 0 < places := by
        refine Nat.pos_of_ne_zero fun hzero => ?_
        rw [hzero, Nat.pow_zero] at hfront
        omega
      rw [digits_of_ge (Nat.not_lt.mp hn), List.length_append, List.length_singleton]
      exact Nat.succ_le_succ (ih hplaces hfront)

theorem length_zeroPadded {n places : Nat} (hpos : 0 < places) (h : n < 10 ^ places) :
    (zeroPadded places n).length = places := by
  have hle := length_digits_le hpos h
  rw [zeroPadded, List.length_append, List.length_replicate]
  omega

theorem digits_injective : Function.Injective digits := by
  intro m n h
  rw [← value_digits m, h, value_digits]

end Decimal

namespace Duration

/-! ### Places behind the point -/

/-- The number behind a decimal point, with the zeros that are missing on `places` places. -/
def readFraction (places : Nat) (cs : List Char) : Nat :=
  Decimal.value (cs.drop 1 ++ List.replicate (places - (cs.drop 1).length) '0')

theorem readFraction_fraction {places rest : Nat} (h : rest < 10 ^ places) :
    readFraction places (fraction places rest) = rest := by
  by_cases hzero : rest = 0
  · have hnone := Decimal.value_replicate_append places []
    rw [List.append_nil] at hnone
    rw [fraction, if_pos hzero, hzero]
    exact hnone
  · have hpos : 0 < places := by
      refine Nat.pos_of_ne_zero fun hplaces => ?_
      rw [hplaces, Nat.pow_zero] at h
      omega
    let padded := Decimal.zeroPadded places rest
    have hlength : padded.length = places := Decimal.length_zeroPadded hpos h
    have hsplit : padded.rdropWhile (· == '0') ++ padded.rtakeWhile (· == '0') = padded :=
      List.rdropWhile_append_rtakeWhile
    have hzeros : padded.rtakeWhile (· == '0') = List.replicate (padded.rtakeWhile (· == '0')).length '0' := by
      refine List.eq_replicate_iff.mpr ⟨rfl, fun c hc => ?_⟩
      exact beq_iff_eq.mp (List.mem_rtakeWhile_imp (p := (· == '0')) hc)
    have hmissing : places - (padded.rdropWhile (· == '0')).length = (padded.rtakeWhile (· == '0')).length := by
      have hsum := congrArg List.length hsplit
      rw [List.length_append] at hsum
      omega
    have hbehind : (fraction places rest).drop 1 = padded.rdropWhile (· == '0') := by
      rw [fraction, if_neg hzero]
      rfl
    rw [readFraction, hbehind, hmissing, ← hzeros, hsplit]
    exact Decimal.value_zeroPadded places rest

/-- Behind the digits in front of it, a fraction is nothing or begins with a point. -/
theorem takeWhile_isDigit_fraction (whole places rest : Nat) :
    (Decimal.digits whole ++ fraction places rest).takeWhile Char.isDigit = Decimal.digits whole := by
  have hdigits : ∀ c ∈ Decimal.digits whole, c.isDigit = true := fun c => Decimal.isDigit_of_mem_digits whole
  rw [List.takeWhile_append_of_pos hdigits]
  unfold fraction
  split
  · exact List.append_nil _
  · rw [List.takeWhile_cons_of_neg (by decide), List.append_nil]

theorem number_inj {places whole whole' rest rest' : Nat} (hrest : rest < 10 ^ places) (hrest' : rest' < 10 ^ places)
    (h : Decimal.digits whole ++ fraction places rest = Decimal.digits whole' ++ fraction places rest') :
    whole = whole' ∧ rest = rest' := by
  have hdigits : Decimal.digits whole = Decimal.digits whole' := by
    rw [← takeWhile_isDigit_fraction whole places rest, h, takeWhile_isDigit_fraction]
  obtain rfl := Decimal.digits_injective hdigits
  refine ⟨rfl, ?_⟩
  rw [← readFraction_fraction hrest, List.append_cancel_left h, readFraction_fraction hrest']

/-! ### Units -/

/-- The units of a duration, each with its decimal places. -/
def units : List (Nat × List Char) := [(9, ['s']), (6, ['m', 's']), (3, ['µ', 's']), (0, ['n', 's'])]

theorem exists_unit (d : Duration) : ∃ u ∈ units, d.chars = inUnit d.nanos u.1 u.2 := by
  unfold chars
  split
  · exact ⟨(9, ['s']), by simp [units], rfl⟩
  · split
    · exact ⟨(6, ['m', 's']), by simp [units], rfl⟩
    · split
      · exact ⟨(3, ['µ', 's']), by simp [units], rfl⟩
      · exact ⟨(0, ['n', 's']), by simp [units], rfl⟩

theorem inUnit_eq (nanos places : Nat) (unit : List Char) :
    inUnit nanos places unit =
      Decimal.digits (nanos / 10 ^ places) ++ fraction places (nanos % 10 ^ places) ++ unit := rfl

/-- A character of the number in front of the unit. -/
def isNumeric (c : Char) : Bool := c.isDigit || c == '.'

theorem units_not_numeric : ∀ u ∈ units, ∀ c ∈ u.2, isNumeric c = false := by
  have hnone : ∀ u ∈ units, u.2.any isNumeric = false := by decide
  intro u hu c hc
  exact Bool.eq_false_iff.mpr (List.any_eq_false.mp (hnone u hu) c hc)

theorem eq_of_unit_eq : ∀ u ∈ units, ∀ v ∈ units, u.2 = v.2 → u = v := by decide

theorem isNumeric_of_mem {whole places rest : Nat} {c : Char}
    (h : c ∈ Decimal.digits whole ++ fraction places rest) : isNumeric c = true := by
  have hdigit {c : Char} (hc : c.isDigit = true) : isNumeric c = true := by rw [isNumeric, hc, Bool.true_or]
  rcases List.mem_append.mp h with hwhole | hfraction
  · exact hdigit (Decimal.isDigit_of_mem_digits whole hwhole)
  · unfold fraction at hfraction
    split at hfraction
    · cases hfraction
    · rcases List.mem_cons.mp hfraction with rfl | hplace
      · rfl
      · have hpadded : c ∈ Decimal.zeroPadded places rest := (List.rdropWhile_prefix _ _).subset hplace
        rcases List.mem_append.mp hpadded with hzero | hrest
        · rw [List.eq_of_mem_replicate hzero]
          rfl
        · exact hdigit (Decimal.isDigit_of_mem_digits rest hrest)

/-- What follows the number of a duration is its unit. -/
theorem dropWhile_isNumeric_inUnit (nanos places : Nat) {unit : List Char} (h : ∀ c ∈ unit, isNumeric c = false) :
    (inUnit nanos places unit).dropWhile isNumeric = unit := by
  rw [inUnit, List.dropWhile_append_of_pos fun c => isNumeric_of_mem]
  cases unit with
  | nil => rfl
  | cons c rest => exact List.dropWhile_cons_of_neg (by rw [h c List.mem_cons_self]; exact Bool.false_ne_true)

theorem chars_injective {d d' : Duration} (h : d.chars = d'.chars) : d = d' := by
  obtain ⟨u, hu, hd⟩ := exists_unit d
  obtain ⟨u', hu', hd'⟩ := exists_unit d'
  have hunit : u.2 = u'.2 := by
    rw [← dropWhile_isNumeric_inUnit d.nanos u.1 (units_not_numeric u hu), ← hd, h, hd',
      dropWhile_isNumeric_inUnit _ _ (units_not_numeric u' hu')]
  obtain rfl := eq_of_unit_eq u hu u' hu' hunit
  have hscale : 0 < 10 ^ u.1 := Nat.pow_pos (by decide)
  rw [hd, hd', inUnit_eq, inUnit_eq] at h
  obtain ⟨hwhole, hrest⟩ :=
    number_inj (Nat.mod_lt d.nanos hscale) (Nat.mod_lt d'.nanos hscale) (List.append_cancel_right h)
  have hnanos : d.nanos = d'.nanos := by
    calc d.nanos
      _ = 10 ^ u.1 * (d.nanos / 10 ^ u.1) + d.nanos % 10 ^ u.1 := (Nat.div_add_mod _ _).symm
      _ = 10 ^ u.1 * (d'.nanos / 10 ^ u.1) + d'.nanos % 10 ^ u.1 := by rw [hwhole, hrest]
      _ = d'.nanos := Nat.div_add_mod _ _
  exact congrArg Duration.mk hnanos

theorem text_injective : Function.Injective text :=
  fun _ _ h => chars_injective (String.ofList_inj.mp h)

/-! ### What a text of a duration has in it -/

theorem isNumeric_or_of_mem_chars {d : Duration} {c : Char} (h : c ∈ d.chars) :
    isNumeric c = true ∨ ∃ u ∈ units, c ∈ u.2 := by
  obtain ⟨u, hu, hd⟩ := exists_unit d
  rw [hd, inUnit_eq] at h
  rcases List.mem_append.mp h with hnumber | hunit
  · exact Or.inl (isNumeric_of_mem hnumber)
  · exact Or.inr ⟨u, hu, hunit⟩

theorem comma_notMem_chars (d : Duration) : ',' ∉ d.chars := by
  intro h
  rcases isNumeric_or_of_mem_chars h with hnumber | ⟨u, hu, hunit⟩
  · exact absurd hnumber (by decide)
  · have hnone : ∀ u ∈ units, ',' ∉ u.2 := by decide
    exact hnone u hu hunit

theorem getLast?_chars (d : Duration) : d.chars.getLast? = some 's' := by
  obtain ⟨u, hu, hd⟩ := exists_unit d
  have hlast : ∀ u ∈ units, u.2.getLast? = some 's' := by decide
  rw [hd, inUnit_eq, List.getLast?_append, hlast u hu, Option.some_or]

end Duration
end OrderlyExit
