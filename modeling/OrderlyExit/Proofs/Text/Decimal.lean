import Mathlib.Data.List.Induction
import Mathlib.Data.Nat.Digits.Defs
import OrderlyExit.Text.Decimal

/-! Numerals. Reading a numeral that was written gives its number back, and a numeral that lost digits at
    its end is the numeral of a quotient by a power of ten, so of a smaller number. -/

namespace OrderlyExit.Decimal

/-! ### Digits -/

theorem digits_of_lt {n : Nat} (h : n < 10) : digits n = [lastDigit n] := by
  rw [digits]
  simp [h]

theorem digits_of_ge {n : Nat} (h : 10 ≤ n) : digits n = digits (n / 10) ++ [lastDigit n] := by
  rw [digits]
  simp [Nat.not_lt.mpr h]

theorem digits_ne_nil (n : Nat) : digits n ≠ [] := by
  rw [digits]
  split <;> simp

theorem toNat_lastDigit (n : Nat) : (lastDigit n).toNat = 48 + n % 10 := by
  have hvalid : (48 + n % 10).isValidChar := Or.inl (by omega)
  rw [lastDigit, Char.ofNat, dif_pos hvalid]
  rfl

theorem digitValue_lastDigit (n : Nat) : digitValue (lastDigit n) = n % 10 := by
  rw [digitValue, toNat_lastDigit]
  omega

theorem isDigit_lastDigit (n : Nat) : (lastDigit n).isDigit = true := by
  have h := toNat_lastDigit n
  simp only [Char.isDigit, Bool.and_eq_true, decide_eq_true_eq, ge_iff_le, UInt32.le_iff_toNat_le]
  exact ⟨by show 48 ≤ (lastDigit n).toNat; omega, by show (lastDigit n).toNat ≤ 57; omega⟩

theorem isDigit_of_mem_digits {c : Char} (n : Nat) (h : c ∈ digits n) : c.isDigit = true := by
  induction n using digits.induct with
  | case1 n hn =>
    rw [digits_of_lt hn, List.mem_singleton] at h
    exact h ▸ isDigit_lastDigit n
  | case2 n hn ih =>
    rw [digits_of_ge (Nat.not_lt.mp hn), List.mem_append, List.mem_singleton] at h
    rcases h with h | rfl
    · exact ih h
    · exact isDigit_lastDigit n

theorem exists_digits_eq_cons (n : Nat) : ∃ d ds, digits n = d :: ds ∧ d.isDigit = true := by
  obtain ⟨d, ds, h⟩ := List.exists_cons_of_ne_nil (digits_ne_nil n)
  exact ⟨d, ds, h, isDigit_of_mem_digits n (h ▸ List.mem_cons_self)⟩

/-! ### Reading a numeral back -/

theorem value_concat (cs : List Char) (c : Char) : value (cs ++ [c]) = value cs * 10 + digitValue c := by
  simp [value]

theorem value_digits (n : Nat) : value (digits n) = n := by
  induction n using digits.induct with
  | case1 n hn =>
    rw [digits_of_lt hn, ← List.nil_append [lastDigit n], value_concat, digitValue_lastDigit]
    simp only [value, List.foldl_nil]
    omega
  | case2 n hn ih =>
    rw [digits_of_ge (Nat.not_lt.mp hn), value_concat, digitValue_lastDigit, ih]
    omega

theorem value?_digits (n : Nat) : value? (digits n) = some n := by
  have hall : (digits n).all Char.isDigit = true := List.all_eq_true.mpr fun c hc => isDigit_of_mem_digits n hc
  simp [value?, digits_ne_nil, hall, value_digits]

/-! ### What a run of digits denotes -/

/-- A numeral of `n`: ASCII digits that weigh the powers of ten, with any number of zeros in front. -/
structure Numeral (cs : List Char) (n : Nat) : Prop where
  ne_nil : cs ≠ []
  isDigit : ∀ c ∈ cs, c.isDigit = true
  value : Nat.ofDigits 10 (cs.reverse.map fun c => c.toNat - '0'.toNat) = n

theorem value_eq_ofDigits (cs : List Char) :
    value cs = Nat.ofDigits 10 (cs.reverse.map fun c => c.toNat - '0'.toNat) := by
  induction cs using List.reverseRecOn with
  | nil => rfl
  | append_singleton cs c ih =>
    rw [value_concat, ih, List.reverse_append, List.reverse_singleton, List.singleton_append, List.map_cons,
      Nat.ofDigits_cons, Nat.add_comm, Nat.mul_comm]
    rfl

theorem value?_eq_some_iff {cs : List Char} {n : Nat} : value? cs = some n ↔ Numeral cs n := by
  simp only [value?, List.all_eq_true, Option.ite_none_right_eq_some, Option.some.injEq, value_eq_ofDigits]
  exact ⟨fun ⟨⟨hne, hdigits⟩, hvalue⟩ => ⟨hne, hdigits, hvalue⟩, fun ⟨hne, hdigits, hvalue⟩ => ⟨⟨hne, hdigits⟩, hvalue⟩⟩

theorem value?_eq_none_iff {cs : List Char} : value? cs = none ↔ cs = [] ∨ ∃ c ∈ cs, c.isDigit = false := by
  simp [value?, List.all_eq_true, ← or_iff_not_imp_left]

/-! ### Numerals without needless zeros -/

/-- A zero in front is the whole numeral. -/
def Shortest (cs : List Char) : Prop := ∀ rest, cs = '0' :: rest → rest = []

theorem head?_digits_ne_zero {n : Nat} (h : 0 < n) : (digits n).head? ≠ some '0' := by
  induction n using digits.induct with
  | case1 n hn =>
    rw [digits_of_lt hn, List.head?_singleton, ne_eq, Option.some.injEq]
    intro hzero
    have hnat := congrArg Char.toNat hzero
    rw [toNat_lastDigit] at hnat
    change 48 + n % 10 = 48 at hnat
    omega
  | case2 n hn ih =>
    rw [digits_of_ge (Nat.not_lt.mp hn), List.head?_append, List.head?_eq_some_head (digits_ne_nil _), Option.some_or,
      ← List.head?_eq_some_head (digits_ne_nil _)]
    exact ih (by omega)

theorem shortest_digits (n : Nat) : Shortest (digits n) := by
  rcases Nat.eq_zero_or_pos n with rfl | hpos
  · intro rest h
    rw [digits_of_lt (by decide)] at h
    exact (List.cons.inj h).2.symm
  · intro rest h
    exact absurd (congrArg List.head? h) (head?_digits_ne_zero hpos)

theorem digitValue_lt {c : Char} (h : c.isDigit = true) : digitValue c < 10 := by
  simp only [Char.isDigit, Bool.and_eq_true, decide_eq_true_eq, UInt32.le_iff_toNat_le] at h
  have hle : c.toNat ≤ 57 := h.2
  rw [digitValue]
  omega

theorem lastDigit_digitValue {c : Char} (h : c.isDigit = true) (n : Nat) : lastDigit (n * 10 + digitValue c) = c := by
  have hlt := digitValue_lt h
  simp only [Char.isDigit, Bool.and_eq_true, decide_eq_true_eq, ge_iff_le, UInt32.le_iff_toNat_le] at h
  have hge : 48 ≤ c.toNat := h.1
  rw [← Char.toNat_inj, toNat_lastDigit]
  rw [digitValue] at hlt ⊢
  omega

/-- A run of digits without a needless zero is the numeral of what it denotes. -/
theorem digits_value {cs : List Char} (hne : cs ≠ []) (hdigits : ∀ c ∈ cs, c.isDigit = true) (h : Shortest cs) :
    digits (value cs) = cs := by
  induction cs using List.reverseRecOn with
  | nil => exact absurd rfl hne
  | append_singleton cs c ih =>
    have hc : c.isDigit = true := hdigits c (by simp)
    rw [value_concat]
    by_cases hcs : cs = []
    · have hzero : value cs = 0 := by rw [hcs]; rfl
      have hlast := lastDigit_digitValue hc 0
      rw [Nat.zero_mul, Nat.zero_add] at hlast
      rw [hzero, Nat.zero_mul, Nat.zero_add, digits_of_lt (digitValue_lt hc), hlast, hcs, List.nil_append]
    · -- with a digit behind it, the front does not begin with a zero at all
      have hfront : ∀ rest, cs ≠ '0' :: rest := by
        rintro rest rfl
        exact List.append_ne_nil_of_right_ne_nil rest (List.cons_ne_nil c []) (h _ rfl)
      have hvalue := ih hcs (fun d hd => hdigits d (List.mem_append_left _ hd)) (fun rest hr => absurd hr (hfront rest))
      have hpos : 0 < value cs := by
        refine Nat.pos_of_ne_zero fun hzero => hfront [] ?_
        rw [← hvalue, hzero]
        exact digits_of_lt (by decide)
      have hdiv : (value cs * 10 + digitValue c) / 10 = value cs := by
        have := digitValue_lt hc
        omega
      rw [digits_of_ge (by omega), hdiv, hvalue, lastDigit_digitValue hc]

theorem Numeral.eq_digits_iff {cs : List Char} {n : Nat} (h : Numeral cs n) : digits n = cs ↔ Shortest cs := by
  have hvalue : Decimal.value cs = n := (value_eq_ofDigits cs).trans h.value
  constructor
  · rintro rfl
    exact shortest_digits n
  · intro hshort
    rw [← hvalue]
    exact digits_value h.ne_nil h.isDigit hshort

/-! ### Numerals that lost digits -/

/-- What is left of a numeral without its last `k` digits denotes the quotient by `10 ^ k`. -/
theorem eq_digits_of_append {cs lost : List Char} {n : Nat} (hne : cs ≠ []) (h : cs ++ lost = digits n) :
    cs = digits (n / 10 ^ lost.length) := by
  induction n using digits.induct generalizing lost with
  | case1 n hn =>
    rw [digits_of_lt hn] at h
    have hlen := congrArg List.length h
    have hpos := List.length_pos_iff.mpr hne
    simp only [List.length_append, List.length_singleton] at hlen
    obtain rfl := List.length_eq_zero_iff.mp (show lost.length = 0 by omega)
    rw [List.append_nil] at h
    simp [h, digits_of_lt hn]
  | case2 n hn ih =>
    rcases List.eq_nil_or_concat lost with rfl | ⟨front, c, rfl⟩
    · simpa using h
    · rw [List.concat_eq_append] at h ⊢
      rw [digits_of_ge (Nat.not_lt.mp hn), ← List.append_assoc] at h
      rw [ih (List.append_inj_left' h rfl), List.length_append, List.length_singleton, Nat.pow_succ',
        Nat.div_div_eq_div_mul]

/-- A numeral that lost digits denotes a smaller number. -/
theorem div_pow_lt_of_append {cs lost : List Char} {n : Nat} (hne : cs ≠ []) (hlost : lost ≠ [])
    (h : cs ++ lost = digits n) : n / 10 ^ lost.length < n := by
  have hcs : 0 < cs.length := List.length_pos_iff.mpr hne
  have hk : 0 < lost.length := List.length_pos_iff.mpr hlost
  have hn : 10 ≤ n := by
    refine Nat.not_lt.mp fun hlt => ?_
    have hlen := congrArg List.length h
    rw [digits_of_lt hlt, List.length_append, List.length_singleton] at hlen
    omega
  exact Nat.div_lt_self (by omega) (Nat.one_lt_pow (by omega) (by omega))

end OrderlyExit.Decimal
