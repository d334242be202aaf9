import OrderlyExit.ExitOutcome

/-! What a status word says. Its low seven bits and the byte behind the first one are remainders of the word, so each
    word is an exit, a death or neither, and only a word that has neither a signal nor a code counts as success. -/

namespace OrderlyExit

/-! ### Masks -/

namespace Word

theorem and_low (n : Nat) : n &&& 0x7F = n % 128 := Nat.and_two_pow_sub_one_eq_mod n 7

theorem and_byte (n : Nat) : n &&& 0xFF = n % 256 := Nat.and_two_pow_sub_one_eq_mod n 8

/-- The second byte of a word, in its place. -/
theorem and_second (n : Nat) : n &&& 0xFF00 = n / 256 % 256 * 256 := by
  have hlow : (n &&& 0xFF00) % 2 ^ 8 = 0 := by
    rw [Nat.and_mod_two_pow, show 0xFF00 % 2 ^ 8 = 0 by rfl, Nat.and_zero]
  have hhigh : (n &&& 0xFF00) >>> 8 = n / 256 % 256 := by
    rw [Nat.shiftRight_and_distrib, show 0xFF00 >>> 8 = 0xFF by rfl, and_byte, Nat.shiftRight_eq_div_pow]
  rw [Nat.shiftRight_eq_div_pow] at hhigh
  omega

/-- A word has nothing in its low seven bits and in its second byte exactly if both of these are zero. -/
theorem and_both_eq_zero_iff (n : Nat) : n &&& 0xFF7F = 0 ↔ n % 128 = 0 ∧ n / 256 % 256 = 0 := by
  rw [show 0xFF7F = 0x7F ||| 0xFF00 by rfl, Nat.and_or_distrib_left, Nat.or_eq_zero_iff, and_low, and_second]
  omega

/-! ### Signed words -/

/-- A word whose highest bit is masked out is the same number, signed or not. -/
theorem toInt_and {raw mask : Int32} (h : mask.toUInt32.toNat < 0x80000000) :
    (raw &&& mask).toInt = (raw.toUInt32.toNat &&& mask.toUInt32.toNat : Nat) := by
  have hle : raw.toUInt32.toNat &&& mask.toUInt32.toNat ≤ mask.toUInt32.toNat := Nat.and_le_right
  have hnat : (raw &&& mask).toBitVec.toNat = raw.toUInt32.toNat &&& mask.toUInt32.toNat := BitVec.toNat_and ..
  rw [← Int32.toInt_toBitVec, BitVec.toInt_eq_toNat_of_lt (by omega), hnat]

theorem toInt_low (raw : Int32) : (raw &&& 0x7F).toInt = (raw.toUInt32.toNat % 128 : Nat) := by
  rw [toInt_and (by decide), ← and_low]
  rfl

/-- Shifting keeps the sign, but not in the low byte of what was shifted. -/
theorem toInt_code (raw : Int32) : ((raw >>> 8) &&& 0xFF).toInt = (raw.toUInt32.toNat / 256 % 256 : Nat) := by
  have hshift : (raw >>> 8).toUInt32.toNat % 256 = raw.toUInt32.toNat / 256 % 256 := by
    have hlt := raw.toUInt32.toNat_lt
    have hvec : (raw >>> 8).toUInt32.toNat = (raw.toBitVec.sshiftRight 8).toNat := rfl
    have hsame : raw.toBitVec.toNat = raw.toUInt32.toNat := rfl
    rw [hvec, BitVec.toNat_sshiftRight, hsame, Nat.shiftRight_eq_div_pow, Nat.shiftRight_eq_div_pow]
    split <;> omega
  rw [toInt_and (by decide), ← hshift, ← and_byte]
  rfl

theorem and_both_iff (raw : Int32) :
    raw &&& 0xFF7F = 0 ↔ raw.toUInt32.toNat % 128 = 0 ∧ raw.toUInt32.toNat / 256 % 256 = 0 := by
  have hmask : (0xFF7F : Int32).toUInt32.toNat = 0xFF7F := rfl
  rw [← Int32.toInt_inj, toInt_and (by decide), hmask, ← and_both_eq_zero_iff]
  exact Int.natCast_inj

theorem low_eq_iff (raw : Int32) {k : Int32} : raw &&& 0x7F = k ↔ (raw.toUInt32.toNat % 128 : Nat) = k.toInt := by
  rw [← Int32.toInt_inj, toInt_low]

end Word

namespace WaitStatus

/-! ### Decoding -/

/-- The status whose word is `raw` as a signed number. -/
def ofSigned (raw : Int32) : WaitStatus := ⟨raw.toUInt32⟩

theorem signed_ofSigned (raw : Int32) : (ofSigned raw).signed = raw.toInt := by
  rw [← Int32.toInt_toBitVec, BitVec.toInt_eq_toNat_bmod]
  rfl

theorem toNat_low (s : WaitStatus) : s.low.toNat = s.bits.toNat % 128 := by
  rw [low, UInt32.toNat_and, ← Word.and_low]
  rfl

theorem toNat_code (s : WaitStatus) : ((s.bits >>> 8) &&& 0xFF).toNat = s.bits.toNat / 256 % 256 := by
  have hplaces : (8 : UInt32).toNat % 32 = 8 := rfl
  have hmask : (0xFF : UInt32).toNat = 0xFF := rfl
  rw [UInt32.toNat_and, UInt32.toNat_shiftRight, hplaces, hmask, Nat.shiftRight_eq_div_pow, Word.and_byte]

/-- What a status says, by the remainders of its word. -/
theorem outcome_eq (s : WaitStatus) :
    s.outcome =
      if s.bits.toNat % 128 = 0 then .exited (s.bits.toNat / 256 % 256 : Nat)
      else if s.bits.toNat % 128 = 127 then .exited s.signed
      else .signaled (s.bits.toNat % 128 : Nat) := by
  have hzero : s.low = 0 ↔ s.bits.toNat % 128 = 0 := by
    rw [← UInt32.toNat_inj, toNat_low]
    exact Iff.rfl
  have hones : s.low = 0x7F ↔ s.bits.toNat % 128 = 127 := by
    rw [← UInt32.toNat_inj, toNat_low]
    exact Iff.rfl
  simp only [outcome, hzero, hones, toNat_code, toNat_low]

theorem outcome_of_exit {s : WaitStatus} (h : s.bits.toNat % 128 = 0) :
    s.outcome = .exited (s.bits.toNat / 256 % 256 : Nat) := by
  rw [outcome_eq, if_pos h]

theorem outcome_of_stop {s : WaitStatus} (h : s.bits.toNat % 128 = 127) : s.outcome = .exited s.signed := by
  rw [outcome_eq, if_neg (by omega), if_pos h]

theorem outcome_of_death {s : WaitStatus} (hzero : s.bits.toNat % 128 ≠ 0) (hones : s.bits.toNat % 128 ≠ 127) :
    s.outcome = .signaled (s.bits.toNat % 128 : Nat) := by
  rw [outcome_eq, if_neg hzero, if_neg hones]

/-- The signal of a status that says one is a number that a signal can have. -/
theorem signal_bounds {s : WaitStatus} {n : Int} (h : s.outcome = .signaled n) : 1 ≤ n ∧ n ≤ 126 := by
  by_cases hzero : s.bits.toNat % 128 = 0
  · exact nomatch (outcome_of_exit hzero).symm.trans h
  · by_cases hones : s.bits.toNat % 128 = 127
    · exact nomatch (outcome_of_stop hones).symm.trans h
    · obtain rfl := ExitOutcome.signaled.inj ((outcome_of_death hzero hones).symm.trans h)
      omega

/-! ### Success -/

/-- The word of a status that is no end of a process is not zero. -/
theorem signed_ne_zero {s : WaitStatus} (h : s.bits.toNat % 128 = 127) : s.signed ≠ 0 := by
  intro hzero
  have hdvd : (UInt32.size : Int) ∣ s.bits.toNat := Int.dvd_of_bmod_eq_zero hzero
  have hpart : 128 ∣ s.bits.toNat :=
    Nat.dvd_trans (Nat.pow_dvd_pow 2 (show 7 ≤ 32 by decide)) (Int.natCast_dvd_natCast.mp hdvd)
  omega

theorem success_iff (s : WaitStatus) :
    s.outcome.success = true ↔ s.bits.toNat % 128 = 0 ∧ s.bits.toNat / 256 % 256 = 0 := by
  by_cases hzero : s.bits.toNat % 128 = 0
  · simp only [outcome_of_exit hzero, ExitOutcome.success, decide_eq_true_eq]
    omega
  · by_cases hones : s.bits.toNat % 128 = 127
    · have hword := signed_ne_zero hones
      simp only [outcome_of_stop hones, ExitOutcome.success, decide_eq_true_eq]
      exact iff_of_false hword fun h => hzero h.1
    · rw [outcome_of_death hzero hones]
      exact iff_of_false Bool.false_ne_true fun h => hzero h.1

/-! ### Encoding -/

theorem outcome_ofExit (code : UInt8) : (ofExit code).outcome = .exited code.toNat := by
  have hcode := code.toNat_lt
  have hword : (ofExit code).bits.toNat = code.toNat * 256 := by
    rw [ofExit, UInt32.toNat_shiftLeft, UInt8.toNat_toUInt32, Nat.shiftLeft_eq]
    show code.toNat * 2 ^ 8 % 2 ^ 32 = code.toNat * 256
    omega
  rw [outcome_of_exit (by omega), hword]
  congr 2
  omega

theorem outcome_ofSignal {n : UInt32} (dumped : Bool) (hpos : 1 ≤ n) (hle : n ≤ 126) :
    (ofSignal n dumped).outcome = .signaled n.toNat := by
  have hlow : 1 ≤ n.toNat := UInt32.le_iff_toNat_le.mp hpos
  have hhigh : n.toNat ≤ 126 := UInt32.le_iff_toNat_le.mp hle
  have hflag : (if dumped then (0x80 : UInt32) else 0).toNat % 2 ^ 7 = 0 := by
    cases dumped <;> rfl
  have hrest : (ofSignal n dumped).bits.toNat % 128 = n.toNat := by
    rw [ofSignal, UInt32.toNat_or, show 128 = 2 ^ 7 by rfl, Nat.or_mod_two_pow, hflag, Nat.or_zero]
    omega
  rw [outcome_of_death (by omega) (by omega), hrest]

/-! ### All words -/

/-- A status is an exit with the byte behind the first one if its low seven bits are zero, and an exit with the whole
word, which is not zero then, if they are all ones; otherwise they are the number of a signal, from 1 to 126. So it
counts as success exactly if neither its low seven bits nor its second byte has anything in it, and nothing that has a
bit among the low seven, a signal or a stop of any kind, ever does. Every exit code and every signal is read back from
the word that is made of it, whether or not the flag of a core dump is set in it. -/
theorem outcome_of_word :
    (∀ raw : Int32,
      let outcome := (ofSigned raw).outcome
      (raw &&& 0x7F = 0 → outcome = .exited ((raw >>> 8) &&& 0xFF).toInt) ∧
      (raw &&& 0x7F = 0x7F → outcome = .exited raw.toInt) ∧
      (raw &&& 0x7F ≠ 0 → raw &&& 0x7F ≠ 0x7F → outcome = .signaled (raw &&& 0x7F).toInt) ∧
      (outcome.success = true ↔ raw &&& 0xFF7F = 0) ∧
      (raw &&& 0x7F ≠ 0 → outcome.success = false) ∧
      ∀ n, outcome = .signaled n → 1 ≤ n ∧ n ≤ 126 ∧ outcome.success = false) ∧
    (∀ code : UInt8, (ofExit code).outcome = .exited code.toNat) ∧
    ∀ (n : UInt32) (dumped : Bool), 1 ≤ n → n ≤ 126 → (ofSignal n dumped).outcome = .signaled n.toNat := by
  refine ⟨fun raw => ?_, outcome_ofExit, fun n dumped => outcome_ofSignal dumped⟩
  intro outcome
  have hzero : raw &&& 0x7F = 0 ↔ raw.toUInt32.toNat % 128 = 0 := (Word.low_eq_iff raw).trans Int.natCast_inj
  have hones : raw &&& 0x7F = 0x7F ↔ raw.toUInt32.toNat % 128 = 127 := (Word.low_eq_iff raw).trans Int.natCast_inj
  have hsuccess : outcome.success = true ↔ raw &&& 0xFF7F = 0 :=
    (success_iff (ofSigned raw)).trans (Word.and_both_iff raw).symm
  refine ⟨fun h => ?_, fun h => ?_, fun h h' => ?_, hsuccess, fun h => ?_, fun n hn => ?_⟩
  · rw [Word.toInt_code]
    exact outcome_of_exit (hzero.mp h)
  · rw [← signed_ofSigned]
    exact outcome_of_stop (hones.mp h)
  · rw [Word.toInt_low]
    exact outcome_of_death (mt hzero.mpr h) (mt hones.mpr h')
  · rw [← Bool.not_eq_true, hsuccess, Word.and_both_iff, ← hzero]
    exact fun hboth => h hboth.1
  · obtain ⟨hpos, hle⟩ := signal_bounds hn
    refine ⟨hpos, hle, ?_⟩
    rw [hn]
    rfl

/-- The word of a stopped process with a zero byte where an exit code would be, the least word there is, and a death by
a signal with a core dump. -/
theorem outcome_of_word_instances :
    (0x007F : Int32) &&& 0x7F = 0x7F ∧ (ofSigned 0x007F).outcome = .exited 127 ∧
      (-2147483648 : Int32) &&& 0x7F = 0 ∧ (ofSigned (-2147483648)).outcome.success = true ∧
      (ofSignal 11 true).outcome = .signaled 11 ∧ (ofSignal 126 false).outcome.success = false := by
  obtain ⟨hword, -, hsignal⟩ := outcome_of_word
  obtain ⟨-, hstop, -⟩ := hword 0x007F
  obtain ⟨-, -, -, hsuccess, -⟩ := hword (-2147483648)
  refine ⟨by decide, hstop (by decide), by decide, hsuccess.mpr (by decide),
    hsignal 11 true (by decide) (by decide), ?_⟩
  rw [hsignal 126 false (by decide) (by decide)]
  rfl

end WaitStatus
end OrderlyExit
