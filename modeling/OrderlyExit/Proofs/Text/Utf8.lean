import OrderlyExit.Text.Utf8

/-! Reading text that was encoded. The lossy reader gives every text back, and a text of ASCII characters
    has one byte for each of its characters. The byte of an ASCII character is that character and nothing else, whether
    the bytes around it are text or not. -/

namespace OrderlyExit.Utf8

/-! ### Characters -/

/-- The continuation byte with the given six low bits. -/
def tail (n : Nat) : UInt8 := UInt8.ofNat (n % 64 + 128)

theorem toNat_tail (n : Nat) : (tail n).toNat = n % 64 + 128 := by
  rw [tail, UInt8.toNat_ofNat']
  omega

theorem isTail_tail (n : Nat) : isTail (tail n) = true := by
  simp only [isTail, Bool.and_eq_true, decide_eq_true_eq, UInt8.le_iff_toNat_le, toNat_tail, UInt8.reduceToNat]
  omega

theorem low_tail (n : Nat) : low (tail n) = n % 64 := by
  rw [low, toNat_tail]
  omega

/-- A second byte fits unless the first one makes the form overlong, a surrogate, or too large. -/
theorem fits_tail {b : UInt8} {n : Nat} (hE0 : b.toNat = 0xE0 → 32 ≤ n % 64) (hED : b.toNat = 0xED → n % 64 < 32)
    (hF0 : b.toNat = 0xF0 → 16 ≤ n % 64) (hF4 : b.toNat = 0xF4 → n % 64 < 16) : fits b (tail n) = true := by
  simp only [fits, isTail_tail, beq_iff_eq, ← UInt8.toNat_inj, UInt8.le_iff_toNat_le, toNat_tail, UInt8.reduceToNat]
  repeat' split
  all_goals simp only [Bool.and_eq_true, decide_eq_true_eq]
  all_goals omega

theorem next_one {v : Nat} (h : v ≤ 0x7f) (rest : List UInt8) :
    next (UInt8.ofNat v) rest = (some (Char.ofNat v), rest) := by
  have hb : (UInt8.ofNat v).toNat = v := by
    rw [UInt8.toNat_ofNat']
    omega
  have hlt : UInt8.ofNat v < 0x80 := by
    rw [UInt8.lt_iff_toNat_lt, hb]
    show v < 128
    omega
  simp [next, hlt, hb]

theorem next_two {v : Nat} (h : 0x7f < v) (h' : v ≤ 0x7ff) (rest : List UInt8) :
    next (UInt8.ofNat (v / 64 % 32 + 192)) (tail v :: rest) = (some (Char.ofNat v), rest) := by
  have hb : (UInt8.ofNat (v / 64 % 32 + 192)).toNat = v / 64 + 192 := by
    rw [UInt8.toNat_ofNat']
    omega
  have hlead : ¬UInt8.ofNat (v / 64 % 32 + 192) < 0x80 ∧ 0xC2 ≤ UInt8.ofNat (v / 64 % 32 + 192) ∧
      UInt8.ofNat (v / 64 % 32 + 192) ≤ 0xDF := by
    simp only [UInt8.lt_iff_toNat_lt, UInt8.le_iff_toNat_le, hb, UInt8.reduceToNat]
    omega
  simp only [next, hlead, ↓reduceIte, decide_true, Bool.and_self, isTail_tail, low_tail, hb]
  congr 3
  omega

theorem next_three {v : Nat} (h : 0x7ff < v) (h' : v ≤ 0xffff) (hs : v < 0xd800 ∨ 0xdfff < v) (rest : List UInt8) :
    next (UInt8.ofNat (v / 4096 % 16 + 224)) (tail (v / 64) :: tail v :: rest) = (some (Char.ofNat v), rest) := by
  have hb : (UInt8.ofNat (v / 4096 % 16 + 224)).toNat = v / 4096 + 224 := by
    rw [UInt8.toNat_ofNat']
    omega
  generalize hB : UInt8.ofNat (v / 4096 % 16 + 224) = b at hb
  have hlead : ¬b < 0x80 ∧ ¬b ≤ 0xDF ∧ 0xE0 ≤ b ∧ b ≤ 0xEF := by
    simp only [UInt8.lt_iff_toNat_lt, UInt8.le_iff_toNat_le, hb, UInt8.reduceToNat]
    omega
  have hfits : fits b (tail (v / 64)) = true := fits_tail (by omega) (by omega) (by omega) (by omega)
  simp only [next, hlead, ↓reduceIte, decide_true, decide_false, Bool.and_self, Bool.and_false, Bool.false_eq_true,
    hfits, isTail_tail, low_tail, hb]
  congr 3
  omega

theorem next_four {v : Nat} (h : 0xffff < v) (h' : v < 0x110000) (rest : List UInt8) :
    next (UInt8.ofNat (v / 262144 % 8 + 240)) (tail (v / 4096) :: tail (v / 64) :: tail v :: rest) =
      (some (Char.ofNat v), rest) := by
  have hb : (UInt8.ofNat (v / 262144 % 8 + 240)).toNat = v / 262144 + 240 := by
    rw [UInt8.toNat_ofNat']
    omega
  generalize hB : UInt8.ofNat (v / 262144 % 8 + 240) = b at hb
  have hlead : ¬b < 0x80 ∧ ¬b ≤ 0xDF ∧ ¬b ≤ 0xEF ∧ 0xF0 ≤ b ∧ b ≤ 0xF4 := by
    simp only [UInt8.lt_iff_toNat_lt, UInt8.le_iff_toNat_le, hb, UInt8.reduceToNat]
    omega
  have hfits : fits b (tail (v / 4096)) = true := fits_tail (by omega) (by omega) (by omega) (by omega)
  simp only [next, hlead, ↓reduceIte, decide_true, decide_false, Bool.and_self, Bool.and_false, Bool.false_eq_true,
    hfits, isTail_tail, low_tail, hb]
  congr 3
  omega

/-- A character that was encoded is taken off the front. -/
theorem next_encodeChar (c : Char) (rest : List UInt8) :
    ∃ b bs, String.utf8EncodeChar c = b :: bs ∧ next b (bs ++ rest) = (some c, rest) := by
  have hvalid : c.val.toNat < 0xd800 ∨ 0xdfff < c.val.toNat ∧ c.val.toNat < 0x110000 := c.valid
  have hc : Char.ofNat c.val.toNat = c := Char.ofNat_toNat c
  fun_cases String.utf8EncodeChar c with
  | case1 v h1 => exact ⟨_, [], rfl, hc ▸ next_one h1 rest⟩
  | case2 v h1 h2 => exact ⟨_, [_], rfl, hc ▸ next_two (Nat.not_le.mp h1) h2 rest⟩
  | case3 v h1 h2 h3 => exact ⟨_, [_, _], rfl, hc ▸ next_three (Nat.not_le.mp h2) h3 (by omega) rest⟩
  | case4 v h1 h2 h3 => exact ⟨_, [_, _, _], rfl, hc ▸ next_four (Nat.not_le.mp h3) (by omega) rest⟩

/-! ### Texts -/

theorem encode_cons (c : Char) (cs : List Char) : encode (c :: cs) = String.utf8EncodeChar c ++ encode cs :=
  List.flatMap_cons

theorem encode_append (cs ds : List Char) : encode (cs ++ ds) = encode cs ++ encode ds := List.flatMap_append

/-- The lossy reader gives a text back that was encoded. -/
theorem decodeLossy_encode : ∀ cs : List Char, decodeLossy (encode cs) = cs
  | [] => by rw [encode, List.flatMap_nil, decodeLossy]
  | c :: cs => by
    obtain ⟨b, bs, hb, hnext⟩ := next_encodeChar c (encode cs)
    rw [encode_cons, hb, List.cons_append, decodeLossy, hnext, decodeLossy_encode cs, Option.getD_some]

/-- So does the strict one. -/
theorem decode?_encode : ∀ cs : List Char, decode? (encode cs) = some cs
  | [] => by rw [encode, List.flatMap_nil, decode?]
  | c :: cs => by
    obtain ⟨b, bs, hb, hnext⟩ := next_encodeChar c (encode cs)
    simp only [encode_cons, hb, List.cons_append, decode?, hnext, decode?_encode cs, Option.map_some]

/-! ### ASCII -/

/-- The byte of an ASCII character. -/
def asciiByte (c : Char) : UInt8 := UInt8.ofNat c.toNat

theorem encodeChar_ascii {c : Char} (h : c.toNat < 128) : String.utf8EncodeChar c = [asciiByte c] := by
  have hle : c.toNat ≤ 127 := Nat.le_of_lt_succ h
  simp [String.utf8EncodeChar, hle, asciiByte]

theorem encode_ascii : ∀ {cs : List Char}, (∀ c ∈ cs, c.toNat < 128) → encode cs = cs.map asciiByte
  | [], _ => rfl
  | c :: cs, h => by
    rw [encode_cons, encodeChar_ascii (h c List.mem_cons_self),
      encode_ascii fun d hd => h d (List.mem_cons_of_mem c hd)]
    rfl

theorem asciiByte_inj {c d : Char} (hc : c.toNat < 128) (hd : d.toNat < 128) (h : asciiByte c = asciiByte d) :
    c = d := by
  have hnat := congrArg UInt8.toNat h
  simp only [asciiByte, UInt8.toNat_ofNat'] at hnat
  rw [← Char.ofNat_toNat c, ← Char.ofNat_toNat d, show c.toNat = d.toNat by omega]

theorem toNat_asciiByte {c : Char} (h : c.toNat < 128) : (asciiByte c).toNat = c.toNat := by
  rw [asciiByte, UInt8.toNat_ofNat']
  omega

/-! ### ASCII characters among others -/

section
variable {a : Char}

theorem notMem_map_ofNat (ns : List Nat) (h : ∀ n ∈ ns, 128 ≤ n ∧ n < 256) (ha : a.toNat < 128) :
    asciiByte a ∉ ns.map UInt8.ofNat := by
  intro hmem
  obtain ⟨n, hn, hbyte⟩ := List.mem_map.mp hmem
  have hnat := congrArg UInt8.toNat hbyte
  rw [UInt8.toNat_ofNat', Nat.mod_eq_of_lt (h n hn).2, toNat_asciiByte ha] at hnat
  exact absurd ha (Nat.not_lt.mpr (hnat ▸ (h n hn).1))

/-- The byte of an ASCII character stands in the encoding of that character only. -/
theorem ascii_mem_encodeChar_iff (ha : a.toNat < 128) {c : Char} : asciiByte a ∈ String.utf8EncodeChar c ↔ a = c := by
  by_cases hc : c.toNat < 128
  · rw [encodeChar_ascii hc, List.mem_singleton]
    exact ⟨asciiByte_inj ha hc, fun h => h ▸ rfl⟩
  · have hne : a ≠ c := fun h => hc (h ▸ ha)
    have hval : 128 ≤ c.val.toNat := Nat.not_lt.mp hc
    refine iff_of_false ?_ hne
    fun_cases String.utf8EncodeChar c with
    | case1 v h1 => exact absurd hval (Nat.not_le.mpr (Nat.lt_succ_of_le h1))
    | case2 v h1 h2 => exact notMem_map_ofNat [_, _] (by simp; omega) ha
    | case3 v h1 h2 h3 => exact notMem_map_ofNat [_, _, _] (by simp; omega) ha
    | case4 v h1 h2 h3 => exact notMem_map_ofNat [_, _, _, _] (by simp; omega) ha

theorem ascii_mem_encode_iff (ha : a.toNat < 128) {cs : List Char} : asciiByte a ∈ encode cs ↔ a ∈ cs := by
  simp only [encode, List.mem_flatMap, ascii_mem_encodeChar_iff ha, exists_eq_right']

theorem ofNat_ne_ascii (ha : a.toNat < 128) {n : Nat} (h : 128 ≤ n) (h' : n < 0xd800 ∨ 0xdfff < n ∧ n < 0x110000) :
    Char.ofNat n ≠ a := by
  rintro rfl
  rw [Char.ofNat, dif_pos h'] at ha
  exact absurd ha (Nat.not_lt.mpr h)

theorem bounds_of_isTail {x : UInt8} (h : isTail x = true) : 0x80 ≤ x.toNat ∧ x.toNat ≤ 0xBF := by
  simpa [isTail, UInt8.le_iff_toNat_le] using h

theorem low_lt (b : UInt8) : low b < 64 := Nat.mod_lt _ (by decide)

/-- The second bytes that fit: a first byte of a form that may be overlong, a surrogate or too large narrows them. -/
theorem bounds_of_fits {b x : UInt8} (h : fits b x = true) :
    0x80 ≤ x.toNat ∧ x.toNat ≤ 0xBF ∧ (b.toNat = 0xE0 → 0xA0 ≤ x.toNat) ∧ (b.toNat = 0xED → x.toNat ≤ 0x9F) ∧
      (b.toNat = 0xF0 → 0x90 ≤ x.toNat) ∧ (b.toNat = 0xF4 → x.toNat ≤ 0x8F) := by
  simp only [fits, isTail, beq_iff_eq, ← UInt8.toNat_inj, UInt8.le_iff_toNat_le, UInt8.reduceToNat] at h
  repeat' split at h
  all_goals simp only [Bool.and_eq_true, decide_eq_true_eq] at h
  all_goals omega

/-- The byte of no ASCII character belongs to what stands behind the first byte of a character. -/
theorem ascii_mem_next_iff (ha : a.toNat < 128) (b : UInt8) (rest : List UInt8) :
    asciiByte a ∈ (next b rest).2 ↔ asciiByte a ∈ rest := by
  have high {x : UInt8} (h : 0x80 ≤ x.toNat) : asciiByte a ≠ x := by
    rintro rfl
    exact absurd ha (Nat.not_lt.mpr (toNat_asciiByte ha ▸ h))
  have htail {x : UInt8} (h : isTail x = true) : asciiByte a ≠ x := high (bounds_of_isTail h).1
  have hfits {x : UInt8} (h : fits b x = true) : asciiByte a ≠ x := high (bounds_of_fits h).1
  unfold next
  repeat' split
  all_goals grind

/-- An ASCII character is taken off exactly where its byte stands. -/
theorem next_eq_ascii_iff (ha : a.toNat < 128) (b : UInt8) (rest : List UInt8) :
    (next b rest).1 = some a ↔ asciiByte a = b := by
  by_cases hb : b < 0x80
  · have hvalid : b.toNat.isValidChar := Or.inl (Nat.lt_trans (UInt8.lt_iff_toNat_lt.mp hb) (by decide))
    simp only [next, hb, ↓reduceIte, Option.some.injEq]
    constructor
    · rintro rfl
      rw [← UInt8.toNat_inj, toNat_asciiByte ha, Char.ofNat, dif_pos hvalid]
      rfl
    · rintro rfl
      rw [toNat_asciiByte ha, Char.ofNat_toNat]
  · have hne : asciiByte a ≠ b := by
      rintro rfl
      exact hb (UInt8.lt_iff_toNat_lt.mpr ((toNat_asciiByte ha).symm ▸ ha))
    simp only [next, hb, ↓reduceIte, hne, iff_false]
    simp only [UInt8.lt_iff_toNat_lt, UInt8.le_iff_toNat_le, UInt8.reduceToNat, Bool.and_eq_true,
      decide_eq_true_eq] at hb ⊢
    repeat' split
    all_goals simp only [Option.some.injEq, reduceCtorEq, not_false_eq_true]
    -- what is left are the characters of two, three and four bytes
    · rename_i x r hx
      have hlow := low_lt x
      exact ofNat_ne_ascii ha (by omega) (by omega)
    · rename_i x hx _ y r hy
      have hy' := low_lt y
      have hx' := bounds_of_fits hx
      simp only [low] at hy' ⊢
      exact ofNat_ne_ascii ha (by omega) (by omega)
    · rename_i x hx _ y hy _ z r hz
      have hy' := low_lt y
      have hz' := low_lt z
      have hx' := bounds_of_fits hx
      simp only [low] at hy' hz' ⊢
      exact ofNat_ne_ascii ha (by omega) (by omega)

/-- Text that is read with replacements has an ASCII character exactly if the bytes have its byte. -/
theorem ascii_mem_decodeLossy_iff (ha : a.toNat < 128) (bs : List UInt8) :
    a ∈ decodeLossy bs ↔ asciiByte a ∈ bs := by
  fun_induction decodeLossy bs with
  | case1 => simp
  | case2 b rest ih =>
    have hfirst : a = (next b rest).1.getD replacement ↔ asciiByte a = b := by
      rw [← next_eq_ascii_iff ha b rest]
      cases (next b rest).1 with
      | none => exact iff_of_false (fun h => absurd ha (h ▸ by decide)) (by simp)
      | some c => rw [Option.getD_some, Option.some.injEq, eq_comm]
    rw [List.mem_cons, List.mem_cons, ih, ascii_mem_next_iff ha, hfirst]

end

/-! ### Runs of ASCII characters -/

theorem not_isTail_of_lt {x : UInt8} (h : x < 0x80) : isTail x = false :=
  Bool.eq_false_iff.mpr fun htail => absurd (UInt8.lt_iff_toNat_lt.mp h) (Nat.not_lt.mpr (bounds_of_isTail htail).1)

theorem not_fits_of_lt {b x : UInt8} (h : x < 0x80) : fits b x = false :=
  Bool.eq_false_iff.mpr fun hfits => absurd (UInt8.lt_iff_toNat_lt.mp h) (Nat.not_lt.mpr (bounds_of_fits hfits).1)

/-- No character goes on in a byte of ASCII. -/
theorem next_append_of_lt {x : UInt8} (h : x < 0x80) (b : UInt8) (rest more : List UInt8) :
    next b (rest ++ x :: more) = ((next b rest).1, (next b rest).2 ++ x :: more) := by
  rcases rest with _ | ⟨y, _ | ⟨z, _ | ⟨w, rest⟩⟩⟩
  all_goals simp only [next, List.nil_append, List.cons_append, not_isTail_of_lt h, not_fits_of_lt h]
  all_goals grind

/-- ASCII characters behind a text are read as they are, whatever the text is. -/
theorem decodeLossy_append_ascii {ends : List Char} (h : ∀ c ∈ ends, c.toNat < 128) (bs : List UInt8) :
    decodeLossy (bs ++ ends.map asciiByte) = decodeLossy bs ++ ends := by
  rcases ends with _ | ⟨c, ends⟩
  · simp
  have hc : asciiByte c < 0x80 := by
    rw [UInt8.lt_iff_toNat_lt, toNat_asciiByte (h c List.mem_cons_self)]
    exact h c List.mem_cons_self
  fun_induction decodeLossy bs with
  | case1 => rw [List.nil_append, ← encode_ascii h, decodeLossy_encode, List.nil_append]
  | case2 b rest ih =>
    rw [List.cons_append, decodeLossy, List.map_cons, next_append_of_lt hc, ← List.map_cons, ih, List.cons_append]

/-- Text that is read as ASCII has been written so, byte for byte. -/
theorem eq_map_of_decodeLossy {bs : List UInt8} (h : ∀ c ∈ decodeLossy bs, c.toNat < 128) :
    bs = (decodeLossy bs).map asciiByte := by
  fun_induction decodeLossy bs with
  | case1 => rfl
  | case2 b rest ih =>
    obtain ⟨hfirst, hrest⟩ := List.forall_mem_cons.mp h
    cases hnext : (next b rest).1 with
    | none =>
      rw [hnext] at hfirst
      exact absurd hfirst (by decide)
    | some c =>
      rw [hnext, Option.getD_some] at hfirst
      have hb : asciiByte c = b := (next_eq_ascii_iff hfirst b rest).mp hnext
      have hlt : b < 0x80 := by
        rw [← hb, UInt8.lt_iff_toNat_lt, toNat_asciiByte hfirst]
        exact hfirst
      have hbehind : (next b rest).2 = rest := by simp only [next, hlt, ↓reduceIte]
      rw [Option.getD_some, List.map_cons, hb, ← ih hrest, hbehind]

/-! ### Zero bytes -/

/-- Only the zero character is encoded with a zero byte. -/
theorem zero_mem_encode_iff {cs : List Char} : 0 ∈ encode cs ↔ '\x00' ∈ cs :=
  ascii_mem_encode_iff (a := '\x00') (by decide)

/-- Text that is read with replacements has a zero character exactly if the bytes have a zero. -/
theorem nul_mem_decodeLossy_iff (bs : List UInt8) : '\x00' ∈ decodeLossy bs ↔ 0 ∈ bs :=
  ascii_mem_decodeLossy_iff (a := '\x00') (by decide) bs

end OrderlyExit.Utf8
