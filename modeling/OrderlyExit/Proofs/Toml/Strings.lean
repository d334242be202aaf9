import Mathlib.Data.List.Basic
import OrderlyExit.Toml.Number
import OrderlyExit.Toml.Written

/-! Basic strings on one line. A character may be written in several ways, and a string in which each is written in
    one of them is read as these characters, whatever follows its closing quote but for a third quote. -/

namespace OrderlyExit.Toml

/-! ### Ways to write -/

/-- The letters that stand for a character behind a backslash, with these characters. -/
def shortEscapes : List (Char × Char) :=
  [('b', '\x08'), ('t', '\t'), ('n', '\n'), ('f', '\x0C'), ('r', '\r'), ('"', '"'), ('\\', '\\')]

/-- What stands for itself: no quote, no backslash, and no control character but a tab. -/
def Plain (c : Char) : Prop := c ≠ '"' ∧ c ≠ '\\' ∧ (c = '\t' ∨ 0x20 ≤ c.toNat ∧ c.toNat ≠ 0x7F)

instance : DecidablePred Plain := fun c =>
  inferInstanceAs (Decidable (c ≠ '"' ∧ c ≠ '\\' ∧ (c = '\t' ∨ 0x20 ≤ c.toNat ∧ c.toNat ≠ 0x7F)))

/-- A run of hexadecimal digits of either case that denotes `n`. -/
structure HexNumeral (digits : List Char) (n : Nat) : Prop where
  isHex : ∀ d ∈ digits, (hexValue? d).isSome
  value : valueIn 16 digits = n

/-- The ways to write a character: as it is; by a letter behind a backslash; or by its number, on four digits or on
eight. -/
inductive SpelledChar (c : Char) : List Char → Prop
  | plain (h : Plain c) : SpelledChar c [c]
  | short {letter : Char} (h : (letter, c) ∈ shortEscapes) : SpelledChar c ['\\', letter]
  | four {digits : List Char} (hlength : digits.length = 4) (h : HexNumeral digits c.toNat) :
    SpelledChar c ('\\' :: 'u' :: digits)
  | eight {digits : List Char} (hlength : digits.length = 8) (h : HexNumeral digits c.toNat) :
    SpelledChar c ('\\' :: 'U' :: digits)

/-- The ways to write a text: each of its characters in one of the ways to write that. -/
inductive Spelled : List Char → List Char → Prop
  | nil : Spelled [] []
  | cons {c : Char} {cs written spelled : List Char} (h : SpelledChar c written) (hs : Spelled cs spelled) :
    Spelled (c :: cs) (written ++ spelled)

/-! ### Reading -/

/-- What is read with a character in front of it. -/
def withChar (c : Char) (r : Option (List Char × List Char)) : Option (List Char × List Char) :=
  r.map fun p => (c :: p.1, p.2)

theorem charOf?_toNat (c : Char) : charOf? c.toNat = some c := by
  have hvalid : c.toNat.isValidChar := c.valid
  rw [charOf?, if_pos hvalid, Char.ofNat_toNat]

theorem isBasic_iff {c : Char} : isBasic c = true ↔ Plain c := by
  have hspace : ' ' ≤ c ↔ 0x20 ≤ c.toNat := Iff.rfl
  simp only [isBasic, isComment, Plain, Bool.and_eq_true, Bool.or_eq_true, beq_iff_eq, bne_iff_ne, decide_eq_true_eq,
    hspace]
  tauto

theorem shortEscape?_of_mem :
    ∀ p ∈ shortEscapes, p.1 ≠ 'u' ∧ p.1 ≠ 'U' ∧ shortEscape? p.1 = some p.2 := by decide

/-- The digits of a number are taken in one by one, and the last of them gives the character. -/
theorem scanString_number {c : Char} {digits : List Char} (hne : digits ≠ []) {value : Nat}
    (hhex : ∀ d ∈ digits, (hexValue? d).isSome)
    (hvalue : digits.foldl (fun n d => n * 16 + (hexValue? d).getD 0) value = c.toNat) (rest : List Char) :
    scanString basicStep (.number digits.length value) (digits ++ rest) =
      withChar c (scanString basicStep .plain rest) := by
  induction digits generalizing value with
  | nil => exact absurd rfl hne
  | cons d digits ih =>
    obtain ⟨hd, hdigits⟩ := List.forall_mem_cons.mp hhex
    obtain ⟨v, hv⟩ := Option.isSome_iff_exists.mp hd
    rw [List.foldl_cons, hv, Option.getD_some] at hvalue
    rcases digits with _ | ⟨d', digits⟩
    · rw [List.foldl_nil] at hvalue
      simp [scanString, basicStep, numberStep, hv, hvalue, charOf?_toNat, withChar]
    · have hmore : ¬digits.length + 1 + 1 ≤ 1 := by omega
      simp only [List.length_cons] at ih ⊢
      rw [List.cons_append, scanString]
      simp only [basicStep, numberStep, hv, hmore, ↓reduceIte, Nat.add_sub_cancel]
      exact ih (List.cons_ne_nil _ _) hdigits hvalue

theorem scanString_spelledChar {c : Char} {written : List Char} (h : SpelledChar c written) (rest : List Char) :
    scanString basicStep .plain (written ++ rest) = withChar c (scanString basicStep .plain rest) := by
  cases h with
  | plain hplain =>
    have hbasic := isBasic_iff.mpr hplain
    obtain ⟨hquote, hbackslash, -⟩ := hplain
    simp only [List.singleton_append, scanString, basicStep, hquote, hbackslash, hbasic, ↓reduceIte, withChar]
  | @short letter hmem =>
    obtain ⟨hu, hU, hletter⟩ := shortEscape?_of_mem _ hmem
    simp [scanString, basicStep, escapeStep, hu, hU, hletter, withChar]
  | @four digits hlength hnumeral =>
    have hne : digits ≠ [] := by rintro rfl; cases hlength
    have hdigits := scanString_number hne hnumeral.isHex hnumeral.value rest
    rw [hlength] at hdigits
    simpa [scanString, basicStep, escapeStep] using hdigits
  | @eight digits hlength hnumeral =>
    have hne : digits ≠ [] := by rintro rfl; cases hlength
    have hdigits := scanString_number hne hnumeral.isHex hnumeral.value rest
    rw [hlength] at hdigits
    simpa [scanString, basicStep, escapeStep] using hdigits

theorem scanString_spelled {cs spelled : List Char} (h : Spelled cs spelled) (rest : List Char) :
    scanString basicStep .plain (spelled ++ '"' :: rest) = some (cs, rest) := by
  induction h with
  | nil => simp [scanString, basicStep]
  | cons hc _ ih => rw [List.append_assoc, scanString_spelledChar hc, ih, withChar, Option.map_some]

theorem SpelledChar.head?_ne_quote {c : Char} {written : List Char} (h : SpelledChar c written) :
    ∃ d more, written = d :: more ∧ d ≠ '"' := by
  cases h with
  | plain hplain => exact ⟨c, [], rfl, hplain.1⟩
  | short _ | four _ _ | eight _ _ => exact ⟨'\\', _, rfl, by decide⟩

/-- No spelled text begins as the content of a string between triple quotes would have to. -/
theorem isPrefixOf?_triple_spelled {cs spelled rest : List Char} (h : Spelled cs spelled)
    (hrest : rest.head? ≠ some '"') : ['"', '"', '"'].isPrefixOf? ('"' :: (spelled ++ '"' :: rest)) = none := by
  cases h with
  | nil =>
    rcases rest with _ | ⟨d, rest⟩
    · rfl
    · have hd : '"' ≠ d := fun hd => hrest (hd ▸ rfl)
      simp [List.isPrefixOf?, hd]
  | cons hc _ =>
    obtain ⟨d, more, rfl, hd⟩ := hc.head?_ne_quote
    simp [List.isPrefixOf?, hd.symm]

/-- A basic string is read as the text that it spells. -/
theorem readString?_spelled {cs spelled rest : List Char} (h : Spelled cs spelled) (hrest : rest.head? ≠ some '"') :
    readString? ('"' :: (spelled ++ '"' :: rest)) = some (cs, rest) := by
  have hsingle : ['\'', '\'', '\''].isPrefixOf? ('"' :: (spelled ++ '"' :: rest)) = none := by simp [List.isPrefixOf?]
  simp only [readString?, isPrefixOf?_triple_spelled h hrest, hsingle, readLineString?, ↓reduceIte, scanString_spelled h]

/-! ### Line ends -/

theorem noReturn_of_spelledChar {c : Char} {written : List Char} (h : SpelledChar c written) : '\r' ∉ written := by
  have hhex {digits : List Char} {n : Nat} (hnumeral : HexNumeral digits n) : '\r' ∉ digits :=
    fun hmem => absurd (hnumeral.isHex _ hmem) (by decide)
  cases h with
  | plain hplain =>
    rw [List.mem_singleton]
    rintro rfl
    exact absurd hplain (by decide)
  | short hmem =>
    have hletters : ∀ p ∈ shortEscapes, '\r' ∉ ['\\', p.1] := by decide
    exact hletters _ hmem
  | four _ hnumeral | eight _ hnumeral => simp [hhex hnumeral]

/-- No spelling has a carriage return in it, so unifying the line ends leaves it as it is. -/
theorem noReturn_of_spelled {cs spelled : List Char} (h : Spelled cs spelled) : '\r' ∉ spelled := by
  induction h with
  | nil => exact List.not_mem_nil
  | cons hc _ ih => exact fun hmem => (List.mem_append.mp hmem).elim (noReturn_of_spelledChar hc) ih

/-! ### Writing -/

theorem hexValue?_hexDigit {d : Nat} (h : d < 16) : hexValue? (Quoted.hexDigit d) = some d := by
  revert d
  decide

theorem hexNumeral_fourDigits {n : Nat} (h : n < 65536) : HexNumeral (fourDigits n) n := by
  have hdigit (k : Nat) : hexValue? (Quoted.hexDigit (k % 16)) = some (k % 16) :=
    hexValue?_hexDigit (Nat.mod_lt k (by decide))
  constructor
  · simp [fourDigits, hdigit]
  · simp only [valueIn, fourDigits, List.map_cons, List.map_nil, List.foldl_cons, List.foldl_nil, hdigit,
      Option.getD_some]
    omega

/-- What is written by its number is a control character of ASCII. -/
theorem toNat_lt_of_not_plain {c : Char} (hescaped : ¬(c = '"' ∨ c = '\\')) (h : ¬Plain c) : c.toNat < 0x80 := by
  obtain ⟨hquote, hbackslash⟩ := not_or.mp hescaped
  refine Nat.not_le.mp fun hge => h ⟨hquote, hbackslash, .inr ?_⟩
  omega

theorem spelledChar_writeChar (c : Char) : SpelledChar c (writeChar c) := by
  unfold writeChar
  split
  · rename_i hescaped
    exact .short (by rcases hescaped with rfl | rfl <;> decide)
  · rename_i hescaped
    split
    · rename_i hbasic
      exact .plain (isBasic_iff.mp hbasic)
    · rename_i hbasic
      have hlow := toNat_lt_of_not_plain hescaped fun hplain => hbasic (isBasic_iff.mpr hplain)
      exact .four rfl (hexNumeral_fourDigits (by omega))

/-- A text as it is written is one of the ways to write it. -/
theorem spelled_flatMap_writeChar : ∀ cs : List Char, Spelled cs (cs.flatMap writeChar)
  | [] => .nil
  | c :: cs => by
    rw [List.flatMap_cons]
    exact .cons (spelledChar_writeChar c) (spelled_flatMap_writeChar cs)

end OrderlyExit.Toml
