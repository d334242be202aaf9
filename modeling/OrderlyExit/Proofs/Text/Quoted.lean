import Mathlib.Tactic.SplitIfs
import OrderlyExit.Text.Quoted

/-! Quoted text is read back. The written form of one character can be taken off the front of any text and tells the
    character, so written texts fall apart in one way only, and different texts are written differently. -/

namespace OrderlyExit.Quoted

/-! ### Hexadecimal numerals -/

/-- The value of a hexadecimal digit in lower case. -/
def digitValue (c : Char) : Nat := if c.toNat < 'a'.toNat then c.toNat - 48 else c.toNat - 87

/-- The number that a run of hexadecimal digits denotes. -/
def value (cs : List Char) : Nat := cs.foldl (fun n c => n * 16 + digitValue c) 0

theorem digitValue_hexDigit : ∀ n < 16, digitValue (hexDigit n) = n := by decide

theorem hexDigit_ne_brace : ∀ n < 16, hexDigit n ≠ '}' := by decide

theorem hex_of_lt {n : Nat} (h : n < 16) : hex n = [hexDigit n] := by
  rw [hex, if_pos h]

theorem hex_of_ge {n : Nat} (h : 16 ≤ n) : hex n = hex (n / 16) ++ [hexDigit (n % 16)] := by
  rw [hex, if_neg (by omega)]

theorem value_hex (n : Nat) : value (hex n) = n := by
  induction n using hex.induct with
  | case1 n hn =>
    rw [hex_of_lt hn]
    simp [value, digitValue_hexDigit n hn]
  | case2 n hn ih =>
    have hlast := digitValue_hexDigit (n % 16) (by omega)
    rw [hex_of_ge (by omega), value, List.foldl_append, ← value, ih, List.foldl_cons, List.foldl_nil, hlast]
    omega

theorem brace_notMem_hex (n : Nat) : '}' ∉ hex n := by
  induction n using hex.induct with
  | case1 n hn =>
    rw [hex_of_lt hn, List.mem_singleton]
    exact (hexDigit_ne_brace n hn).symm
  | case2 n hn ih =>
    rw [hex_of_ge (by omega), List.mem_append, List.mem_singleton, not_or]
    exact ⟨ih, (hexDigit_ne_brace _ (by omega)).symm⟩

/-! ### One character -/

/-- The character that a letter behind a backslash stands for. -/
def meant (c : Char) : Char :=
  if c = '0' then '\x00'
  else if c = 't' then '\t'
  else if c = 'r' then '\r'
  else if c = 'n' then '\n'
  else c

/-- The character that is written at the front of a text, and what follows it. -/
def readChar? : List Char → Option (Char × List Char)
  | '\\' :: 'u' :: '{' :: rest =>
    some (Char.ofNat (value (rest.takeWhile (· != '}'))), (rest.dropWhile (· != '}')).drop 1)
  | '\\' :: c :: rest => some (meant c, rest)
  | c :: rest => some (c, rest)
  | [] => none

theorem readChar?_short {c : Char} (h : c ≠ 'u') (rest : List Char) :
    readChar? ('\\' :: c :: rest) = some (meant c, rest) := by
  simp [readChar?, h]

theorem readChar?_plain {c : Char} (h : c ≠ '\\') (rest : List Char) : readChar? (c :: rest) = some (c, rest) := by
  simp [readChar?, h]

theorem readChar?_number (n : Nat) (rest : List Char) :
    readChar? (['\\', 'u', '{'] ++ hex n ++ ['}'] ++ rest) = some (Char.ofNat n, rest) := by
  have hdigits : ∀ c ∈ hex n, (c != '}') = true := fun c hc => by
    rw [bne_iff_ne]
    rintro rfl
    exact brace_notMem_hex n hc
  have htext : ['\\', 'u', '{'] ++ hex n ++ ['}'] ++ rest = '\\' :: 'u' :: '{' :: (hex n ++ '}' :: rest) := by simp
  rw [htext, readChar?, List.takeWhile_append_of_pos hdigits, List.dropWhile_append_of_pos hdigits]
  simp [value_hex]

/-- The written form of a character is read back, whatever follows it. -/
theorem readChar?_escape (c : Char) (rest : List Char) : readChar? (escape c ++ rest) = some (c, rest) := by
  unfold escape
  split_ifs with hnul htab hreturn hfeed hbackslash hquote hnumber
  · rw [hnul]
    exact readChar?_short (by decide) rest
  · rw [htab]
    exact readChar?_short (by decide) rest
  · rw [hreturn]
    exact readChar?_short (by decide) rest
  · rw [hfeed]
    exact readChar?_short (by decide) rest
  · rw [hbackslash]
    exact readChar?_short (by decide) rest
  · rw [hquote]
    exact readChar?_short (by decide) rest
  · rw [readChar?_number, Char.ofNat_toNat]
  · exact readChar?_plain hbackslash rest

/-! ### Texts -/

/-- Written characters are told apart, and so is what follows them. -/
theorem escape_append_inj {c d : Char} {rest rest' : List Char} (h : escape c ++ rest = escape d ++ rest') :
    c = d ∧ rest = rest' := by
  have hread := (readChar?_escape c rest).symm.trans ((congrArg readChar? h).trans (readChar?_escape d rest'))
  exact Prod.mk.inj (Option.some.inj hread)

theorem escape_ne_nil (c : Char) : escape c ≠ [] := by
  intro h
  have hread := readChar?_escape c []
  rw [h] at hread
  exact nomatch hread

theorem eq_of_flatMap_escape : ∀ {cs ds : List Char}, cs.flatMap escape = ds.flatMap escape → cs = ds
  | [], [], _ => rfl
  | [], d :: ds, h => by
    rw [List.flatMap_cons] at h
    exact absurd (List.append_eq_nil_iff.mp h.symm).1 (escape_ne_nil d)
  | c :: cs, [], h => by
    rw [List.flatMap_cons] at h
    exact absurd (List.append_eq_nil_iff.mp h).1 (escape_ne_nil c)
  | c :: cs, d :: ds, h => by
    rw [List.flatMap_cons, List.flatMap_cons] at h
    obtain ⟨rfl, hrest⟩ := escape_append_inj h
    rw [eq_of_flatMap_escape hrest]

theorem chars_injective : Function.Injective chars := by
  intro cs ds h
  exact eq_of_flatMap_escape (List.append_cancel_right (List.cons.inj h).2)

theorem text_injective : Function.Injective text := by
  intro s t h
  exact String.toList_inj.mp (chars_injective (String.ofList_inj.mp h))

end OrderlyExit.Quoted
