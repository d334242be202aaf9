import Mathlib.Data.List.Forall2
import OrderlyExit.Proofs.Launch.Words

/-! Quoted words before the reader of tokens of a shell that knows many more special characters. Each of the words is
    one token in which every character is quoted, and the only operator of a script is the semicolon behind them. -/

namespace OrderlyExit.Shell.Token
open Launch (escaped)

variable {readText : Nat → List Char → Word}

/-- The reader of a script in a line and with a word, to which nothing else has happened. -/
def reading (d : Dialect) (line : Nat) (word : Option Word) : Reader := { dialect := d, style := .script, line, word }

/-! ### Quotes -/

theorem lex_single (d : Dialect) (line : Nat) (w : Word) {c : Char} (h : c ≠ '\'') (rest : List Char) :
    ∃ line', lex readText .single (reading d line (some w)) (c :: rest) =
      lex readText .single (reading d line' (some (w ++ [.char c true]))) rest := by
  rw [lex]
  simp only [h, ↓reduceIte]
  by_cases hc : c = '\n'
  · exact ⟨line + 1, by simp [hc, reading, Reader.extend]⟩
  · exact ⟨line, by simp [hc, reading, Reader.extend]⟩

theorem lex_single_quote (r : Reader) (rest : List Char) :
    lex readText .single r ('\'' :: rest) = lex readText .plain r rest := by
  rw [lex]
  simp

theorem lex_plain_quote (d : Dialect) (line : Nat) (word : Option Word) (rest : List Char) :
    lex readText .plain (reading d line word) ('\'' :: rest) =
      lex readText .single (reading d line (some (word.getD [] ++ [.quotes]))) rest := by
  rw [lex]
  simp [reading, Reader.extend]

theorem lex_plain_escaped_quote (d : Dialect) (line : Nat) (w : Word) (rest : List Char) :
    lex readText .plain (reading d line (some w)) ('\\' :: '\'' :: rest) =
      lex readText .plain (reading d line (some (w ++ [.char '\'' true]))) rest := by
  have hescape : lex readText .plain (reading d line (some w)) ('\\' :: '\'' :: rest) =
      lex readText .escape (reading d line (some w)) ('\'' :: rest) := by
    rw [lex]
    simp [reading]
  rw [hescape, lex]
  simp [reading, Reader.extend]

/-! ### Quoted words -/

/-- The pieces of a character between quotes. -/
def quotedPiecesOf (c : Char) : List Piece := if c = '\'' then [.char c true, .quotes] else [.char c true]

/-- The pieces of a quoted word. -/
def quotedWord (word : List Char) : Word := .quotes :: word.flatMap quotedPiecesOf

/-- Pieces that spell a word, each of its characters quoted, so that none of them is special. -/
structure SpellQuoted (word : List Char) (pieces : Word) : Prop where
  text : bareText pieces = word
  quoted : ∀ p ∈ pieces, p = .quotes ∨ ∃ c, p = .char c true

theorem spellQuoted_quotedWord (word : List Char) : SpellQuoted word (quotedWord word) where
  text := by
    simp only [quotedWord, bareText, List.filterMap_cons]
    induction word with
    | nil => rfl
    | cons c word ih =>
      rw [List.flatMap_cons, List.filterMap_append, ih, quotedPiecesOf]
      split <;> rfl
  quoted p hp := by
    rcases List.mem_cons.mp hp with rfl | hp
    · exact Or.inl rfl
    · obtain ⟨c, -, hp⟩ := List.mem_flatMap.mp hp
      unfold quotedPiecesOf at hp
      split at hp
      · rcases List.mem_cons.mp hp with rfl | hp
        · exact Or.inr ⟨c, rfl⟩
        · exact Or.inl (List.mem_singleton.mp hp)
      · exact Or.inr ⟨c, List.mem_singleton.mp hp⟩

theorem lex_flatMap_escaped (d : Dialect) (word : List Char) (line : Nat) (w : Word) (rest : List Char) :
    ∃ line', lex readText .single (reading d line (some w)) (word.flatMap escaped ++ rest) =
      lex readText .single (reading d line' (some (w ++ word.flatMap quotedPiecesOf))) rest := by
  induction word generalizing line w with
  | nil => exact ⟨line, by simp⟩
  | cons c word ih =>
    rw [List.flatMap_cons, List.flatMap_cons, List.append_assoc]
    by_cases hc : c = '\''
    · subst hc
      obtain ⟨line', h⟩ := ih line (w ++ [.char '\'' true] ++ [.quotes])
      refine ⟨line', ?_⟩
      simp only [escaped, ↓reduceIte, List.cons_append, List.nil_append, lex_single_quote, lex_plain_escaped_quote,
        lex_plain_quote, Option.getD_some, h]
      simp [quotedPiecesOf]
    · obtain ⟨line₁, h₁⟩ := @lex_single readText d line w c hc (word.flatMap escaped ++ rest)
      obtain ⟨line', h⟩ := ih line₁ (w ++ [.char c true])
      refine ⟨line', ?_⟩
      rw [escaped, if_neg hc, List.singleton_append, h₁, h]
      simp [quotedPiecesOf, hc]

theorem lex_quote (d : Dialect) (word : List Char) (line : Nat) (rest : List Char) :
    ∃ line', lex readText .plain (reading d line none) (Launch.quote word ++ rest) =
      lex readText .plain (reading d line' (some (quotedWord word))) rest := by
  obtain ⟨line', h⟩ := @lex_flatMap_escaped readText d word line [.quotes] ('\'' :: rest)
  refine ⟨line', ?_⟩
  rw [Launch.quote_eq, List.cons_append, lex_plain_quote, List.append_assoc]
  exact h.trans (lex_single_quote _ rest)

/-! ### Scripts -/

/-- A quoted word is no number of a descriptor. -/
theorem number?_quotedWord (d : Dialect) (word : List Char) : number? d (quotedWord word) = none := by
  simp [number?, quotedWord]

theorem lex_blank (d : Dialect) (line : Nat) (word : List Char) (rest : List Char) :
    lex readText .plain (reading d line (some (quotedWord word))) (' ' :: rest) =
      .word (quotedWord word) line :: lex readText .plain (reading d line none) rest := by
  have hpattern : (quotedWord word == "=~".toList.map (Piece.char · false)) = false :=
    beq_eq_false_iff_ne.mpr (by simp [quotedWord])
  rw [lex]
  simp only [Char.reduceEq, ↓reduceIte, reading, isBlank, flush, reduceCtorEq, decide_false, hpattern]
  simp

/-- The tokens behind the first command of a script. -/
def scriptEnd (line : Nat) : List Token :=
  [.operator .semicolon line, .word ("exit".toList.map (Piece.char · false)) line, .word [.parameter ['?'] false] line]

theorem lex_scriptEnd (d : Dialect) (line : Nat) (word : List Char) :
    lex readText .plain (reading d line (some (quotedWord word))) Launch.scriptEnd =
      .word (quotedWord word) line :: scriptEnd line := by
  have hscript : Launch.scriptEnd = ';' :: " exit $?".toList := rfl
  have hop : operator? d (';' :: " exit $?".toList) = some (.semicolon, 0) := by
    cases d <;> decide
  rw [hscript, lex]
  simp only [Char.reduceEq, ↓reduceIte, reading, isBlank, flushBefore, flush, reduceCtorEq, decide_false, hop,
    number?_quotedWord, Option.bind]
  cases d <;> rfl

theorem lex_words (d : Dialect) {ws : List (List Char)} (hne : ws ≠ []) (line : Nat) :
    ∃ ts line', lex readText .plain (reading d line none) (Launch.words ws ++ Launch.scriptEnd) = ts ++ scriptEnd line' ∧
      List.Forall₂ (fun w t => ∃ n, t = .word (quotedWord w) n) ws ts := by
  fun_induction Launch.words ws generalizing line with
  | case1 => exact absurd rfl hne
  | case2 w =>
    obtain ⟨line', h⟩ := @lex_quote readText d w line Launch.scriptEnd
    exact ⟨[.word (quotedWord w) line'], line', h.trans (lex_scriptEnd d line' w), .cons ⟨line', rfl⟩ .nil⟩
  | case3 w ws hws ih =>
    obtain ⟨line₁, h₁⟩ := @lex_quote readText d w line (' ' :: Launch.words ws ++ Launch.scriptEnd)
    obtain ⟨ts, line', h, hspell⟩ := ih (fun hnil => hws hnil) line₁
    refine ⟨.word (quotedWord w) line₁ :: ts, line', ?_, .cons ⟨line₁, rfl⟩ hspell⟩
    rw [List.append_assoc, h₁, List.cons_append, lex_blank, h]
    rfl

/-- A script of quoted words has a token for each of them, in which nothing is special, and then those of its second
command. -/
theorem ofScript_words (d : Dialect) {ws : List (List Char)} (hne : ws ≠ []) :
    ∃ ts line, ofScript d 1 (Launch.words ws ++ Launch.scriptEnd) = ts ++ scriptEnd line ∧
      List.Forall₂ (fun w t => ∃ pieces n, t = .word pieces n ∧ SpellQuoted w pieces) ws ts := by
  obtain ⟨ts, line, h, hspell⟩ := @lex_words (ofDocument d) d ws hne 1
  exact ⟨ts, line, h, hspell.imp fun w t ⟨n, ht⟩ => ⟨_, n, ht, spellQuoted_quotedWord w⟩⟩

end OrderlyExit.Shell.Token
