import OrderlyExit.Proofs.Text.AsciiCase
import OrderlyExit.Signal

/-! The spellings of a request to end. There are two words for each, and `sig` may stand in front of them once. The
    reader accepts these in any case of their letters and nothing else, and it complains of the text as it was given. -/

namespace OrderlyExit
namespace ShutdownSignal

/-! ### Words -/

/-- The words for a request to end. -/
def words : ShutdownSignal → List String
  | .interrupt => ["int", "interrupt"]
  | .terminate => ["term", "terminate"]

/-- A text spells a request: it is one of the words for it, or `sig` and one of them, whatever the case of its
letters. -/
def SpelledAs (signal : ShutdownSignal) (text : String) : Prop :=
  ∃ word ∈ signal.words, SameLetters text word ∨ SameLetters text ("sig" ++ word)

theorem ofStem?_word : ∀ (signal : ShutdownSignal), ∀ word ∈ signal.words, ofStem? word.toList = some signal := by
  rintro (_ | _) <;> decide

theorem ofStem?_eq_some_iff {cs : List Char} {signal : ShutdownSignal} :
    ofStem? cs = some signal ↔ ∃ word ∈ signal.words, cs = word.toList := by
  constructor
  · intro h
    unfold ofStem? at h
    split at h
    · rename_i hint
      obtain rfl := Option.some.inj h
      rcases hint with rfl | rfl
      · exact ⟨"int", by decide, rfl⟩
      · exact ⟨"interrupt", by decide, rfl⟩
    · split at h
      · rename_i hterm
        obtain rfl := Option.some.inj h
        rcases hterm with rfl | rfl
        · exact ⟨"term", by decide, rfl⟩
        · exact ⟨"terminate", by decide, rfl⟩
      · cases h
  · rintro ⟨word, hword, rfl⟩
    exact ofStem?_word signal word hword

/-! ### The optional front -/

theorem stem_sig (cs : List Char) : stem ("sig".toList ++ cs) = cs := by
  have hfront : ['s', 'i', 'g'].isPrefixOf? ("sig".toList ++ cs) = some cs :=
    List.isPrefixOf?_eq_some_iff_append_eq.mpr rfl
  rw [stem, hfront, Option.getD_some]

/-- A text is its stem, or its stem behind `sig`. -/
theorem eq_stem (cs : List Char) : cs = stem cs ∨ cs = "sig".toList ++ stem cs := by
  unfold stem
  cases h : ['s', 'i', 'g'].isPrefixOf? cs with
  | none => exact Or.inl rfl
  | some rest => exact Or.inr (List.append_eq_of_isPrefixOf?_eq_some h).symm

/-- No word begins with `sig` itself. -/
theorem stem_word : ∀ (signal : ShutdownSignal), ∀ word ∈ signal.words, stem word.toList = word.toList := by
  rintro (_ | _) <;> decide

theorem ofStem?_stem_eq_some_iff {cs : List Char} {signal : ShutdownSignal} :
    ofStem? (stem cs) = some signal ↔ ∃ word ∈ signal.words, cs = word.toList ∨ cs = ("sig" ++ word).toList := by
  rw [ofStem?_eq_some_iff]
  constructor
  · rintro ⟨word, hword, hstem⟩
    refine ⟨word, hword, ?_⟩
    rw [String.toList_append, ← hstem]
    exact eq_stem cs
  · rintro ⟨word, hword, rfl | rfl⟩
    · exact ⟨word, hword, stem_word signal word hword⟩
    · exact ⟨word, hword, by rw [String.toList_append, stem_sig]⟩

/-! ### The reader -/

/-- All spellings are in small letters, so a text has the small form of one exactly if it has the same letters. -/
theorem sameLetters_word {signal : ShutdownSignal} {word : String} (h : word ∈ signal.words) (text : String) :
    (text.toList.map Char.toLower = word.toList ↔ SameLetters text word) ∧
      (text.toList.map Char.toLower = ("sig" ++ word).toList ↔ SameLetters text ("sig" ++ word)) := by
  have hsmall : ∀ signal : ShutdownSignal, ∀ word ∈ signal.words,
      word.toList.map Char.toLower = word.toList ∧
        ("sig" ++ word).toList.map Char.toLower = ("sig" ++ word).toList := by
    rintro (_ | _) <;> decide
  obtain ⟨hword, hfront⟩ := hsmall signal word h
  rw [sameLetters_iff, sameLetters_iff, hword, hfront]
  exact ⟨Iff.rfl, Iff.rfl⟩

theorem ofStem?_toLower_eq_some_iff {text : String} {signal : ShutdownSignal} :
    ofStem? (stem (text.toList.map Char.toLower)) = some signal ↔ signal.SpelledAs text := by
  rw [ofStem?_stem_eq_some_iff]
  constructor
  · rintro ⟨word, hword, h⟩
    obtain ⟨hplain, hfront⟩ := sameLetters_word hword text
    exact ⟨word, hword, h.imp hplain.mp hfront.mp⟩
  · rintro ⟨word, hword, h⟩
    obtain ⟨hplain, hfront⟩ := sameLetters_word hword text
    exact ⟨word, hword, h.imp hplain.mpr hfront.mpr⟩

theorem parse_eq_ok_iff {text : String} {signal : ShutdownSignal} :
    parse text = .ok signal ↔ signal.SpelledAs text := by
  rw [← ofStem?_toLower_eq_some_iff, parse]
  cases ofStem? (stem (text.toList.map Char.toLower)) with
  | none => exact iff_of_false (fun h => nomatch h) fun h => nomatch h
  | some found => simp only [Except.ok.injEq, Option.some.injEq]

theorem parse_eq_error_iff {text : String} {e : ParseError} :
    parse text = .error e ↔ e = .unknown text ∧ ∀ signal : ShutdownSignal, ¬signal.SpelledAs text := by
  simp only [← ofStem?_toLower_eq_some_iff, parse]
  cases ofStem? (stem (text.toList.map Char.toLower)) with
  | none => simp [eq_comm]
  | some found => exact iff_of_false (fun h => nomatch h) fun ⟨_, h⟩ => h found rfl

/-- The case of letters decides neither whether a text is accepted nor as what. -/
theorem toOption_parse_congr {text text' : String} (h : SameLetters text text') :
    (parse text).toOption = (parse text').toOption := by
  have hsmall := sameLetters_iff.mp h
  unfold parse
  rw [hsmall]
  cases ofStem? (stem (text'.toList.map Char.toLower)) <;> rfl

theorem parse_name (signal : ShutdownSignal) : parse signal.name = .ok signal := by
  cases signal <;> rfl

/-- A text is read as a request exactly if it is, but for the case of ASCII letters, one of the two words for it or
`sig` and one of them; the complaint about any other text has that text in it as it was given. So the case of ASCII
letters never matters, and each request is read from its own name. -/
theorem parse_spellings :
    (∀ (text : String) (signal : ShutdownSignal), parse text = .ok signal ↔ signal.SpelledAs text) ∧
    (∀ (text : String) (e : ParseError), parse text = .error e ↔
      e = .unknown text ∧ ∀ signal : ShutdownSignal, ¬signal.SpelledAs text) ∧
    (∀ text text' : String, SameLetters text text' → (parse text).toOption = (parse text').toOption) ∧
    ∀ signal : ShutdownSignal, parse signal.name = .ok signal :=
  ⟨fun _ _ => parse_eq_ok_iff, fun _ _ => parse_eq_error_iff, fun _ _ => toOption_parse_congr, parse_name⟩

/-- Letters of both cases in one word; and a front that comes twice or alone, a blank, a letter that is not of ASCII
and only looks or folds like one, and no text at all. -/
theorem parse_spellings_cases :
    SameLetters "sIgInTeRrUpT" "SIGinterrupt" ∧ parse "sIgInTeRrUpT" = .ok .interrupt ∧
      parse "SIGinterrupt" = .ok .interrupt ∧
      ∀ text ∈ ["sigsigint", "Sig", " int", "term\n", "ıNT", "ſIGTERM", "ｔｅｒｍ", ""],
        parse text = .error (.unknown text) := by
  obtain ⟨haccepts, -, hcase, -⟩ := parse_spellings
  have hsame : SameLetters "sIgInTeRrUpT" "SIGinterrupt" := by decide
  have hread : parse "sIgInTeRrUpT" = .ok .interrupt :=
    (haccepts _ _).mpr ⟨"interrupt", by simp [words], Or.inr (by decide)⟩
  refine ⟨hsame, hread, ?_, by decide⟩
  have halike := hcase _ _ hsame
  rw [hread] at halike
  cases hother : parse "SIGinterrupt" with
  | error e => exact nomatch hother ▸ halike
  | ok signal =>
    rw [hother] at halike
    exact congrArg Except.ok (Option.some.inj halike).symm

end ShutdownSignal
end OrderlyExit
