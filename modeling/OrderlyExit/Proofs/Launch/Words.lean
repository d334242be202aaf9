import OrderlyExit.Launch
import OrderlyExit.Shell.Token

/-! A script as a shell reads it, as far as quotes go. The rules are those of words alone: a single quote begins a
    literal run up to the next one, outside of these a backslash makes the next character literal, blanks separate
    words, and a semicolon ends a command. What a launch quotes is read as one word, whatever it is. -/

namespace OrderlyExit

namespace Launch

/-- What stands for a character between quotes: a quote is closed over, escaped, and opened again. -/
def escaped (c : Char) : List Char := if c = '\'' then ['\'', '\\', '\'', '\''] else [c]

theorem quote_eq (word : List Char) : quote word = '\'' :: (word.flatMap escaped ++ ['\'']) := rfl

end Launch

/-! ### The rules of words -/

/-- A command by the rules of words: its words, the first one names a program. -/
abbrev SimpleCommand := List (List Char)

/-- Where in a script its reader is. -/
inductive ScriptPlace
  | outside
  /-- Between two single quotes. -/
  | quotes
  /-- Behind a backslash. -/
  | backslash
  deriving DecidableEq, Repr

/-- What has been read of a script. -/
structure ScriptReader where
  place : ScriptPlace := .outside
  /-- The commands that have ended. -/
  commands : List SimpleCommand := []
  /-- The words of the present command that have ended. -/
  words : SimpleCommand := []
  /-- The word that has begun. -/
  word : Option (List Char) := none

namespace ScriptReader
open Launch (escaped)

/-- The reader with more in its word, which begins here if none has begun yet. -/
def add (r : ScriptReader) (cs : List Char) : ScriptReader := { r with word := some (r.word.getD [] ++ cs) }

def endWord (r : ScriptReader) : ScriptReader := { r with words := r.words ++ r.word.toList, word := none }

def endCommand (r : ScriptReader) : ScriptReader :=
  { r.endWord with commands := r.endWord.commands ++ [r.endWord.words], words := [] }

/-- Takes in a character. -/
def step (r : ScriptReader) (c : Char) : ScriptReader :=
  match r.place with
  | .quotes => if c = '\'' then { r with place := .outside } else r.add [c]
  | .backslash => { r.add [c] with place := .outside }
  | .outside =>
    if c = '\'' then { r.add [] with place := .quotes }
    else if c = '\\' then { r.add [] with place := .backslash }
    else if Shell.Token.isBlank c then r.endWord
    else if c = ';' then r.endCommand
    else r.add [c]

/-- All commands at the end of a script; a script that ends inside of quotes or behind a backslash has none. -/
def finish? (r : ScriptReader) : Option (List SimpleCommand) :=
  if r.place = .outside then some (r.commands ++ if r.endWord.words = [] then [] else [r.endWord.words]) else none

/-! ### Quoted words -/

theorem add_add (r : ScriptReader) (cs ds : List Char) : (r.add cs).add ds = r.add (cs ++ ds) := by
  simp [add]

/-- The way out of the quotes and back into them adds the quote, all else adds itself. -/
theorem foldl_escaped (r : ScriptReader) (h : r.place = .quotes) (c : Char) :
    (escaped c).foldl step r = r.add [c] := by
  obtain ⟨place, commands, words, word⟩ := r
  obtain rfl : place = .quotes := h
  by_cases hc : c = '\''
  · subst hc
    simp [escaped, step, add]
  · simp [escaped, step, hc]

theorem foldl_flatMap_escaped (word : List Char) (r : ScriptReader) (h : r.place = .quotes) (before : List Char) :
    (word.flatMap escaped).foldl step (r.add before) = r.add (before ++ word) := by
  induction word generalizing before with
  | nil => simp
  | cons c word ih =>
    rw [List.flatMap_cons, List.foldl_append, foldl_escaped (r.add before) h, add_add, ih, List.append_assoc,
      List.singleton_append]

/-- Whatever is quoted is added to the present word, and nothing else happens. -/
theorem foldl_quote (r : ScriptReader) (h : r.place = .outside) (word : List Char) :
    (Launch.quote word).foldl step r = r.add word := by
  have hopen : step r '\'' = { r with place := .quotes }.add [] := by simp [step, h, add]
  rw [Launch.quote_eq, List.foldl_cons, hopen, List.foldl_append,
    foldl_flatMap_escaped word { r with place := .quotes } rfl, List.nil_append]
  simp [step, add, h]

/-- Quoted words with blanks between them are read as these words. -/
theorem foldl_words (ws : List (List Char)) (r : ScriptReader) (h : r.place = .outside) (hword : r.word = none) :
    ((Launch.words ws).foldl step r).place = .outside ∧
      ((Launch.words ws).foldl step r).endWord = { r with words := r.words ++ ws } := by
  fun_induction Launch.words ws generalizing r with
  | case1 => simp [h, endWord, hword]
  | case2 w =>
    rw [foldl_quote r h]
    simp [add, h, endWord, hword]
  | case3 w ws hne ih =>
    have hblank : step (r.add w) ' ' = { r with words := r.words ++ [w] } := by
      simp [step, add, h, Shell.Token.isBlank, endWord, hword]
    rw [List.foldl_append, foldl_quote r h, List.foldl_cons, hblank]
    obtain ⟨hplace, hend⟩ := ih { r with words := r.words ++ [w] } h hword
    refine ⟨hplace, ?_⟩
    rw [hend]
    simp

end ScriptReader

/-- The commands of a script by the rules of words. -/
def simpleCommands? (script : List Char) : Option (List SimpleCommand) :=
  (script.foldl ScriptReader.step {}).finish?

open ScriptReader in
/-- A script of quoted words is read as two commands, the first one of these words. -/
theorem simpleCommands?_words (ws : List (List Char)) :
    simpleCommands? (Launch.words ws ++ Launch.scriptEnd) = some [ws, ["exit".toList, "$?".toList]] := by
  obtain ⟨hplace, hend⟩ := foldl_words ws {} rfl rfl
  have hsemicolon : step ((Launch.words ws).foldl step {}) ';' = { commands := [ws] } := by
    have hcommand : step ((Launch.words ws).foldl step {}) ';' = ((Launch.words ws).foldl step {}).endCommand := by
      simp [step, hplace, Shell.Token.isBlank]
    rw [hcommand, endCommand, hend]
    rfl
  have hscript : Launch.scriptEnd = ';' :: " exit $?".toList := rfl
  rw [simpleCommands?, List.foldl_append, hscript, List.foldl_cons, hsemicolon]
  rfl

end OrderlyExit
