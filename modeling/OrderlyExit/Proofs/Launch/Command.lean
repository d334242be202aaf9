import OrderlyExit.Proofs.Launch.Tokens
import OrderlyExit.Proofs.Text.Utf8

/-! What a launch starts. A launch under a shell and a direct one start the same words, whatever characters these
    have: a shell reads the script as the program and its arguments and a second command. Only a zero byte is beyond
    both, and with one neither starts anything. -/

namespace OrderlyExit

/-! ### Invocations -/

namespace Invocation

theorem word_of_mem {bytes : List UInt8} (h : 0 ∈ bytes) : word bytes = Utf8.ofString "<string-with-nul>" := by
  rw [word, if_pos (List.contains_iff_mem.mpr h)]

theorem word_of_notMem {bytes : List UInt8} (h : 0 ∉ bytes) : word bytes = bytes := by
  rw [word, if_neg (mt List.contains_iff_mem.mp h)]

theorem spoiled_ofWords {program : List UInt8} {args : List (List UInt8)} :
    (ofWords program args).spoiled = true ↔ ∃ word ∈ program :: args, 0 ∈ word := by
  simp only [ofWords, List.any_eq_true, List.contains_iff_mem]

/-- Words without a zero byte reach the system as they are. -/
theorem ofWords_of_notMem {program : List UInt8} {args : List (List UInt8)} (h : ∀ word ∈ program :: args, 0 ∉ word) :
    ofWords program args = ⟨program, args, false⟩ := by
  obtain ⟨hprogram, hargs⟩ := List.forall_mem_cons.mp h
  have hspoiled : (program :: args).any (·.contains 0) = false := by
    rw [Bool.eq_false_iff]
    intro hs
    obtain ⟨word, hmem, hzero⟩ := spoiled_ofWords.mp hs
    exact h word hmem hzero
  have hmap : args.map word = args :=
    (List.map_congr_left (g := id) fun arg harg => word_of_notMem (hargs arg harg)).trans (List.map_id args)
  rw [ofWords, word_of_notMem hprogram, hmap, hspoiled]

end Invocation

namespace Launch

/-! ### Scripts -/

theorem nul_mem_quote_iff {word : List Char} : '\x00' ∈ quote word ↔ '\x00' ∈ word := by
  have hescaped (c : Char) : '\x00' ∈ escaped c ↔ '\x00' = c := by
    unfold escaped
    split
    · rename_i hc
      subst hc
      decide
    · simp
  simp [quote_eq, List.mem_flatMap, hescaped]

theorem nul_mem_words_iff {ws : List (List Char)} : '\x00' ∈ words ws ↔ ∃ w ∈ ws, '\x00' ∈ w := by
  fun_induction words ws with
  | case1 => simp
  | case2 w => simp [nul_mem_quote_iff]
  | case3 w ws hne ih => simp [nul_mem_quote_iff, ih]

/-- A script has a zero byte exactly if one of the words has. -/
theorem zero_mem_script_iff (l : Launch) : 0 ∈ Utf8.encode l.script ↔ ∃ word ∈ l.program :: l.args, 0 ∈ word := by
  have hend : '\x00' ∉ scriptEnd := by decide
  rw [Utf8.zero_mem_encode_iff, script, List.mem_append, nul_mem_words_iff, or_iff_left hend, ← List.map_cons]
  simp only [List.mem_map, exists_exists_and_eq_and, Utf8.nul_mem_decodeLossy_iff]

/-! ### Commands -/

/-- The words that start a shell have a zero byte exactly if the words of the launch have one. -/
theorem exists_zero_viaShell_iff (l : Launch) :
    (∃ word ∈ [Utf8.ofString "sh", Utf8.ofString "-c", Utf8.encode l.script], 0 ∈ word) ↔
      ∃ word ∈ l.program :: l.args, 0 ∈ word := by
  have hsh : 0 ∉ Utf8.ofString "sh" := by decide
  have hoption : 0 ∉ Utf8.ofString "-c" := by decide
  rw [← zero_mem_script_iff]
  simp [hsh, hoption]

/-- Under a shell starts `sh` with an option and a script, which is read as two commands: the words of the launch as
texts, whatever characters these have, and one that ends with their status. The reader of tokens sees in each of the
words one token in which nothing is special. Words that are texts are those that a direct launch starts. With a zero
byte in a word neither launch starts anything, and no script is left. -/
theorem words_through_shell (program : List UInt8) (args : List (List UInt8)) :
    let shell := (Launch.mk program args true).command
    let direct := (Launch.mk program args false).command
    let texts := (program :: args).map Utf8.decodeLossy
    shell.program = Utf8.ofString "sh" ∧
    ((∃ word ∈ program :: args, 0 ∈ word) →
      shell.args = [Utf8.ofString "-c", Utf8.ofString "<string-with-nul>"] ∧ shell.spoiled = true ∧
        direct.spoiled = true) ∧
    ((∀ word ∈ program :: args, 0 ∉ word) →
      shell.spoiled = false ∧ direct.spoiled = false ∧
        ∃ script, shell.args = [Utf8.ofString "-c", Utf8.encode script] ∧
          simpleCommands? script = some [texts, ["exit".toList, "$?".toList]] ∧
          (∀ d, ∃ ts line, Shell.Token.ofScript d 1 script = ts ++ Shell.Token.scriptEnd line ∧
            List.Forall₂ (fun text t => ∃ pieces n, t = .word pieces n ∧ Shell.Token.SpellQuoted text pieces) texts ts) ∧
          ((∀ word ∈ program :: args, ∃ text, word = Utf8.encode text) →
            texts.map Utf8.encode = direct.program :: direct.args)) := by
  intro shell direct texts
  have hsh : shell.program = Utf8.ofString "sh" := by
    show Invocation.word (Utf8.ofString "sh") = Utf8.ofString "sh"
    exact Invocation.word_of_notMem (by decide)
  have hshell := exists_zero_viaShell_iff ⟨program, args, true⟩
  refine ⟨hsh, fun hzero => ?_, fun hnone => ?_⟩
  · refine ⟨?_, Invocation.spoiled_ofWords.mpr (hshell.mpr hzero), Invocation.spoiled_ofWords.mpr hzero⟩
    have hscript := (zero_mem_script_iff ⟨program, args, true⟩).mpr hzero
    have hoption : Invocation.word (Utf8.ofString "-c") = Utf8.ofString "-c" :=
      Invocation.word_of_notMem (by decide)
    show [Invocation.word (Utf8.ofString "-c"), Invocation.word (Utf8.encode _)] = _
    rw [Invocation.word_of_mem hscript, hoption]
  · have hdirect : direct = ⟨program, args, false⟩ := Invocation.ofWords_of_notMem hnone
    have hcommand : shell =
        ⟨Utf8.ofString "sh", [Utf8.ofString "-c", Utf8.encode (Launch.mk program args true).script], false⟩ :=
      Invocation.ofWords_of_notMem fun word hmem hzero =>
        (hshell.mp ⟨word, hmem, hzero⟩).elim fun word ⟨hmem, hzero⟩ => hnone word hmem hzero
    rw [hdirect, hcommand]
    refine ⟨rfl, rfl, _, rfl, simpleCommands?_words texts,
      fun d => Shell.Token.ofScript_words d (List.cons_ne_nil _ _), fun htext => ?_⟩
    rw [List.map_map]
    refine (List.map_congr_left (g := id) fun word hmem => ?_).trans (List.map_id _)
    obtain ⟨text, rfl⟩ := htext word hmem
    rw [Function.comp_apply, Utf8.decodeLossy_encode]
    rfl

theorem words_through_shell_special :
    (∃ script, (Launch.mk (Utf8.ofString "it's; $x\n") [[], Utf8.ofString "a 'b\\", [0xFF]] true).command.args =
        [Utf8.ofString "-c", Utf8.encode script] ∧
      simpleCommands? script = some
        [["it's; $x\n".toList, [], "a 'b\\".toList, ['\uFFFD']], ["exit".toList, "$?".toList]]) ∧
    (Launch.mk (Utf8.ofString "it's; $x\n") [[], Utf8.ofString "a 'b\\", [0xFF]] true).command.spoiled = false ∧
    (Launch.mk (Utf8.ofString "echo") [[0]] false).command.spoiled = true := by
  obtain ⟨-, -, hnone⟩ :=
    words_through_shell (Utf8.ofString "it's; $x\n") [[], Utf8.ofString "a 'b\\", [0xFF]]
  obtain ⟨-, hzero, -⟩ := words_through_shell (Utf8.ofString "echo") [[0]]
  obtain ⟨hspoiled, -, script, hargs, hcommands, -⟩ := hnone (by decide)
  have htexts : [Utf8.ofString "it's; $x\n", [], Utf8.ofString "a 'b\\", [0xFF]].map Utf8.decodeLossy =
      ["it's; $x\n".toList, [], "a 'b\\".toList, ['\uFFFD']] := by
    have hbyte : Utf8.decodeLossy [0xFF] = ['\uFFFD'] := by decide +kernel
    simp only [List.map_cons, List.map_nil, Utf8.ofString, Utf8.decodeLossy_encode, hbyte, List.cons.injEq, and_true,
      true_and]
    exact Utf8.decodeLossy_encode []
  exact ⟨⟨script, hargs, htexts ▸ hcommands⟩, hspoiled, (hzero (by decide)).2.2⟩

/-- With a zero byte in a word the script is lost: what stands for it is read as one command, which names no program of
the launch. -/
theorem script_lost_by_zero_byte :
    let l : Launch := ⟨Utf8.ofString "echo", [Utf8.ofString "a\x00b", Utf8.ofString "c"], true⟩
    l.command.args = [Utf8.ofString "-c", Utf8.ofString "<string-with-nul>"] ∧
      simpleCommands? "<string-with-nul>".toList = some [["<string-with-nul>".toList]] ∧
      ∀ script, l.command.args = [Utf8.ofString "-c", Utf8.encode script] →
        simpleCommands? script ≠
          some [(l.program :: l.args).map Utf8.decodeLossy, ["exit".toList, "$?".toList]] := by
  intro l
  have hargs : l.command.args = [Utf8.ofString "-c", Utf8.ofString "<string-with-nul>"] := by
    have hscript := (zero_mem_script_iff l).mpr ⟨Utf8.ofString "a\x00b", by decide, by decide⟩
    have hoption : Invocation.word (Utf8.ofString "-c") = Utf8.ofString "-c" := Invocation.word_of_notMem (by decide)
    show [Invocation.word (Utf8.ofString "-c"), Invocation.word (Utf8.encode _)] = _
    rw [Invocation.word_of_mem hscript, hoption]
  have hread : simpleCommands? "<string-with-nul>".toList = some [["<string-with-nul>".toList]] := by decide
  refine ⟨hargs, hread, fun script h hcommands => ?_⟩
  have hencode : Utf8.encode "<string-with-nul>".toList = Utf8.encode script := by
    rw [hargs] at h
    exact (List.cons.inj (List.cons.inj h).2).1
  have hscript : script = "<string-with-nul>".toList := by
    rw [← Utf8.decodeLossy_encode script, ← hencode, Utf8.decodeLossy_encode]
  rw [hscript, hread] at hcommands
  exact absurd (congrArg (Option.map List.length) hcommands) (by simp)

end Launch
end OrderlyExit
