import OrderlyExit.Proofs.Toml.Numbers
import OrderlyExit.Proofs.Toml.Strings
import OrderlyExit.Toml.Document

/-! Documents of sections with one key each. The statements of such a document are its headers and its keys in their
    order, and its root has one table for each section, provided that no two sections share a name. -/

namespace OrderlyExit.Toml

/-! ### Single characters -/

theorem skipBlanks_of_blank {c : Char} (h : isBlank c = true) (rest : List Char) :
    skipBlanks (c :: rest) = skipBlanks rest :=
  List.dropWhile_cons_of_pos h

theorem skipBlanks_of_not {c : Char} (h : isBlank c = false) (rest : List Char) :
    skipBlanks (c :: rest) = c :: rest :=
  List.dropWhile_cons_of_neg (Bool.eq_false_iff.mp h)

theorem readChar?_self (c : Char) (rest : List Char) : readChar? c (c :: rest) = some rest := by
  simp [readChar?, List.isPrefixOf?]

theorem lineEnd?_lineFeed (rest : List Char) : lineEnd? ('\n' :: rest) = some rest := by
  simp [lineEnd?, skipBlanks_of_not (c := '\n') (by decide)]

/-! ### Values as they are written -/

/-- A text on one line that is read as this value wherever a value may stand. -/
structure ReadsAs (written : List Char) (v : Value) : Prop where
  read : ∀ {rest}, EndsValue rest → readValue? (written ++ rest) = some (v, rest)
  start : ∀ {rest}, skipBlanks (written ++ rest) = written ++ rest
  noReturn : '\r' ∉ written

theorem readValue?_of_readScalar? {s : List Char} (hhead : s.head? ≠ some '[' ∧ s.head? ≠ some '{') :
    readValue? s = readScalar? s := by
  cases s with
  | nil => rfl
  | cons c rest =>
    obtain ⟨hbracket, hbrace⟩ := hhead
    rw [List.head?_cons, ne_eq, Option.some.injEq] at hbracket hbrace
    simp only [readValue?, readValueWith, hbracket, hbrace, ↓reduceIte]

theorem readsAs_digits {n : Nat} (hfits : n ≤ 2 ^ 63 - 1) : ReadsAs (Decimal.digits n) (.integer n) := by
  obtain ⟨d, ds, hdigits, hd⟩ := Decimal.exists_digits_eq_cons n
  have hne {c : Char} (hc : c.isDigit = false) : d ≠ c := ne_of_kind hd hc
  refine ⟨fun {rest} hrest => ?_, fun {rest} => ?_, fun hreturn => ?_⟩
  · have hnumeric := readNumeric?_digits n hrest hfits
    rw [hdigits, List.cons_append] at hnumeric ⊢
    rw [readValue?_of_readScalar? (by simp [hne])]
    have hquote : ¬(d = '"' ∨ d = '\'') := not_or.mpr ⟨hne (by decide), hne (by decide)⟩
    rw [readScalar?, if_neg hquote, if_neg (hne (by decide)), if_neg (hne (by decide)), hnumeric]
  · have hblank : isBlank d = false := by simp [isBlank, hne]
    rw [hdigits, List.cons_append, skipBlanks_of_not hblank]
  · exact absurd (Decimal.isDigit_of_mem_digits n hreturn) (by decide)

theorem readsAs_string {text : String} {spelled : List Char} (h : Spelled text.toList spelled) :
    ReadsAs ('"' :: spelled ++ ['"']) (.string text) := by
  refine ⟨fun {rest} hrest => ?_, fun {rest} => rfl, ?_⟩
  · have hstring := readString?_spelled h (hrest.head?_ne (c := '"') (by decide))
    have happend : '"' :: spelled ++ ['"'] ++ rest = '"' :: (spelled ++ '"' :: rest) := by simp
    rw [happend, readValue?_of_readScalar? (by simp)]
    simp only [readScalar?, true_or, ↓reduceIte, hstring, Option.map_some, String.ofList_toList]
  · simp [noReturn_of_spelled h]

/-! ### Names -/

/-- A key that needs no quotes. -/
structure BareName (name : String) : Prop where
  ne_nil : name.toList ≠ []
  bare : ∀ c ∈ name.toList, isBare c = true

instance (name : String) : Decidable (BareName name) :=
  decidable_of_iff (name.toList ≠ [] ∧ name.toList.all isBare = true)
    ⟨fun h => ⟨h.1, List.all_eq_true.mp h.2⟩, fun h => ⟨h.ne_nil, List.all_eq_true.mpr h.bare⟩⟩

theorem BareName.cons {name : String} (h : BareName name) :
    ∃ c cs, name.toList = c :: cs ∧ isBare c = true ∧ isBlank c = false := by
  obtain ⟨c, cs, hname⟩ := List.exists_cons_of_ne_nil h.ne_nil
  have hc : isBare c = true := h.bare c (hname ▸ List.mem_cons_self)
  refine ⟨c, cs, hname, hc, Bool.eq_false_iff.mpr fun hblank => ?_⟩
  rw [isBlank, Bool.or_eq_true, beq_iff_eq, beq_iff_eq] at hblank
  rcases hblank with rfl | rfl <;> exact absurd hc (by decide)

theorem BareName.head?_ne {name : String} (h : BareName name) {c : Char} (hc : isBare c = false) (rest : List Char) :
    (name.toList ++ rest).head? ≠ some c := by
  obtain ⟨d, cs, hname, hd, -⟩ := h.cons
  rw [hname, List.cons_append, List.head?_cons, ne_eq, Option.some.injEq]
  exact ne_of_kind hd hc

/-- A name on its own is a path, which ends before the next character that is no blank. -/
theorem readPath?_name {name : String} (h : BareName name) {c : Char} (hc : isBare c = false) (rest : List Char)
    (hdot : (skipBlanks (c :: rest)).head? ≠ some '.') :
    readPath? maxPath (name.toList ++ c :: rest) = some (⟨[], name⟩, skipBlanks (c :: rest)) := by
  obtain ⟨d, cs, hname, hd, hblank⟩ := h.cons
  have hstart : skipBlanks (name.toList ++ c :: rest) = name.toList ++ c :: rest := by
    rw [hname, List.cons_append, skipBlanks_of_not hblank]
  have htake : (name.toList ++ c :: rest).takeWhile isBare = d :: cs := by
    rw [List.takeWhile_append_of_pos h.bare]
    simp [hc, hname]
  have hdrop : (name.toList ++ c :: rest).dropWhile isBare = c :: rest := by
    rw [List.dropWhile_append_of_pos h.bare]
    simp [hc]
  have hkey : readKey? (name.toList ++ c :: rest) = some (name, c :: rest) := by
    rw [readKey?, htake, hdrop]
    simp only [← hname, String.ofList_toList]
  simp only [maxPath, readPath?, hstart, hkey, hdot, ↓reduceIte]

/-! ### One section -/

/-- A section of a document: a table with one key, and the value of that key as it is written and as it is read. -/
structure Section where
  table : String
  key : String
  written : List Char
  value : Value
  bareTable : BareName table
  bareKey : BareName key
  readsAs : ReadsAs written value

namespace Section

def text (s : Section) : List Char := writeTable s.table.toList s.key.toList s.written

def statements (s : Section) : List Statement := [.header ⟨[], s.table⟩, .keyValue ⟨[], s.key⟩ s.value]

/-- What the root table has of a section. -/
def entry (s : Section) : String × Value := (s.table, .table [(s.key, s.value)])

variable (s : Section) (rest : List Char)

theorem readHeader?_text :
    readHeader? ('[' :: (s.table.toList ++ ']' :: '\n' :: rest)) = some (.header ⟨[], s.table⟩, rest) := by
  have hclose : skipBlanks (']' :: '\n' :: rest) = ']' :: '\n' :: rest := skipBlanks_of_not (by decide) _
  have hpath := readPath?_name s.bareTable (c := ']') (by decide) ('\n' :: rest) (by simp [hclose])
  have hsingle : ['[', '['].isPrefixOf? ('[' :: (s.table.toList ++ ']' :: '\n' :: rest)) = none := by
    have hbracket := s.bareTable.head?_ne (c := '[') (by decide) (']' :: '\n' :: rest)
    obtain ⟨c, cs, hname, -⟩ := s.bareTable.cons
    rw [hname, List.cons_append, List.head?_cons, ne_eq, Option.some.injEq] at hbracket
    simp [hname, List.isPrefixOf?, Ne.symm hbracket]
  simp only [readHeader?, hsingle, readChar?_self, hpath, hclose, lineEnd?_lineFeed, Option.bind_eq_bind,
    Option.bind_some]

theorem readKeyValue?_text :
    readKeyValue? (s.key.toList ++ ' ' :: '=' :: ' ' :: (s.written ++ '\n' :: rest)) =
      some (.keyValue ⟨[], s.key⟩ s.value, rest) := by
  have hequals (more : List Char) : skipBlanks (' ' :: '=' :: more) = '=' :: more := by
    rw [skipBlanks_of_blank (by decide), skipBlanks_of_not (by decide)]
  have hpath := readPath?_name s.bareKey (c := ' ') (by decide) ('=' :: ' ' :: (s.written ++ '\n' :: rest))
    (by simp [hequals])
  have hstart : skipBlanks (' ' :: (s.written ++ '\n' :: rest)) = s.written ++ '\n' :: rest := by
    rw [skipBlanks_of_blank (by decide), s.readsAs.start]
  have hends : EndsValue ('\n' :: rest) := by simp [EndsValue, valueEnds]
  simp only [readKeyValue?, hpath, hequals, readChar?_self, hstart, s.readsAs.read hends, lineEnd?_lineFeed,
    Option.bind_eq_bind, Option.bind_some]

end Section

/-! ### Statements -/

theorem readStatementsWith_statement {fuel : Nat} {c : Char} {cs rest : List Char} {statement : Statement}
    (hblank : isBlank c = false) (hfiller : c ≠ '#' ∧ c ≠ '\n')
    (h : (if c = '[' then readHeader? (c :: cs) else readKeyValue? (c :: cs)) = some (statement, rest)) :
    readStatementsWith (fuel + 1) (c :: cs) = (readStatementsWith fuel rest).map (statement :: ·) := by
  simp only [readStatementsWith, skipBlanks_of_not hblank, not_or.mpr hfiller, h, ↓reduceIte]

/-- A section is read as its header and its key. -/
theorem readStatementsWith_text (fuel : Nat) (s : Section) (rest : List Char) :
    readStatementsWith (fuel + 2) (s.text ++ rest) = (readStatementsWith fuel rest).map (s.statements ++ ·) := by
  have htext : s.text ++ rest = '[' :: (s.table.toList ++ ']' :: '\n' ::
      (s.key.toList ++ ' ' :: '=' :: ' ' :: (s.written ++ '\n' :: rest))) := by
    simp [Section.text, writeTable]
  have hkey := s.readKeyValue?_text rest
  obtain ⟨c, cs, hname, hc, hblank⟩ := s.bareKey.cons
  have hne {d : Char} (hd : isBare d = false) : c ≠ d := ne_of_kind hc hd
  rw [hname, List.cons_append] at hkey
  rw [htext, readStatementsWith_statement (by decide) (by decide) ((if_pos rfl).trans (s.readHeader?_text _)), hname,
    List.cons_append,
    readStatementsWith_statement hblank ⟨hne (by decide), hne (by decide)⟩ ((if_neg (hne (by decide))).trans hkey),
    Option.map_map]
  rfl

theorem readStatementsWith_sections {fuel : Nat} {sections : List Section} (h : 2 * sections.length < fuel) :
    readStatementsWith fuel (sections.flatMap Section.text) = some (sections.flatMap Section.statements) := by
  induction sections generalizing fuel with
  | nil =>
    obtain ⟨fuel, rfl⟩ : ∃ k, fuel = k + 1 := ⟨fuel - 1, by omega⟩
    rfl
  | cons s sections ih =>
    rw [List.length_cons] at h
    obtain ⟨fuel, rfl⟩ : ∃ k, fuel = k + 2 := ⟨fuel - 2, by omega⟩
    rw [List.flatMap_cons, List.flatMap_cons, readStatementsWith_text, ih (by omega), Option.map_some]

theorem two_mul_length_le (sections : List Section) :
    2 * sections.length ≤ (sections.flatMap Section.text).length := by
  induction sections with
  | nil => exact Nat.zero_le _
  | cons s sections ih =>
    have htext : 2 ≤ s.text.length := by simp [Section.text, writeTable]; omega
    rw [List.flatMap_cons, List.length_append, List.length_cons]
    omega

theorem readStatements?_sections (sections : List Section) :
    readStatements? (sections.flatMap Section.text) = some (sections.flatMap Section.statements) :=
  readStatementsWith_sections (Nat.lt_succ_of_le (two_mul_length_le sections))

/-! ### The root table -/

/-- What a half-read document has of a section. -/
def Section.node (s : Section) : String × Node := (s.table, .table .header [(s.key, .value s.value)])

theorem lookup_append_of_none {entries : Node.Entries} {key : String} (h : entries.lookup key = none) (node : Node) :
    (entries ++ [(key, node)]).lookup key = some node := by
  simp [List.lookup_append, h]

theorem put_append_of_none {entries : Node.Entries} {key : String} (h : entries.lookup key = none) (old new : Node) :
    Node.put key new (entries ++ [(key, old)]) = entries ++ [(key, new)] := by
  induction entries with
  | nil => simp [Node.put]
  | cons e entries ih =>
    obtain ⟨k, n⟩ := e
    rw [List.lookup_cons] at h
    split at h
    · exact nomatch h
    · rename_i hne
      have hk : k ≠ key := fun hk => by simp [hk] at hne
      rw [List.cons_append, Node.put, if_neg hk, ih h, List.cons_append]

/-- The statements of a section add its table, as long as there is none of that name. -/
theorem apply_statements {p : Progress} {s : Section} (h : p.root.lookup s.table = none) :
    s.statements.foldlM Progress.apply p = some ⟨p.root ++ [s.node], [s.table]⟩ := by
  -- the header opens an empty table at the end, and the key goes into that one
  have hopen : Node.openTable ⟨[], s.table⟩ p.root = some (p.root ++ [(s.table, .table .header [])]) := by
    simp only [Node.openTable, Node.atPath, h]
  have hinsert : Node.insert ⟨[], s.key⟩ s.value .header [] = some [(s.key, .value s.value)] := by
    simp [Node.insert, Node.atPath]
  simp only [Section.statements, List.foldlM_cons, List.foldlM_nil, Progress.apply, hopen, Option.map_some,
    Option.bind_eq_bind, Option.bind_some, List.nil_append, Node.atPath, lookup_append_of_none h, hinsert,
    put_append_of_none h, reduceCtorEq, false_and, ↓reduceIte, Option.pure_def, Section.node]

theorem lookup_concat_node {root : Node.Entries} {s : Section} {name : String} (h : root.lookup name = none)
    (hne : name ≠ s.table) : (root ++ [s.node]).lookup name = none := by
  simp [List.lookup_append, h, Section.node, hne]

theorem apply_sections {sections : List Section} {p : Progress} (hdistinct : (sections.map Section.table).Nodup)
    (hnew : ∀ s ∈ sections, p.root.lookup s.table = none) :
    ∃ here, (sections.flatMap Section.statements).foldlM Progress.apply p =
      some ⟨p.root ++ sections.map Section.node, here⟩ := by
  induction sections generalizing p with
  | nil => exact ⟨p.here, by simp⟩
  | cons s sections ih =>
    rw [List.map_cons, List.nodup_cons] at hdistinct
    obtain ⟨hs, hsections⟩ := List.forall_mem_cons.mp hnew
    obtain ⟨hother, hdistinct⟩ := hdistinct
    have hafter : ∀ t ∈ sections, (p.root ++ [s.node]).lookup t.table = none := fun t ht =>
      lookup_concat_node (hsections t ht) fun heq => hother (heq ▸ List.mem_map_of_mem ht)
    obtain ⟨here, hrun⟩ := ih (p := ⟨p.root ++ [s.node], [s.table]⟩) hdistinct hafter
    refine ⟨here, ?_⟩
    rw [List.flatMap_cons, List.foldlM_append, apply_statements hs, Option.bind_eq_bind, Option.bind_some, hrun,
      List.append_assoc, List.singleton_append, List.map_cons]

theorem finishEntries_nodes (sections : List Section) :
    Node.finishEntries (sections.map Section.node) = sections.map Section.entry := by
  induction sections with
  | nil => rfl
  | cons s sections ih => rw [List.map_cons, List.map_cons, Section.node, Node.finishEntries, ih]; rfl

theorem buildTable?_sections {sections : List Section} (hdistinct : (sections.map Section.table).Nodup) :
    buildTable? (sections.flatMap Section.statements) = some (sections.map Section.entry) := by
  obtain ⟨here, hrun⟩ := apply_sections (p := {}) hdistinct fun _ _ => rfl
  rw [buildTable?, hrun, Option.map_some, List.nil_append, finishEntries_nodes]

/-! ### Documents -/

theorem unifyLineEnds_of_noReturn {s : List Char} (h : '\r' ∉ s) : unifyLineEnds s = s := by
  induction s with
  | nil => rfl
  | cons c s ih =>
    obtain ⟨hc, hs⟩ := not_or.mp (mt List.mem_cons.mpr h)
    rw [unifyLineEnds, if_neg fun hreturn => hc hreturn.1.symm, ih hs]

theorem BareName.noReturn {name : String} (h : BareName name) : '\r' ∉ name.toList :=
  fun hmem => absurd (h.bare _ hmem) (by decide)

theorem noReturn_text (s : Section) : '\r' ∉ s.text := by
  simp [Section.text, writeTable, s.bareTable.noReturn, s.bareKey.noReturn, s.readsAs.noReturn]

/-- A document of sections, each of a name of its own, has one table for each of them. -/
theorem readDocument?_sections {sections : List Section} (hdistinct : (sections.map Section.table).Nodup) :
    readDocument? (sections.flatMap Section.text) = some (sections.map Section.entry) := by
  have hmark : (sections.flatMap Section.text).head? ≠ some byteOrderMark := by
    cases sections with
    | nil => exact nofun
    | cons s sections =>
      rw [List.flatMap_cons, Section.text, writeTable]
      exact fun hhead => absurd (Option.some.inj hhead) (by decide)
  have hreturn : '\r' ∉ sections.flatMap Section.text := by
    simp [List.mem_flatMap, noReturn_text]
  simp only [readDocument?, hmark, ↓reduceIte, unifyLineEnds_of_noReturn hreturn, readStatements?_sections,
    Option.bind_eq_bind, Option.bind_some, buildTable?_sections hdistinct]

end OrderlyExit.Toml
