import OrderlyExit.Proofs.Marker.Grammar

/-! What the reader of markers says about any line. It drops the line ends behind the text and nothing else. What is
    left spells a marker, or it is a stem with something behind it that is no process id, or it is unknown, and there
    is a complaint about exactly the texts without a spelling. -/

namespace OrderlyExit
namespace Marker
open Decimal

/-! ### The text of a line -/

theorem isLineEnd_iff {c : Char} : isLineEnd c = true ↔ c = '\r' ∨ c = '\n' := by
  simp only [isLineEnd, Bool.or_eq_true, beq_iff_eq]

/-- `t` is what is left of a line without the whole run of line ends behind it. -/
structure IsBody (cs t : List Char) : Prop where
  split : ∃ ends, cs = t ++ ends ∧ ∀ c ∈ ends, c = '\r' ∨ c = '\n'
  last : ∀ c, t.getLast? = some c → ¬(c = '\r' ∨ c = '\n')

theorem isBody_body (cs : List Char) : IsBody cs (body cs) where
  split := by
    refine ⟨(cs.reverse.takeWhile isLineEnd).reverse, ?_, fun c hc => ?_⟩
    · rw [body, ← List.reverse_append, List.takeWhile_append_dropWhile, List.reverse_reverse]
    · exact isLineEnd_iff.mp (List.mem_takeWhile_imp (List.mem_reverse.mp hc))
  last c h := by
    rw [body, List.getLast?_reverse] at h
    have hfirst := List.head?_dropWhile_not isLineEnd cs.reverse
    simp only [h] at hfirst
    rw [← isLineEnd_iff, hfirst]
    exact Bool.false_ne_true

/-! ### Process ids -/

/-- What stands in the place of a process id is none: nothing at all, something with a character that is no digit,
or a number that does not fit into 32 bits. -/
inductive NoPid : List Char → Prop
  | empty : NoPid []
  | foreign {value : List Char} {c : Char} (hc : c ∈ value) (h : c.isDigit = false) : NoPid value
  | tooLarge {value : List Char} {n : Nat} (hn : Numeral value n) (h : 2 ^ 32 ≤ n) : NoPid value

theorem readPid?_eq_some_iff {value : List Char} {pid : UInt32} :
    readPid? value = some pid ↔ Numeral value pid.toNat := readPid?_eq_some.trans value?_eq_some_iff

theorem readPid?_eq_none_iff {value : List Char} : readPid? value = none ↔ NoPid value := by
  constructor
  · intro h
    unfold readPid? at h
    split at h
    · rename_i n hn
      split at h
      · cases h
      · rename_i hlarge
        exact .tooLarge (value?_eq_some_iff.mp hn) (Nat.not_lt.mp hlarge)
    · rename_i hnone
      rcases value?_eq_none_iff.mp hnone with rfl | ⟨c, hc, hdigit⟩
      · exact .empty
      · exact .foreign hc hdigit
  · intro h
    refine Option.eq_none_iff_forall_ne_some.mpr fun pid hpid => ?_
    have hnumeral := readPid?_eq_some_iff.mp hpid
    cases h with
    | empty => exact hnumeral.ne_nil rfl
    | foreign hc h => exact Bool.false_ne_true (h.symm.trans (hnumeral.isDigit _ hc))
    | tooLarge hn h =>
      -- one run of digits denotes one number, and that of a process id is small
      obtain rfl := hn.value.symm.trans hnumeral.value
      exact absurd pid.toNat_lt_size (Nat.not_lt.mpr h)

theorem withPid_eq_error {make : UInt32 → Marker} {line value : List Char} {e : MarkerError} :
    withPid make line value = .error e ↔
      NoPid value ∧ e = .invalidPid (String.ofList line) (String.ofList value) := by
  rw [← readPid?_eq_none_iff]
  unfold withPid
  cases readPid? value <;> simp [eq_comm]

/-! ### Complaints -/

/-- The texts that are no marker, with the complaint about each. -/
inductive Misspells : List Char → MarkerError → Prop
  | started {value : List Char} (h : NoPid value) : Misspells (startedStem ++ value)
      (.invalidPid (String.ofList (startedStem ++ value)) (String.ofList value))
  | pid {value : List Char} (h : NoPid value) : Misspells (pidStem ++ value)
      (.invalidPid (String.ofList (pidStem ++ value)) (String.ofList value))
  | unknown {line : List Char} (start : line ≠ startText) (complete : line ≠ completeText)
      (started : ¬startedStem <+: line) (pid : ¬pidStem <+: line) : Misspells line (.unknown (String.ofList line))

theorem isPrefixOf?_eq_none_iff {stem line : List Char} : stem.isPrefixOf? line = none ↔ ¬stem <+: line := by
  rw [Option.eq_none_iff_forall_ne_some]
  exact ⟨fun h ⟨value, hvalue⟩ => h value (List.isPrefixOf?_eq_some_iff_append_eq.mpr hvalue),
    fun h value hvalue => h ⟨value, List.append_eq_of_isPrefixOf?_eq_some hvalue⟩⟩

theorem parseBody_of_misspells {line : List Char} {e : MarkerError} (h : Misspells line e) :
    parseBody line = .error e := by
  cases h with
  | @started value h => exact (parseBody_startedStem value).trans (withPid_eq_error.mpr ⟨h, rfl⟩)
  | @pid value h => exact (parseBody_pidStem value).trans (withPid_eq_error.mpr ⟨h, rfl⟩)
  | unknown start complete started pid =>
    rw [parseBody, if_neg start, if_neg complete, isPrefixOf?_eq_none_iff.mpr started,
      isPrefixOf?_eq_none_iff.mpr pid]

theorem misspells_of_parseBody {line : List Char} {e : MarkerError} (h : parseBody line = .error e) :
    Misspells line e := by
  unfold parseBody at h
  split at h
  · cases h
  · rename_i start
    split at h
    · cases h
    · rename_i complete
      split at h
      · rename_i value hstem
        obtain ⟨hvalue, rfl⟩ := withPid_eq_error.mp h
        exact List.append_eq_of_isPrefixOf?_eq_some hstem ▸ .started hvalue
      · rename_i started
        split at h
        · rename_i value hstem
          obtain ⟨hvalue, rfl⟩ := withPid_eq_error.mp h
          exact List.append_eq_of_isPrefixOf?_eq_some hstem ▸ .pid hvalue
        · rename_i pid
          cases h
          exact .unknown start complete (isPrefixOf?_eq_none_iff.mp started) (isPrefixOf?_eq_none_iff.mp pid)

theorem parseBody_eq_error {line : List Char} {e : MarkerError} : parseBody line = .error e ↔ Misspells line e :=
  ⟨misspells_of_parseBody, parseBody_of_misspells⟩

/-! ### Every line -/

theorem spells_shutdownStart_iff {t : List Char} : Spells t .shutdownStart ↔ t = startText :=
  ⟨fun h => by cases h; rfl, fun h => h ▸ .start⟩

theorem spells_shutdownComplete_iff {t : List Char} : Spells t .shutdownComplete ↔ t = completeText :=
  ⟨fun h => by cases h; rfl, fun h => h ▸ .complete⟩

theorem spells_processStarted_iff {t : List Char} {pid : UInt32} :
    Spells t (.processStarted pid) ↔ ∃ value, t = startedStem ++ value ∧ Numeral value pid.toNat := by
  simp only [← readPid?_eq_some_iff]
  constructor
  · rintro (_ | _ | ⟨hvalue⟩)
    exact ⟨_, rfl, hvalue⟩
  · rintro ⟨value, rfl, hvalue⟩
    exact .started hvalue

theorem spells_shutdownPid_iff {t : List Char} {pid : UInt32} :
    Spells t (.shutdownPid pid) ↔ ∃ value, t = pidStem ++ value ∧ Numeral value pid.toNat := by
  simp only [← readPid?_eq_some_iff]
  constructor
  · rintro (_ | _ | _ | ⟨hvalue⟩)
    exact ⟨_, rfl, hvalue⟩
  · rintro ⟨value, rfl, hvalue⟩
    exact .pid hvalue

theorem misspells_invalidPid_iff {t : List Char} {line value : String} :
    Misspells t (.invalidPid line value) ↔ line = String.ofList t ∧ NoPid value.toList ∧
      (t = startedStem ++ value.toList ∨ t = pidStem ++ value.toList) := by
  constructor
  · intro h
    cases h with
    | started h =>
      rw [String.toList_ofList]
      exact ⟨rfl, h, Or.inl rfl⟩
    | pid h =>
      rw [String.toList_ofList]
      exact ⟨rfl, h, Or.inr rfl⟩
  · rintro ⟨rfl, h, ht⟩
    obtain ⟨cs, rfl⟩ : ∃ cs, String.ofList cs = value := ⟨_, String.ofList_toList⟩
    rw [String.toList_ofList] at h ht
    rcases ht with rfl | rfl
    · exact .started h
    · exact .pid h

theorem misspells_unknown_iff {t : List Char} {line : String} :
    Misspells t (.unknown line) ↔ line = String.ofList t ∧ t ≠ startText ∧ t ≠ completeText ∧
      ¬startedStem <+: t ∧ ¬pidStem <+: t := by
  constructor
  · rintro (_ | _ | ⟨start, complete, started, pid⟩)
    exact ⟨rfl, start, complete, started, pid⟩
  · rintro ⟨rfl, start, complete, started, pid⟩
    exact .unknown start complete started pid

theorem parse_eq_ok {line : String} {m : Marker} : parse line = .ok m ↔ Spells (body line.toList) m := parseBody_eq_ok

theorem parse_eq_error {line : String} {e : MarkerError} :
    parse line = .error e ↔ Misspells (body line.toList) e := parseBody_eq_error

/-- What the reader says about a line, whatever the line is. Once the run of line ends behind it is gone, a line is one
of the two fixed texts, or a stem and the numeral of a number below `2 ^ 32`, leading zeros or not, and then it is the
marker with that number; or it is a stem and anything else, which the complaint quotes with the line; or it is
unknown, which the complaint quotes as well. -/
theorem parse_eq_iff (line : String) :
    let t := body line.toList
    IsBody line.toList t ∧
    (parse line = .ok .shutdownStart ↔ t = "GRACEFUL_SHUTDOWN_START".toList) ∧
    (parse line = .ok .shutdownComplete ↔ t = "GRACEFUL_SHUTDOWN_COMPLETE".toList) ∧
    (∀ pid, parse line = .ok (.processStarted pid) ↔
      ∃ value, t = "PROCESS_STARTED_PID=".toList ++ value ∧ Numeral value pid.toNat) ∧
    (∀ pid, parse line = .ok (.shutdownPid pid) ↔
      ∃ value, t = "GRACEFUL_SHUTDOWN_PID=".toList ++ value ∧ Numeral value pid.toNat) ∧
    (∀ quoted value, parse line = .error (.invalidPid quoted value) ↔ quoted = String.ofList t ∧ NoPid value.toList ∧
      (t = "PROCESS_STARTED_PID=".toList ++ value.toList ∨ t = "GRACEFUL_SHUTDOWN_PID=".toList ++ value.toList)) ∧
    (∀ quoted, parse line = .error (.unknown quoted) ↔ quoted = String.ofList t ∧
      t ≠ "GRACEFUL_SHUTDOWN_START".toList ∧ t ≠ "GRACEFUL_SHUTDOWN_COMPLETE".toList ∧
      ¬"PROCESS_STARTED_PID=".toList <+: t ∧ ¬"GRACEFUL_SHUTDOWN_PID=".toList <+: t) := by
  intro t
  refine ⟨isBody_body _, ?_, ?_, fun pid => ?_, fun pid => ?_, fun quoted value => ?_, fun quoted => ?_⟩
  · exact parse_eq_ok.trans spells_shutdownStart_iff
  · exact parse_eq_ok.trans spells_shutdownComplete_iff
  · exact parse_eq_ok.trans spells_processStarted_iff
  · exact parse_eq_ok.trans spells_shutdownPid_iff
  · exact parse_eq_error.trans misspells_invalidPid_iff
  · exact parse_eq_error.trans misspells_unknown_iff

end Marker
end OrderlyExit
