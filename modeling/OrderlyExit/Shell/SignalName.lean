import OrderlyExit.Shell.Token
import OrderlyExit.Signal
import OrderlyExit.Text.ByteText
import OrderlyExit.Text.Decimal

/-!
What signals are called in a shell, and what is said when one has ended a command.

Number zero stands for the end of the shell itself. The plain form has no name for number 16, and none but
the short names; the extended form also takes names with `SIG` in front.
-/

namespace OrderlyExit.Shell.SignalName

/-- The number after the last one that names a signal. -/
def limit : Nat := 65

/-- The first of the signals for free use. -/
def firstFree : Nat := 34

/-- How many of these are counted from the first one. -/
def countedUp : Nat := 16

/-- The numbers of what the extended form can act at besides signals, by name. -/
def occasions : List (ByteText × Nat) := [("DEBUG".toList, 65), ("ERR".toList, 66), ("RETURN".toList, 67)]

/-- The occasion of a command that is about to run. -/
def beforeCommand : Nat := 65

/-- The occasion of a failure. -/
def failure : Nat := 66

/-- The occasion of the end of a function or a file. -/
def comingBack : Nat := 67

/-- The letter of the option under which functions and copies of the shell keep the action at an occasion. -/
def keepingOption (occasion : Nat) : Char := if occasion = failure then 'E' else 'T'

/-- The short name of a signal; a number without a name stands for itself. -/
def name (d : Dialect) (n : Nat) : ByteText :=
  if n = 0 then "EXIT".toList
  else if n = 16 ∧ d = .plain then Decimal.digits n
  else
    match signalName? n with
    | some full => full.toList.drop 3
    | none =>
      if n < firstFree ∨ limit ≤ n then
        match occasions.find? (·.2 = n) with
        | some (name, _) => name
        | none => Decimal.digits n
      else if n = firstFree then "RTMIN".toList
      else if n < firstFree + countedUp then "RTMIN+".toList ++ Decimal.digits (n - firstFree)
      else if n + 1 < limit then "RTMAX-".toList ++ Decimal.digits (limit - 1 - n)
      else "RTMAX".toList

/-- The name of a signal in listings. -/
def shown (d : Dialect) (n : Nat) : ByteText :=
  if d = .plain ∨ n = 0 ∨ limit ≤ n ∨ name d n = Decimal.digits n then name d n else "SIG".toList ++ name d n

/-- The number that a text means: a number, or a name in any case. -/
def number? (d : Dialect) (text : ByteText) : Option Nat :=
  match Decimal.value? text with
  | some n => if n < limit then some n else none
  | none =>
    let upper := text.map Char.toUpper
    let bare := if d = .extended ∧ "SIG".toList.isPrefixOf upper then upper.drop 3 else upper
    match (List.range limit).find? (fun n => name d n = bare) with
    | some n => if n = 0 ∧ bare ≠ upper then none else some n
    | none => if d = .extended then occasions.lookup bare else none

/-- What the signals 1 to 31 mean, in words. -/
def meanings : List String :=
  ["Hangup", "Interrupt", "Quit", "Illegal instruction", "Trace/breakpoint trap", "Aborted", "Bus error",
   "Floating point exception", "Killed", "User defined signal 1", "Segmentation fault", "User defined signal 2",
   "Broken pipe", "Alarm clock", "Terminated", "Stack fault", "Child exited", "Continued", "Stopped (signal)",
   "Stopped", "Stopped (tty input)", "Stopped (tty output)", "Urgent I/O condition", "CPU time limit exceeded",
   "File size limit exceeded", "Virtual timer expired", "Profiling timer expired", "Window changed", "I/O possible",
   "Power failure", "Bad system call"]

/-- What a signal means, in words. -/
def meaning (n : Nat) : ByteText :=
  match if n = 0 then none else meanings[n - 1]? with
  | some text => text.toList
  | none =>
    if firstFree ≤ n ∧ n < limit then "Real-time signal ".toList ++ Decimal.digits (n - firstFree)
    else "Unknown signal ".toList ++ Decimal.digits n

end OrderlyExit.Shell.SignalName
