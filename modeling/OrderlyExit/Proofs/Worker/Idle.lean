import OrderlyExit.Worker.Idle

/-! The idle loop ends at the very instant of the request, whatever its period and its choices. -/

namespace OrderlyExit.Idle

theorem instant_le {request now due : Nat} (h : now ≤ request) : instant request now due ≤ request := by
  unfold instant
  omega

/-- A round that takes no tick has come to the request. -/
theorem instant_eq_of_not_takesTick {request now due : Nat} {tickFirst : Bool} (h : now ≤ request)
    (hn : ¬takesTick request now due tickFirst) : instant request now due = request := by
  unfold takesTick instant at *
  omega

theorem loop_elapsed {tick request : Nat} (positive : 0 < tick) (tickFirst : Nat → Bool) (round now due : Nat)
    (h : now ≤ request) : (loop tick request positive tickFirst round now due).elapsed = request := by
  fun_induction loop tick request positive tickFirst round now due with
  | case1 round now due next htick ih => exact ih (instant_le h)
  | case2 round now due next hno => exact instant_eq_of_not_takesTick h hno

theorem run_elapsed (tick request : Nat) (positive : 0 < tick) (tickFirst : Nat → Bool) :
    (run tick request positive tickFirst).elapsed = request :=
  loop_elapsed positive tickFirst 0 0 0 (Nat.zero_le _)

end OrderlyExit.Idle
