import Mathlib.Data.Nat.ModEq
import Mathlib.Data.UInt

/-!
# Clocks that wrap

A clock shows the time modulo a period. What it shows at two times is in the order of the times
exactly when the clock does not wrap on the way from one to the other, whole periods apart.
-/
namespace CfsTelemetry.Clock

variable {period start stop : Nat}

/-- The clock does not wrap between two times, whole periods apart. -/
def Steady (period start stop : Nat) : Prop := start % period + (stop - start) % period < period

instance : Decidable (Steady period start stop) := inferInstanceAs (Decidable (_ < _))

/-- What the clock shows at the later time, by the time that has passed. -/
theorem mod_later (ordered : start ≤ stop) :
    stop % period = (start % period + (stop - start) % period) % period := by
  rw [← Nat.add_mod]
  congr 1
  omega

/-- The clock shows no less at the later time exactly when it does not wrap in between. -/
theorem mod_le_mod_iff (positive : 0 < period) (ordered : start ≤ stop) :
    start % period ≤ stop % period ↔ Steady period start stop := by
  have startBound : start % period < period := Nat.mod_lt _ positive
  have gapBound : (stop - start) % period < period := Nat.mod_lt _ positive
  rw [mod_later ordered]
  unfold Steady
  constructor
  · intro later
    by_contra wraps
    have rest : (start % period + (stop - start) % period) % period =
        start % period + (stop - start) % period - period := by
      rw [Nat.mod_eq_sub_mod (by omega), Nat.mod_eq_of_lt (by omega)]
    omega
  · intro steady
    rw [Nat.mod_eq_of_lt steady]
    omega

/-- Within a period, the clock shows less at the earlier time exactly when it does not wrap in
between. -/
theorem mod_lt_mod_iff (before : start < stop) (close : stop - start < period) :
    start % period < stop % period ↔ Steady period start stop := by
  have positive : 0 < period := by omega
  rw [← mod_le_mod_iff positive (Nat.le_of_lt before)]
  have differ : start % period ≠ stop % period := by
    intro same
    have multiple : (stop - start) % period = 0 := Nat.sub_mod_eq_zero_of_mod_eq same.symm
    rw [Nat.mod_eq_of_lt close] at multiple
    omega
  omega

end CfsTelemetry.Clock
