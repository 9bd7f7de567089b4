import Mathlib.Data.Nat.ModEq

/-!
# Half windows on a cycle

Numbers on a cycle are compared by how far one is ahead of another, and a number is fresh when it
is ahead by less than half of the cycle. Along a path of numbers, the number at its start is not
fresh again before more than half of the cycle has been travelled.
-/
namespace CfsTelemetry.Window

variable {period half start : Nat}

/-- How far a number is ahead of another on a cycle. -/
def ahead (period start next : Nat) : Nat := (next + (period - start % period)) % period

/-- A number is ahead of another by less than half of the cycle. -/
def Fresh (half start next : Nat) : Prop :=
  0 < ahead (2 * half) start next ∧ ahead (2 * half) start next < half

/-- How far a path of numbers goes, step by step. -/
def travelled (period : Nat) : Nat → List Nat → Nat
  | _, [] => 0
  | start, next :: rest => ahead period start next + travelled period next rest

/-- A step leads to the number that it goes to. -/
theorem add_ahead (positive : 0 < period) (start next : Nat) :
    (start + ahead period start next) % period = next % period := by
  have bound : start % period < period := Nat.mod_lt _ positive
  have whole : start % period + (next + (period - start % period)) = next + period := by omega
  calc
    (start + ahead period start next) % period
        = (start % period + (next + (period - start % period))) % period := by
          rw [ahead, Nat.add_mod_mod, Nat.mod_add_mod]
    _ = next % period := by rw [whole, Nat.add_mod_right]

/-- A path leads to its last number. -/
theorem add_travelled (positive : 0 < period) (path : List Nat) :
    (start + travelled period start path) % period = path.getLastD start % period := by
  induction path generalizing start with
  | nil => rfl
  | cons next rest previous =>
    have onward := @previous next
    have first := add_ahead positive start next
    rw [travelled, ← Nat.add_assoc, Nat.add_mod, first, ← Nat.add_mod, onward,
      List.getLastD_cons]

/-- A number that lies ahead by a distance is behind by the rest of the cycle. -/
theorem ahead_back {distance last : Nat} (positive : 0 < distance) (short : distance ≤ period)
    (leads : (start + distance) % period = last % period) :
    ahead period last start = (period - distance) % period := by
  have bound : last % period < period := Nat.mod_lt _ (by omega)
  have startBound : start % period < period := Nat.mod_lt _ (by omega)
  have place : (start % period + distance) % period = last % period := by
    rw [← leads, Nat.mod_add_mod]
  have reduce : ahead period last start =
      (start % period + (period - last % period)) % period := by
    rw [ahead, Nat.mod_add_mod]
  rw [reduce, ← place]
  by_cases within : start % period + distance < period
  · rw [Nat.mod_eq_of_lt within]
    congr 1
    omega
  · have wrapped : (start % period + distance) % period = start % period + distance - period := by
      rw [Nat.mod_eq_sub_mod (by omega), Nat.mod_eq_of_lt (by omega)]
    have turn : start % period + (period - (start % period + distance - period)) =
        period - distance + period := by omega
    rw [wrapped, turn, Nat.add_mod_right]

/-- The start of a path is fresh again only after more than half of the cycle. -/
theorem half_lt_travelled {path : List Nat} (fresh : Fresh half (path.getLastD start) start) :
    half < travelled (2 * half) start path := by
  obtain ⟨left, near⟩ := fresh
  have positive : 0 < 2 * half := by omega
  have leads := @add_travelled (2 * half) start positive path
  by_contra short
  by_cases still : travelled (2 * half) start path = 0
  · rw [still, Nat.add_zero] at leads
    have bound : start % (2 * half) < 2 * half := Nat.mod_lt _ positive
    have none : ahead (2 * half) (path.getLastD start) start = 0 := by
      have whole : start % (2 * half) + (2 * half - start % (2 * half)) = 2 * half := by omega
      rw [ahead, ← leads, ← Nat.mod_add_mod, whole, Nat.mod_self]
    omega
  · have back := ahead_back (by omega) (by omega) leads
    have rest : 2 * half - travelled (2 * half) start path < 2 * half := by omega
    rw [back, Nat.mod_eq_of_lt rest] at near
    omega

end CfsTelemetry.Window
