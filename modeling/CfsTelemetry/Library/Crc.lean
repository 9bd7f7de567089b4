import Mathlib.Data.UInt

/-!
# Cyclic redundancy checks

The register form of a CRC that folds each byte in from its most significant bit: the byte is
added to the high half of the register, and eight shifts follow, each folding the polynomial in
when a one falls out at the top. The polynomial and the initial register are parameters.

Whatever the register is and however it takes data: when neither a register nor a datum can be
mistaken for another one, a change of one datum shows at the end; and when taking is linear, the
end tells the difference of two lists alone.
-/
namespace CfsTelemetry.Crc

/-- One shift of the register. -/
def shift (polynomial crc : UInt16) : UInt16 :=
  if crc &&& 0x8000 ≠ 0 then (crc <<< 1) ^^^ polynomial else crc <<< 1

/-- Fold one byte into the register. -/
def feed (polynomial crc : UInt16) (byte : UInt8) : UInt16 :=
  Nat.repeat (shift polynomial) 8 (crc ^^^ (byte.toUInt16 <<< 8))

/-- The register after the bytes, from an initial register. -/
def checksum (polynomial initial : UInt16) (bytes : List UInt8) : UInt16 :=
  bytes.foldl (feed polynomial) initial

variable {Register Datum : Type} {take : Register → Datum → Register}

/-- Two registers stay apart over the same data when each datum keeps them apart. -/
theorem foldl_injective (keeps : ∀ datum, Function.Injective fun register => take register datum)
    (data : List Datum) : Function.Injective fun register => data.foldl take register := by
  induction data with
  | nil => exact fun _ _ same => same
  | cons datum rest previous => exact fun _ _ same => keeps datum (previous same)

/-- A change of one datum shows in the register at the end. -/
theorem foldl_set_ne (keeps : ∀ datum, Function.Injective fun register => take register datum)
    (tells : ∀ register, Function.Injective (take register)) {data : List Datum} {place : Nat}
    {datum : Datum} (inside : place < data.length) (other : data[place]? ≠ some datum)
    (register : Register) :
    (data.set place datum).foldl take register ≠ data.foldl take register := by
  induction data generalizing place register with
  | nil => exact absurd inside (Nat.not_lt_zero _)
  | cons first rest previous =>
    cases place with
    | zero =>
      intro same
      have byDatum := tells register (foldl_injective keeps rest same)
      exact other (congrArg some byDatum.symm)
    | succ place =>
      rw [List.length_cons] at inside
      exact previous (Nat.lt_of_succ_lt_succ inside) other (take register first)

/-- When taking is linear, the sum of two lists is taken to the sum of the registers. -/
theorem foldl_zipWith {add : Register → Register → Register} {addDatum : Datum → Datum → Datum}
    (linear : ∀ register register' datum datum', take (add register register')
      (addDatum datum datum') = add (take register datum) (take register' datum'))
    {data data' : List Datum} (length : data.length = data'.length)
    (register register' : Register) :
    (List.zipWith addDatum data data').foldl take (add register register') =
      add (data.foldl take register) (data'.foldl take register') := by
  induction data generalizing data' register register' with
  | nil =>
    cases data' with
    | nil => rfl
    | cons => exact absurd length (Nat.succ_ne_zero _).symm
  | cons first rest previous =>
    cases data' with
    | nil => exact absurd length (Nat.succ_ne_zero _)
    | cons first' rest' =>
      rw [List.zipWith_cons_cons, List.foldl_cons, linear]
      exact previous (Nat.succ.inj length) _ _

end CfsTelemetry.Crc
