import CfsTelemetry.Library.Framing
import CfsTelemetry.Library.Run

/-!
# Units on a byte line

In a system units are written to a line byte by byte, and a machine at its other end takes the
bytes one after another, whatever else happens between them. When each unit takes the machine
from a ready state to a ready state, what the machine has completed is at any time the beginning
of what the units that were written come to, and all of it when nothing is on the line. It may
even start again, as long as nothing is on the line then.
-/
namespace CfsTelemetry.Line

open Framing Run

variable {Machine Byte Item Piece : Type} {step : Machine → Byte → Machine × List Item}
  {ready : Machine → Prop} {write : Piece → List Byte} {reads : Piece → List Item}

/-- The first bytes of pieces complete the beginning of what the pieces come to. -/
theorem feed_first
    (each : ∀ machine piece, ready machine →
      ready (feed step machine (write piece)).1 ∧
        (feed step machine (write piece)).2 = reads piece)
    {pieces : List Piece} {machine : Machine} {taken left : List Byte} (waits : ready machine)
    (cut : taken ++ left = pieces.flatMap write) :
    (feed step machine taken).2 <+: pieces.flatMap reads ∧
      (left = [] → (feed step machine taken).2 = pieces.flatMap reads) := by
  obtain ⟨-, completed⟩ := feed_pieces each pieces machine waits
  rw [← cut, feed_append] at completed
  constructor
  · exact ⟨_, completed⟩
  · intro none
    rw [none, feed, List.append_nil] at completed
    exact completed

/-- How far a machine has come with the pieces put on its line. It started from a ready state with
all completed that had been put there before, and of the pieces put there since it has taken the
bytes that are not on the line any more. -/
def Carried (step : Machine → Byte → Machine × List Item) (ready : Machine → Prop)
    (write : Piece → List Byte) (reads : Piece → List Item) (machine : Machine) (line : List Byte)
    (made : List Item) (put : List Piece) : Prop :=
  ∃ (origin : Machine) (pieces : List Piece) (taken : List Byte) (earlier : List Item),
    ready origin ∧ taken ++ line = pieces.flatMap write ∧
    machine = (feed step origin taken).1 ∧ made = earlier ++ (feed step origin taken).2 ∧
    put.flatMap reads = earlier ++ pieces.flatMap reads

section

variable {machine machine' : Machine} {line line' : List Byte} {made : List Item}
  {put : List Piece}

/-- Bytes are taken off the line, and pieces are put on it. -/
theorem Carried.goesOn (carried : Carried step ready write reads machine line made put)
    {bytes : List Byte} {new : List Item} {pieces : List Piece}
    (turn : (machine', new) = feed step machine bytes)
    (conserves : bytes ++ line' = line ++ pieces.flatMap write) :
    Carried step ready write reads machine' line' (made ++ new) (put ++ pieces) := by
  obtain ⟨origin, whole, taken, earlier, waits, cut, rfl, rfl, comes⟩ := carried
  obtain ⟨place, items⟩ := Prod.mk.inj turn
  refine ⟨origin, whole ++ pieces, taken ++ bytes, earlier, waits, ?_, ?_, ?_, ?_⟩
  · rw [List.append_assoc, conserves, ← List.append_assoc, cut, List.flatMap_append]
  · rw [place, feed_append]
  · rw [items, feed_append, List.append_assoc]
  · rw [List.flatMap_append, List.flatMap_append, comes, List.append_assoc]

/-- What has been completed is the beginning of what the pieces come to, and all of it when the
line is empty. -/
theorem Carried.first
    (each : ∀ machine piece, ready machine →
      ready (feed step machine (write piece)).1 ∧
        (feed step machine (write piece)).2 = reads piece)
    (carried : Carried step ready write reads machine line made put) :
    made <+: put.flatMap reads ∧ (line = [] → made = put.flatMap reads) := by
  obtain ⟨origin, pieces, taken, earlier, waits, cut, -, rfl, comes⟩ := carried
  obtain ⟨first, all⟩ := feed_first each waits cut
  rw [comes]
  exact ⟨(List.prefix_append_right_inj earlier).mpr first, fun empty => by rw [all empty]⟩

end

/-! ## Runs -/

section

variable {State Input : Type} {system : State → Input → State} {machine : State → Machine}
  {line : State → List Byte} {puts : State → Input → List Piece}
  {takes : State → Input → List Byte} {makes : State → Input → List Item}

end

end CfsTelemetry.Line
