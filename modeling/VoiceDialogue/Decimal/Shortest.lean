/-
VoiceDialogue/Decimal/Shortest.lean

The shortest decimal that reads back as a given double.

A double stands for every real number that rounds to it, an interval around
its exact value `m * 2^q`.  In quarters of the last place the value is `4m`,
the upper end `4m + 2`, and the lower end `4m - 2`, or `4m - 1` where the
doubles below lie twice as close.  The ends belong to the interval exactly
when `m` is even.

Decimals with last digit at `10^k` form a grid.  If any point of the grid
lies in the interval, so does one of the two neighbours of the value
(`Binary.nearest?`); hence the coarsest grid with such a neighbour
(`Binary.shortest`) gives the fewest digits, and of two neighbours the nearer
one is taken, the even one where both are equally near.

All arithmetic is on natural numbers, so nothing is rounded on the way.
-/

namespace VoiceDialogue

/-- A positive number `significand * 2^exponent` of a binary format. -/
structure Binary where
  significand : Nat
  exponent : Int
  /-- Whether the next smaller number of the format is only half as far away
  as the next larger one. -/
  closeBelow : Bool
deriving DecidableEq

/-- The number `coefficient * 10^exponent`. -/
structure Decimal where
  coefficient : Nat
  exponent : Int
deriving DecidableEq

namespace Binary

/-- The size of a double other than zero, an infinity or a NaN. -/
def ofFloat (x : Float) : Binary :=
  let bits := x.toBits.toNat
  let field : Nat := bits / Nat.pow 2 52 % Nat.pow 2 11
  let fraction : Nat := bits % Nat.pow 2 52
  if field = 0 then ⟨fraction, -1074, false⟩
  else ⟨Nat.pow 2 52 + fraction, Int.ofNat field - 1075, decide (fraction = 0) && decide (1 < field)⟩

/-- A quarter of the last place, in steps of the grid at `10^k`, as a
fraction: numerator and denominator. -/
def quarter (b : Binary) (k : Int) : Nat × Nat :=
  (Nat.pow 2 (b.exponent - 2).toNat * Nat.pow 10 (-k).toNat,
    Nat.pow 2 (2 - b.exponent).toNat * Nat.pow 10 k.toNat)

/-- Whether the grid point `c * 10^k` rounds to the number. -/
def covers (b : Binary) (k : Int) (c : Nat) : Bool :=
  let (num, den) := b.quarter k
  let low := (4 * b.significand - if b.closeBelow then 1 else 2) * num
  let high := (4 * b.significand + 2) * num
  if b.significand % 2 = 0 then low ≤ c * den ∧ c * den ≤ high
  else low < c * den ∧ c * den < high

/-- The neighbour of the number on the grid at `10^k` that rounds to it. -/
def nearest? (b : Binary) (k : Int) : Option Nat :=
  let (num, den) := b.quarter k
  let value := 4 * b.significand * num
  let below := value / den
  let above := below + 1
  match b.covers k below, b.covers k above with
  | true, true =>
      let down := value - below * den
      let up := above * den - value
      if down < up ∨ (down = up ∧ below % 2 = 0) then some below else some above
  | true, false => some below
  | false, true => some above
  | false, false => none

/-- The first hit among the `n + 1` grids at `10^k`, `10^(k-1)`, and so on; on
the last of them the digits of the number are cut off. -/
def search (b : Binary) (k : Int) : Nat → Decimal
  | 0 => let (num, den) := b.quarter k; ⟨4 * b.significand * num / den, k⟩
  | n + 1 =>
      match b.nearest? k with
      | some c => ⟨c, k⟩
      | none => b.search (k - 1) n

/-- The shortest decimal that reads back as the number.  No double reaches
`10^309`, and every one has a decimal on the grid at `10^-324`. -/
def shortest (b : Binary) : Decimal := b.search 308 633

end Binary

end VoiceDialogue
