/-
VoiceDialogue/Decimal/Layout.lean

How a decimal is laid out: which sizes are written positionally, and how an
exponent looks where they are not.  The decisions of one format are one
`Layout` value.
-/
import VoiceDialogue.Decimal.Shortest

namespace VoiceDialogue

/-- The decisions of a number format. -/
structure Layout where
  /-- The least power of ten of a leading digit that is written positionally. -/
  lowest : Int
  /-- The greatest such power. -/
  highest : Int
  /-- What stands before an exponent that is not negative. -/
  exponentSign : List Char

namespace Decimal

/-- The digits of the coefficient. -/
def digits (d : Decimal) : List Char := Nat.toDigits 10 d.coefficient

/-- The power of ten of the leading digit. -/
def magnitude (d : Decimal) : Int := d.exponent + d.digits.length - 1

/-- Positional notation; there is always a fraction. -/
def positional (d : Decimal) : List Char :=
  if 0 ≤ d.exponent then
    d.digits ++ List.replicate d.exponent.toNat '0' ++ ['.', '0']
  else if 0 ≤ d.magnitude then
    let whole := d.magnitude.toNat + 1
    d.digits.take whole ++ '.' :: d.digits.drop whole
  else
    '0' :: '.' :: List.replicate (-d.magnitude - 1).toNat '0' ++ d.digits

/-- Scientific notation; a single digit has no fraction. -/
def scientific (d : Decimal) (sign : List Char) : List Char :=
  let mantissa :=
    match d.digits with
    | [] => []
    | [c] => [c]
    | c :: rest => c :: '.' :: rest
  let mark := if d.magnitude < 0 then ['-'] else sign
  mantissa ++ 'e' :: mark ++ Nat.toDigits 10 d.magnitude.natAbs

end Decimal

/-- The text of a decimal under a layout. -/
def Layout.write (l : Layout) (d : Decimal) : List Char :=
  if l.lowest ≤ d.magnitude ∧ d.magnitude ≤ l.highest then d.positional
  else d.scientific l.exponentSign

end VoiceDialogue
