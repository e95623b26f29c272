/-
VoiceDialogue/Json/Scan.lean

The lexical part of reading JSON: blanks, words, strings and numbers.

A scanner takes the text that is left and gives a value and the text after
it.  Each one is recursive on the text itself, so no scanner needs a bound,
and each one says at the first wrong character which kind of fault it is.
-/
import VoiceDialogue.Json.Fault

namespace VoiceDialogue

namespace Json

/-- The result of reading the front of a text: a value and the rest. -/
abbrev Scan (α : Type) := Except Fault (α × List Char)

/-- Goes on with the value and the rest; a fault ends the reading. -/
def Scan.next {α β : Type} (s : Scan α) (k : α → List Char → Scan β) : Scan β :=
  match s with
  | .error f => .error f
  | .ok (a, rest) => k a rest

/-- Changes the value and keeps the rest. -/
def Scan.mapValue {α β : Type} (f : α → β) (s : Scan α) : Scan β :=
  s.next fun a rest => .ok (f a, rest)

section

variable {α β : Type}

@[simp] theorem Scan.next_ok (a : α) (rest : List Char) (k : α → List Char → Scan β) :
    Scan.next (.ok (a, rest)) k = k a rest := rfl

@[simp] theorem Scan.next_error (f : Fault) (k : α → List Char → Scan β) :
    Scan.next (.error f) k = .error f := rfl

@[simp] theorem Scan.mapValue_ok (g : α → β) (a : α) (rest : List Char) :
    Scan.mapValue g (.ok (a, rest)) = .ok (g a, rest) := rfl

@[simp] theorem Scan.mapValue_error (g : α → β) (f : Fault) :
    Scan.mapValue g (.error f) = .error f := rfl

end

/-! ### Blanks and words -/

/-- The four blanks of JSON. -/
def isBlank (c : Char) : Bool := c = ' ' || c = '\t' || c = '\n' || c = '\r'

/-- The text from its first character that is no blank. -/
def skipBlank (cs : List Char) : List Char := cs.dropWhile isBlank

/-- Reads the given characters. -/
def scanWord : List Char → List Char → Scan Unit
  | [], rest => .ok ((), rest)
  | _ :: _, [] => .error .truncated
  | w :: ws, c :: rest => if c = w then scanWord ws rest else .error .malformed

/-! ### Strings -/

/-- The value of a hexadecimal digit, in either case. -/
def hexValue? (c : Char) : Option Nat :=
  if '0' ≤ c ∧ c ≤ '9' then some (c.toNat - '0'.toNat)
  else if 'a' ≤ c ∧ c ≤ 'f' then some (c.toNat - 'a'.toNat + 10)
  else if 'A' ≤ c ∧ c ≤ 'F' then some (c.toNat - 'A'.toNat + 10)
  else none

/-- The code unit that four hexadecimal digits stand for. -/
def unit? (a b c d : Char) : Option Nat :=
  match hexValue? a, hexValue? b, hexValue? c, hexValue? d with
  | some a, some b, some c, some d => some (((a * 16 + b) * 16 + c) * 16 + d)
  | _, _, _, _ => none

/-- The fault of a text that has fewer than four characters left for an
escape: digits are counted in bytes, so longer characters can still make it a
wrong escape instead of a short one. -/
def shortEscape (rest : List Char) : Fault :=
  if (String.ofList rest).utf8ByteSize < 4 then .truncated else .malformed

/-- What an escape letter stands for. -/
def escaped? (c : Char) : Option Char :=
  if c = '"' then some '"'
  else if c = '\\' then some '\\'
  else if c = '/' then some '/'
  else if c = 'b' then some '\x08'
  else if c = 'f' then some '\x0c'
  else if c = 'n' then some '\n'
  else if c = 'r' then some '\r'
  else if c = 't' then some '\t'
  else none

/-- Reads a string after its opening quote.  A high surrogate must be followed
by an escaped low one, and a low one must not come first. -/
def scanString : List Char → Scan (List Char)
  | [] => .error .truncated
  | '"' :: rest => .ok ([], rest)
  | '\\' :: 'u' :: a :: b :: c :: d :: rest =>
      match unit? a b c d with
      | none => .error .malformed
      | some high =>
          if 0xdc00 ≤ high ∧ high ≤ 0xdfff then .error .malformed
          else if high < 0xd800 ∨ 0xdbff < high then (scanString rest).mapValue (Char.ofNat high :: ·)
          else
            match rest with
            | [] => .error .truncated
            | ['\\'] => .error .truncated
            | '\\' :: 'u' :: a' :: b' :: c' :: d' :: rest' =>
                match unit? a' b' c' d' with
                | none => .error .malformed
                | some low =>
                    if low < 0xdc00 ∨ 0xdfff < low then .error .malformed
                    else
                      (scanString rest').mapValue
                        (Char.ofNat (0x10000 + (high - 0xd800) * 0x400 + (low - 0xdc00)) :: ·)
            | '\\' :: 'u' :: rest' => .error (shortEscape rest')
            | _ => .error .malformed
  | '\\' :: 'u' :: rest => .error (shortEscape rest)
  | ['\\'] => .error .truncated
  | '\\' :: e :: rest =>
      match escaped? e with
      | none => .error .malformed
      | some c => (scanString rest).mapValue (c :: ·)
  | c :: rest => if c.toNat < 0x20 then .error .malformed else (scanString rest).mapValue (c :: ·)

/-! ### Numbers -/

/-- A number is whole and fits in 64 bits, with or without a sign, or it is a
double. -/
inductive Number
  | int (n : Int)
  | float (x : Float)

/-- Appends digits to a count as long as the result fits in 64 bits.  Gives
the count and how many digits were left over. -/
def gather (m : Nat) : List Char → Nat × Nat
  | [] => (m, 0)
  | d :: ds =>
      let next := m * 10 + (d.toNat - '0'.toNat)
      if next < UInt64.size then gather next ds else (m, ds.length + 1)

/-- Divides by `10^308` until at most that power is left, or nothing is. -/
def shrink (x : Float) (e : Nat) : Float :=
  if 308 < e ∧ x != 0 then shrink (x / 1e308) (e - 308)
  else x / Float.ofScientific 1 false (min e 308)
termination_by e

/-- The double for `m * 10^e`, rounded once for `m` and once for each power
of ten; none if it is infinite. -/
def scaled? (m : Nat) (e : Int) : Option Float :=
  let x := (UInt64.ofNat m).toFloat
  if e < 0 then some (shrink x e.natAbs)
  else if m = 0 then some x
  else if 308 < e then none
  else
    let y := x * Float.ofScientific 1 false e.natAbs
    if y.isInf then none else some y

/-- A number with a fraction or an exponent, or with too many digits. -/
def scaledNumber (negative : Bool) (m : Nat) (e : Int) (rest : List Char) : Scan Number :=
  match scaled? m e with
  | none => .error .malformed
  | some x => .ok (.float (if negative then -x else x), rest)

/-- A number of at most 64 bits.  There is no whole number for minus zero, nor
for one below the range of signed words. -/
def wholeNumber (negative : Bool) (m : Nat) : Number :=
  if negative then
    if m = 0 ∨ Nat.pow 2 63 < m then .float (-(UInt64.ofNat m).toFloat) else .int (-(m : Int))
  else .int m

/-- The fault where a digit is missing. -/
def noDigit : List Char → Fault
  | [] => .truncated
  | _ => .malformed

/-- Reads an exponent after its letter. -/
def scanExponent (negative : Bool) (m : Nat) (e : Int) (cs : List Char) : Scan Number :=
  let (down, cs) :=
    match cs with
    | '+' :: rest => (false, rest)
    | '-' :: rest => (true, rest)
    | rest => (false, rest)
  let digits := cs.takeWhile Char.isDigit
  let rest := cs.dropWhile Char.isDigit
  if digits.isEmpty then .error (noDigit rest)
  else
    let shift : Int := Nat.ofDigitChars 10 digits 0
    scaledNumber negative m (if down then e - shift else e + shift) rest

/-- Reads a fraction after its point, and an exponent if there is one. -/
def scanFraction (negative : Bool) (m : Nat) (surplus : Nat) (cs : List Char) : Scan Number :=
  let digits := cs.takeWhile Char.isDigit
  let rest := cs.dropWhile Char.isDigit
  if digits.isEmpty then .error (noDigit rest)
  else
    let (m', surplus') := gather m digits
    let e : Int := surplus - (digits.length - surplus' : Nat)
    match rest with
    | 'e' :: rest => scanExponent negative m' e rest
    | 'E' :: rest => scanExponent negative m' e rest
    | rest => scaledNumber negative m' e rest

/-- Reads a number after its sign.  A zero in front stands alone. -/
def scanNumber (negative : Bool) (cs : List Char) : Scan Number :=
  let digits := cs.takeWhile Char.isDigit
  let rest := cs.dropWhile Char.isDigit
  if digits.isEmpty then .error (noDigit rest)
  else if digits.head? = some '0' ∧ 1 < digits.length then .error .malformed
  else
    let (m, surplus) := gather 0 digits
    match rest with
    | '.' :: rest => scanFraction negative m surplus rest
    | 'e' :: rest => scanExponent negative m surplus rest
    | 'E' :: rest => scanExponent negative m surplus rest
    | rest =>
        if surplus = 0 then .ok (wholeNumber negative m, rest)
        else scaledNumber negative m surplus rest

end Json

end VoiceDialogue
