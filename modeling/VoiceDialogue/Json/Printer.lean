/-
VoiceDialogue/Json/Printer.lean

The compact text of a JSON value: no blanks, members in the order of the
value, and an escape only where JSON demands one, that is for the quote, the
backslash and the control characters below U+0020.

The text is a list of characters (`Json.write`); `Json.text` is the string.
-/
import VoiceDialogue.Decimal.Layout
import VoiceDialogue.Json.Value

namespace VoiceDialogue

namespace Json

/-! ### Numbers -/

/-- Numbers below `10^-5` and from `10^16` on have an exponent, with its sign;
all others are positional. -/
def layout : Layout := ⟨-5, 15, ['+']⟩

/-- The text of a double: the shortest digits that read back.  JSON has no
infinity and no NaN; they are written as null. -/
def writeFloat (x : Float) : List Char :=
  if x.isNaN || x.isInf then "null".toList
  else
    let sign := if x.toBits.toNat < Nat.pow 2 63 then [] else ['-']
    let size := if x == 0 then ['0', '.', '0'] else layout.write (Binary.ofFloat x).shortest
    sign ++ size

/-- The text of a whole number. -/
def writeInt (n : Int) : List Char :=
  if n < 0 then '-' :: Nat.toDigits 10 n.natAbs else Nat.toDigits 10 n.natAbs

/-! ### Strings -/

/-- A digit of a four-digit escape, in lower case. -/
def hexDigit (n : Nat) : Char := Nat.digitChar (n % 16)

/-- One character inside quotes. -/
def escape (c : Char) : List Char :=
  if c = '"' then ['\\', '"']
  else if c = '\\' then ['\\', '\\']
  else if c = '\x08' then ['\\', 'b']
  else if c = '\t' then ['\\', 't']
  else if c = '\n' then ['\\', 'n']
  else if c = '\x0c' then ['\\', 'f']
  else if c = '\r' then ['\\', 'r']
  else if c.toNat < 0x20 then ['\\', 'u', '0', '0', hexDigit (c.toNat / 16), hexDigit c.toNat]
  else [c]

/-- The text of a string, with its quotes. -/
def writeString (s : String) : List Char := '"' :: s.toList.flatMap escape ++ ['"']

/-! ### Values -/

mutual

/-- The compact text of a value. -/
def write : Json → List Char
  | .null => ['n', 'u', 'l', 'l']
  | .bool true => ['t', 'r', 'u', 'e']
  | .bool false => ['f', 'a', 'l', 's', 'e']
  | .int n => writeInt n
  | .float x => writeFloat x
  | .str s => writeString s
  | .arr [] => ['[', ']']
  | .arr (v :: rest) => '[' :: write v ++ writeItems rest
  | .obj [] => ['\x7b', '\x7d']
  | .obj ((n, v) :: rest) => '\x7b' :: writeString n ++ ':' :: write v ++ writeMembers rest

/-- What follows an item: the further ones and the closing bracket. -/
def writeItems : List Json → List Char
  | [] => [']']
  | v :: rest => ',' :: write v ++ writeItems rest

/-- What follows a member: the further ones and the closing brace. -/
def writeMembers : List (String × Json) → List Char
  | [] => ['\x7d']
  | (n, v) :: rest => ',' :: writeString n ++ ':' :: write v ++ writeMembers rest

end

/-- The compact text of a value, as a string. -/
def text (v : Json) : String := String.ofList v.write

end Json

end VoiceDialogue
