/-
VoiceDialogue/Proofs/Json/Grammar.lean

What text is JSON, and what it stands for, as a grammar.

The rules are those of the JSON standard.  They say how a number, a string, an
array and an object look and what they stand for, without saying how they are
found: blanks may stand between any two parts, a character of a string may be
written as it is or as an escape, and the members of an object keep the order
of the text and may repeat a name.

A whole number stands for itself, however long it is; minus zero is none.  Any
number may also stand for a double.  Which one is a matter of rounding and not
of the grammar, so the grammar does not say.
-/
import VoiceDialogue.Json.Scan

namespace VoiceDialogue

namespace Json

/-! ### Blanks and numbers -/

/-- Blanks, maybe none. -/
def IsBlanks (cs : List Char) : Prop := ∀ c ∈ cs, isBlank c

/-- Decimal digits, at least one. -/
def IsDigits (cs : List Char) : Prop := cs ≠ [] ∧ ∀ c ∈ cs, c.isDigit

/-- The digits of a count.  A zero in front stands alone. -/
def IsCount (cs : List Char) : Prop := IsDigits cs ∧ (cs.head? = some '0' → cs = ['0'])

/-- The count that digits stand for. -/
def countOf (ds : List Char) : Nat := Nat.ofDigitChars 10 ds 0

/-- A fraction, or nothing. -/
inductive IsFraction : List Char → Prop
  | none : IsFraction []
  | point {ds} : IsDigits ds → IsFraction ('.' :: ds)

/-- An exponent, or nothing. -/
inductive IsExponent : List Char → Prop
  | none : IsExponent []
  | power {e sign ds} :
      e ∈ ['e', 'E'] → sign ∈ [[], ['+'], ['-']] → IsDigits ds → IsExponent (e :: sign ++ ds)

/-- A number. -/
inductive IsNumber : List Char → Prop
  | parts {sign count fraction exponent} :
      sign ∈ [[], ['-']] → IsCount count → IsFraction fraction → IsExponent exponent →
      IsNumber (sign ++ count ++ fraction ++ exponent)

/-! ### Strings -/

/-- The letters of short escapes, and the characters that they stand for. -/
def shortEscapes : List (Char × Char) :=
  [('"', '"'), ('\\', '\\'), ('/', '/'), ('b', '\x08'), ('f', '\x0c'), ('n', '\n'), ('r', '\r'),
    ('t', '\t')]

/-- The character that two surrogates stand for. -/
def joined (high low : Nat) : Char :=
  Char.ofNat (0x10000 + (high - 0xd800) * 0x400 + (low - 0xdc00))

/-- The inside of a quoted string, and the characters that it stands for. -/
inductive IsQuoted : List Char → List Char → Prop
  | nil : IsQuoted [] []
  | plain {c raw text} :
      c ≠ '"' → c ≠ '\\' → 0x20 ≤ c.toNat → IsQuoted raw text →
      IsQuoted (c :: raw) (c :: text)
  | short {e c raw text} :
      (e, c) ∈ shortEscapes → IsQuoted raw text → IsQuoted ('\\' :: e :: raw) (c :: text)
  | unit {a b c d n raw text} :
      unit? a b c d = some n → n < 0xd800 ∨ 0xdfff < n → IsQuoted raw text →
      IsQuoted ('\\' :: 'u' :: a :: b :: c :: d :: raw) (Char.ofNat n :: text)
  | pair {a b c d a' b' c' d' high low raw text} :
      unit? a b c d = some high → 0xd800 ≤ high ∧ high ≤ 0xdbff →
      unit? a' b' c' d' = some low → 0xdc00 ≤ low ∧ low ≤ 0xdfff → IsQuoted raw text →
      IsQuoted ('\\' :: 'u' :: a :: b :: c :: d :: '\\' :: 'u' :: a' :: b' :: c' :: d' :: raw)
        (joined high low :: text)

/-! ### Values -/

mutual

/-- A value without blanks around it. -/
inductive IsValue : List Char → Json → Prop
  | null : IsValue ['n', 'u', 'l', 'l'] .null
  | yes : IsValue ['t', 'r', 'u', 'e'] (.bool true)
  | no : IsValue ['f', 'a', 'l', 's', 'e'] (.bool false)
  | count {ds} : IsCount ds → IsValue ds (.int (countOf ds))
  | negative {ds} : IsCount ds → countOf ds ≠ 0 → IsValue ('-' :: ds) (.int (-countOf ds))
  | number {cs} (x : Float) : IsNumber cs → IsValue cs (.float x)
  | str {raw text} : IsQuoted raw text → IsValue ('"' :: raw ++ ['"']) (.str (String.ofList text))
  | emptyArr {blank} : IsBlanks blank → IsValue ('[' :: blank ++ [']']) (.arr [])
  | arr {raw items} : IsItems raw items → IsValue ('[' :: raw ++ [']']) (.arr items)
  | emptyObj {blank} : IsBlanks blank → IsValue ('\x7b' :: blank ++ ['\x7d']) (.obj [])
  | obj {raw members} : IsMembers raw members → IsValue ('\x7b' :: raw ++ ['\x7d']) (.obj members)

/-- The items of an array, at least one, with commas between them. -/
inductive IsItems : List Char → List Json → Prop
  | last {before raw after v} :
      IsBlanks before → IsValue raw v → IsBlanks after → IsItems (before ++ raw ++ after) [v]
  | more {before raw after v rest items} :
      IsBlanks before → IsValue raw v → IsBlanks after → IsItems rest items →
      IsItems (before ++ raw ++ after ++ ',' :: rest) (v :: items)

/-- A member of an object: its name, a colon and its value. -/
inductive IsMember : List Char → String × Json → Prop
  | named {before name text between left raw v after} :
      IsBlanks before → IsQuoted name text → IsBlanks between → IsBlanks left → IsValue raw v →
      IsBlanks after →
      IsMember (before ++ '"' :: name ++ '"' :: between ++ ':' :: left ++ raw ++ after)
        (String.ofList text, v)

/-- The members of an object, at least one, with commas between them. -/
inductive IsMembers : List Char → List (String × Json) → Prop
  | last {raw m} : IsMember raw m → IsMembers raw [m]
  | more {raw m rest members} :
      IsMember raw m → IsMembers rest members → IsMembers (raw ++ ',' :: rest) (m :: members)

end

/-- A whole text: a value with blanks around it. -/
def IsText (text : String) (v : Json) : Prop :=
  ∃ before raw after, text.toList = before ++ raw ++ after ∧
    IsBlanks before ∧ IsValue raw v ∧ IsBlanks after

end Json

end VoiceDialogue
