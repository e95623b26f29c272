/-
VoiceDialogue/Markup/Character.lean

The characters of XML 1.0 documents.

Not every character can stand in a document, not even as a reference: most
control characters, the surrogates and the last two code points of the basic
plane are excluded (`isXmlChar`).  Names are narrower still (`isXmlName`).
-/

namespace VoiceDialogue

namespace Markup

/-- Whether a character may appear in an XML document. -/
def isXmlChar (c : Char) : Bool :=
  c = '\t' || c = '\n' || c = '\r' || (0x20 ≤ c.toNat && c.toNat ≤ 0xd7ff) ||
    (0xe000 ≤ c.toNat && c.toNat ≤ 0xfffd) || 0x10000 ≤ c.toNat

/-- The first character of a text that no document can carry. -/
def firstInvalid? (cs : List Char) : Option Char := cs.find? (fun c => !isXmlChar c)

/-! ### Names -/

/-- The ranges of characters that can start a name, beside the ASCII ones. -/
def nameStartRanges : List (Nat × Nat) :=
  [(0xc0, 0xd6), (0xd8, 0xf6), (0xf8, 0x2ff), (0x370, 0x37d), (0x37f, 0x1fff), (0x200c, 0x200d),
    (0x2070, 0x218f), (0x2c00, 0x2fef), (0x3001, 0xd7ff), (0xf900, 0xfdcf), (0xfdf0, 0xfffd),
    (0x10000, 0xeffff)]

/-- The ranges of characters that can only continue a name, beside the ASCII
ones. -/
def nameOnlyRanges : List (Nat × Nat) := [(0xb7, 0xb7), (0x300, 0x36f), (0x203f, 0x2040)]

/-- Whether a code point lies in one of some ranges. -/
def inRanges (ranges : List (Nat × Nat)) (n : Nat) : Bool :=
  ranges.any fun r => r.1 ≤ n && n ≤ r.2

/-- Whether a character can start a name. -/
def isNameStart (c : Char) : Bool :=
  c.isAlpha || c = ':' || c = '_' || inRanges nameStartRanges c.toNat

/-- Whether a character can stand in a name. -/
def isNameChar (c : Char) : Bool :=
  isNameStart c || c.isDigit || c = '-' || c = '.' || inRanges nameOnlyRanges c.toNat

/-- Whether a text is a name of an element or of an attribute. -/
def isXmlName : List Char → Bool
  | [] => false
  | c :: rest => isNameStart c && rest.all isNameChar

end Markup

end VoiceDialogue
