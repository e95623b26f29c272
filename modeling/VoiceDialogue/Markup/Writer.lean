/-
VoiceDialogue/Markup/Writer.lean

Markup as text.

Attribute values stand between double quotes and character data between tags,
and each has its own escapes.  Both escape what would start markup, and the
carriage return, which a reader would turn into a line feed.  Values also
escape the quote and the other blanks, which a reader would turn into spaces.
An element without children is written as an empty-element tag.

The text is a list of characters; nothing is added between tags.
-/
import VoiceDialogue.Markup.Element

namespace VoiceDialogue

namespace Markup

/-! ### Escapes -/

/-- A character of character data. -/
def escapeInText (c : Char) : List Char :=
  if c = '&' then "&amp;".toList
  else if c = '<' then "&lt;".toList
  else if c = '>' then "&gt;".toList
  else if c = '\r' then "&#13;".toList
  else [c]

/-- A character of an attribute value. -/
def escapeInValue (c : Char) : List Char :=
  if c = '"' then "&quot;".toList
  else if c = '\n' then "&#10;".toList
  else if c = '\t' then "&#9;".toList
  else escapeInText c

/-- Character data. -/
def writeText (s : String) : List Char := s.toList.flatMap escapeInText

/-- An attribute, with the blank before it. -/
def writeAttribute (a : String × String) : List Char :=
  ' ' :: a.1.toList ++ '=' :: '"' :: a.2.toList.flatMap escapeInValue ++ ['"']

end Markup

namespace Element

/-- The inside of a start tag: the name and the attributes. -/
def writeTag (name : String) (attributes : Attributes) : List Char :=
  name.toList ++ attributes.entries.flatMap Markup.writeAttribute

mutual

/-- The markup of an element. -/
def write : Element → List Char
  | ⟨name, attributes, children⟩ =>
      if children.isEmpty then '<' :: writeTag name attributes ++ ['/', '>']
      else
        '<' :: writeTag name attributes ++ '>' :: writeAll children ++
          '<' :: '/' :: name.toList ++ ['>']

/-- The markup of a list of children. -/
def writeAll : List Node → List Char
  | [] => []
  | .element e :: rest => e.write ++ writeAll rest
  | .text s :: rest => Markup.writeText s ++ writeAll rest

end

/-- The markup of an element, as a string. -/
def markup (e : Element) : String := String.ofList e.write

end Element

/-- A document is its root element. -/
structure Document where
  root : Element
deriving DecidableEq, Inhabited

namespace Document

/-- What a document starts with. -/
def declaration : String := "<?xml version=\"1.0\" encoding=\"UTF-8\"?>\n"

/-- The text of a document. -/
def text (d : Document) : String := declaration ++ d.root.markup

end Document

end VoiceDialogue
