/-
VoiceDialogue/Markup/Reader.lean

Reading markup, by the rules of XML 1.0 for elements, attributes in double
quotes, character data and the references of the writer.

Line ends are settled before anything else is read: a carriage return, with
or without a line feed after it, is a line feed (`unifyLines`).  Inside an
attribute value every blank that is written as such becomes a space, while a
reference gives its character (`readValue`).  A document is refused if it
holds a character that none may hold, if tags do not match, if an attribute
is given twice, if an ampersand or a less-than sign stands for itself, or if
character data holds the three characters that close a marked section.

Elements are read with a bound on the calls, twice the number of characters;
`Markup.read?` supplies it.
-/
import VoiceDialogue.Markup.Normal
import VoiceDialogue.Markup.Writer

namespace VoiceDialogue

namespace Markup

/-! ### Characters -/

/-- Every line end as a line feed. -/
def unifyLines : List Char → List Char
  | [] => []
  | '\r' :: '\n' :: rest => '\n' :: unifyLines rest
  | '\r' :: rest => '\n' :: unifyLines rest
  | c :: rest => c :: unifyLines rest

/-- Replaces references by their characters. -/
def expand : List Char → Option (List Char)
  | [] => some []
  | '&' :: 'a' :: 'm' :: 'p' :: ';' :: rest => (expand rest).map ('&' :: ·)
  | '&' :: 'l' :: 't' :: ';' :: rest => (expand rest).map ('<' :: ·)
  | '&' :: 'g' :: 't' :: ';' :: rest => (expand rest).map ('>' :: ·)
  | '&' :: 'q' :: 'u' :: 'o' :: 't' :: ';' :: rest => (expand rest).map ('"' :: ·)
  | '&' :: '#' :: '9' :: ';' :: rest => (expand rest).map ('\t' :: ·)
  | '&' :: '#' :: '1' :: '0' :: ';' :: rest => (expand rest).map ('\n' :: ·)
  | '&' :: '#' :: '1' :: '3' :: ';' :: rest => (expand rest).map ('\r' :: ·)
  | c :: rest => if c = '&' then none else (expand rest).map (c :: ·)

/-- Whether the end of a marked section stands somewhere in a text. -/
def holdsSectionEnd : List Char → Bool
  | [] => false
  | ']' :: ']' :: '>' :: _ => true
  | _ :: rest => holdsSectionEnd rest

/-- Blanks of markup. -/
def isSpace (c : Char) : Bool := c = ' ' || c = '\t' || c = '\n' || c = '\r'

/-- The text from its first character that is no blank. -/
def skipSpace (cs : List Char) : List Char := cs.dropWhile isSpace

/-! ### Tags -/

/-- Reads a name. -/
def readName (cs : List Char) : Option (List Char × List Char) :=
  let name := cs.takeWhile isNameChar
  if isXmlName name then some (name, cs.dropWhile isNameChar) else none

/-- A character of an attribute value that is written as such. -/
def plainInValue (c : Char) : Char := if isSpace c then ' ' else c

/-- Reads an attribute value after its opening quote. -/
def readValue (cs : List Char) : Option (List Char × List Char) :=
  let raw := cs.takeWhile (· ≠ '"')
  match cs.dropWhile (· ≠ '"') with
  | _ :: rest =>
      if '<' ∈ raw then none
      else (expand (raw.map plainInValue)).map fun value => (value, rest)
  | [] => none

/-- Reads an equals sign, with blanks around it, and the quote after it. -/
def readEquals (cs : List Char) : Option (List Char) :=
  match skipSpace cs with
  | '=' :: rest =>
      match skipSpace rest with
      | '"' :: rest => some rest
      | _ => none
  | _ => none

/-- Reads attributes until something else follows.  A blank has to stand
before each of them, and none may occur twice. -/
def readAttributes : Nat → Attributes → List Char → Option (Attributes × List Char)
  | 0, _, _ => none
  | bound + 1, seen, cs =>
      match cs with
      | [] => none
      | c :: _ =>
          let rest := skipSpace cs
          if isSpace c && (rest.head?.any isNameStart) then
            match readName rest with
            | none => none
            | some (name, rest) =>
                match (readEquals rest).bind readValue with
                | none => none
                | some (value, rest) =>
                    if String.ofList name ∈ seen.names then none
                    else
                      readAttributes bound (seen.set (String.ofList name) (String.ofList value))
                        rest
          else some (seen, rest)

/-- Reads the rest of an end tag for the given name. -/
def readEnd (name : List Char) (cs : List Char) : Option (List Char) :=
  match readName cs with
  | none => none
  | some (name', rest) =>
      match skipSpace rest with
      | '>' :: rest => if name' = name then some rest else none
      | _ => none

/-! ### Elements -/

mutual

/-- Reads an element after its less-than sign. -/
def readElement : Nat → List Char → Option (Element × List Char)
  | 0, _ => none
  | bound + 1, cs =>
      match readName cs with
      | none => none
      | some (name, rest) =>
          match readAttributes (rest.length + 1) .empty rest with
          | some (attributes, '/' :: '>' :: rest) =>
              some (⟨String.ofList name, attributes, []⟩, rest)
          | some (attributes, '>' :: rest) =>
              match readContent bound rest with
              | none => none
              | some (children, rest) =>
                  (readEnd name rest).map fun rest =>
                    (⟨String.ofList name, attributes, children⟩, rest)
          | _ => none

/-- Reads children up to an end tag, and the first two characters of that. -/
def readContent : Nat → List Char → Option (List Node × List Char)
  | 0, _ => none
  | bound + 1, cs =>
      match cs with
      | [] => none
      | '<' :: '/' :: rest => some ([], rest)
      | '<' :: rest =>
          match readElement bound rest with
          | none => none
          | some (e, rest) =>
              (readContent bound rest).map fun (children, rest) => (.element e :: children, rest)
      | cs =>
          let raw := cs.takeWhile (· ≠ '<')
          match if holdsSectionEnd raw then none else expand raw with
          | none => none
          | some text =>
              (readContent bound (cs.dropWhile (· ≠ '<'))).map fun (children, rest) =>
                (.text (String.ofList text) :: children, rest)

end

/-! ### Documents -/

/-- What a declaration may state: the version, and the encoding after it. -/
def declarations : List (List (String × String)) :=
  [[("version", "1.0")], [("version", "1.0"), ("encoding", "UTF-8")]]

/-- Reads a declaration, if there is one, and the blanks after it. -/
def readDeclaration : List Char → Option (List Char)
  | '<' :: '?' :: 'x' :: 'm' :: 'l' :: rest =>
      match readAttributes (rest.length + 1) .empty rest with
      | some (stated, '?' :: '>' :: rest) =>
          if stated.entries ∈ declarations then some (skipSpace rest) else none
      | _ => none
  | cs => some cs

/-- Reads an element that is the whole text but for blanks after it. -/
def readRoot (cs : List Char) : Option Element :=
  match cs with
  | '<' :: rest =>
      match readElement (2 * rest.length + 1) rest with
      | some (e, rest) => if (skipSpace rest).isEmpty then some e else none
      | none => none
  | _ => none

/-- Reads a document. -/
def readWhole? (cs : List Char) : Option Element := (readDeclaration cs).bind readRoot

/-- Reads the text of an element or of a document. -/
def read? (text : String) : Option Element :=
  if text.toList.all isXmlChar then readWhole? (unifyLines text.toList) else none

end Markup

end VoiceDialogue
