/-
VoiceDialogue/Json/Reader.lean

Reading any JSON text into a value.

Members keep the order of the text, repeated names included; whoever wants
them sorted takes the canonical form.  The depth of nesting is not limited.

Every call of the reader either takes a character off the text or enters the
first part of something longer, at most two deep, before it does; so three
times the length of the text bounds the nesting of calls.  `Json.read`
supplies that bound and hides it.
-/
import VoiceDialogue.Json.Scan

namespace VoiceDialogue

namespace Json

/-- The value of a number. -/
def ofNumber : Number → Json
  | .int n => .int n
  | .float x => .float x

mutual

/-- Reads a value from the front of a text. -/
def readValue : Nat → List Char → Scan Json
  | 0, _ => .error .malformed
  | bound + 1, cs =>
      match skipBlank cs with
      | [] => .error .truncated
      | 'n' :: rest => (scanWord ['u', 'l', 'l'] rest).mapValue fun _ => .null
      | 't' :: rest => (scanWord ['r', 'u', 'e'] rest).mapValue fun _ => .bool true
      | 'f' :: rest => (scanWord ['a', 'l', 's', 'e'] rest).mapValue fun _ => .bool false
      | '"' :: rest => (scanString rest).mapValue fun s => .str (String.ofList s)
      | '-' :: rest => (scanNumber true rest).mapValue ofNumber
      | '[' :: rest =>
          match skipBlank rest with
          | ']' :: rest => .ok (.arr [], rest)
          | rest => (readItems bound rest).mapValue .arr
      | '\x7b' :: rest =>
          match skipBlank rest with
          | '\x7d' :: rest => .ok (.obj [], rest)
          | rest => (readMembers bound rest).mapValue .obj
      | c :: rest =>
          if c.isDigit then (scanNumber false (c :: rest)).mapValue ofNumber
          else .error .malformed

/-- Reads the items of an array, at least one, and the closing bracket. -/
def readItems : Nat → List Char → Scan (List Json)
  | 0, _ => .error .malformed
  | bound + 1, cs =>
      (readValue bound cs).next fun v rest =>
        match skipBlank rest with
        | [] => .error .truncated
        | ']' :: rest => .ok ([v], rest)
        | ',' :: rest => (readItems bound rest).mapValue (v :: ·)
        | _ => .error .malformed

/-- Reads a member of an object: its name, a colon and its value. -/
def readMember : Nat → List Char → Scan (String × Json)
  | 0, _ => .error .malformed
  | bound + 1, cs =>
      match skipBlank cs with
      | [] => .error .truncated
      | '"' :: rest =>
          (scanString rest).next fun name rest =>
            match skipBlank rest with
            | [] => .error .truncated
            | ':' :: rest => (readValue bound rest).mapValue fun v => (String.ofList name, v)
            | _ => .error .malformed
      | _ => .error .malformed

/-- Reads the members of an object, at least one, and the closing brace. -/
def readMembers : Nat → List Char → Scan (List (String × Json))
  | 0, _ => .error .malformed
  | bound + 1, cs =>
      (readMember bound cs).next fun m rest =>
        match skipBlank rest with
        | [] => .error .truncated
        | '\x7d' :: rest => .ok ([m], rest)
        | ',' :: rest => (readMembers bound rest).mapValue (m :: ·)
        | _ => .error .malformed

end

/-- Reads a whole text: after the value only blanks may follow. -/
def whole {α : Type} (scan : List Char → Scan α) (cs : List Char) : Except Fault α := do
  let (a, rest) ← scan cs
  if (skipBlank rest).isEmpty then .ok a else .error .malformed

/-- Reads a whole text into a value. -/
def read (text : String) : Except Fault Json :=
  whole (readValue (3 * text.toList.length + 1)) text.toList

end Json

end VoiceDialogue
