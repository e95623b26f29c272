/-
VoiceDialogue/Json/Decode.lean

Reading a text of a wanted shape: a string, a string or null, a duration, one
choice out of a few.

A reader for a shape looks at the first character that is no blank.  Where
another kind of value starts there, it reads just enough to name that kind: a
word, a number and a string are read to their end, so a fault inside them is
reported first, while an array or an object is named at its opening bracket.
-/
import VoiceDialogue.Json.Reader
import VoiceDialogue.Duration

namespace VoiceDialogue

namespace Json

/-! ### A value of another kind -/

/-- The kind of a number. -/
def Number.found : Number → Found
  | .int n => .int n
  | .float x => .float x

/-- Names the value that starts a text. -/
def found : List Char → Except Fault Found
  | [] => .error .truncated
  | 'n' :: rest => (scanWord ['u', 'l', 'l'] rest).map fun _ => .null
  | 't' :: rest => (scanWord ['r', 'u', 'e'] rest).map fun _ => .bool true
  | 'f' :: rest => (scanWord ['a', 'l', 's', 'e'] rest).map fun _ => .bool false
  | '-' :: rest => (scanNumber true rest).map fun (n, _) => n.found
  | '"' :: rest => (scanString rest).map fun (s, _) => .str (String.ofList s)
  | '[' :: _ => .ok .arr
  | '\x7b' :: _ => .ok .obj
  | c :: rest =>
      if c.isDigit then (scanNumber false (c :: rest)).map fun (n, _) => n.found
      else .error .malformed

/-- The fault of a text that starts with a value of another kind than wanted. -/
def wrongKind (wanted : String) (cs : List Char) : Fault :=
  match found cs with
  | .error f => f
  | .ok kind => .mismatch (.wrongKind kind wanted)

/-! ### Strings -/

/-- Reads a string. -/
def readString (wanted : String) (cs : List Char) : Scan String :=
  match skipBlank cs with
  | '"' :: rest => (scanString rest).mapValue String.ofList
  | rest => .error (wrongKind wanted rest)

/-- Reads a string, or null for none. -/
def readOptional (wanted : String) (cs : List Char) : Scan (Option String) :=
  match skipBlank cs with
  | 'n' :: rest => (scanWord ['u', 'l', 'l'] rest).mapValue fun _ => none
  | rest => (readString wanted rest).mapValue some

/-! ### Durations -/

/-- The duration that a number stands for, a count of milliseconds. -/
def durationOf : Number → Except Mismatch Duration
  | .int n =>
      if n < 0 then .error (.outOfRange (.int n) "u64") else .ok ⟨UInt64.ofNat n.toNat⟩
  | .float x => .error (.wrongKind (.float x) "u64")

/-- Reads a number that stands for a duration. -/
def readCount (negative : Bool) (cs : List Char) : Scan Duration :=
  (scanNumber negative cs).next fun n rest =>
    match durationOf n with
    | .error m => .error (.mismatch m)
    | .ok d => .ok (d, rest)

/-- Reads a duration. -/
def readDuration (cs : List Char) : Scan Duration :=
  match skipBlank cs with
  | '-' :: rest => readCount true rest
  | c :: rest =>
      if c.isDigit then readCount false (c :: rest) else .error (wrongKind "u64" (c :: rest))
  | [] => .error .truncated

/-! ### Choices -/

/-- The choice of the given name. -/
def choice {α : Type} (choices : List (String × α)) (name : String) : Except Fault α :=
  match choices.find? (·.1 = name) with
  | some (_, a) => .ok a
  | none => .error (.mismatch (.unknownChoice name (choices.map Prod.fst)))

/-- Reads the key of an object's member.  A key can only be a string, so a
value of any other kind breaks the grammar instead of being of the wrong kind. -/
def readKey (cs : List Char) : Scan String :=
  match skipBlank cs with
  | [] => .error .truncated
  | '"' :: rest => (scanString rest).mapValue String.ofList
  | _ => .error .malformed

/-- Reads what follows the name of a choice inside braces: a colon, null and
the closing brace. -/
def readEmptyMember (cs : List Char) : Scan Unit :=
  match skipBlank cs with
  | [] => .error .truncated
  | ':' :: rest =>
      match skipBlank rest with
      | 'n' :: rest =>
          (scanWord ['u', 'l', 'l'] rest).next fun _ rest =>
            match skipBlank rest with
            | [] => .error .truncated
            | '\x7d' :: rest => .ok ((), rest)
            | _ => .error .malformed
      | rest => .error (wrongKind "unit" rest)
  | _ => .error .malformed

/-- Reads one of the given choices: its name, or an object whose only member
has that name and the value null. -/
def readChoice {α : Type} (choices : List (String × α)) (cs : List Char) : Scan α :=
  match skipBlank cs with
  | [] => .error .truncated
  | '"' :: rest =>
      (scanString rest).next fun name rest =>
        match choice choices (String.ofList name) with
        | .error f => .error f
        | .ok a => .ok (a, rest)
  | '\x7b' :: rest =>
      (readKey rest).next fun name rest =>
        match choice choices name with
        | .error f => .error f
        | .ok a => (readEmptyMember rest).mapValue fun _ => a
  | _ => .error .malformed

/-- Decodes a whole text as a duration. -/
def decodeDuration (text : String) : Except Fault Duration := whole readDuration text.toList

/-- Decodes a whole text as one of the given choices. -/
def decodeChoice {α : Type} (choices : List (String × α)) (text : String) : Except Fault α :=
  whole (readChoice choices) text.toList

end Json

end VoiceDialogue
