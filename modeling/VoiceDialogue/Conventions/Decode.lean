/-
VoiceDialogue/Conventions/Decode.lean

Reading conventions from the JSON text of a configuration.

A configuration is an object whose members name what they replace; whatever
it does not name keeps its default.  A member that no convention has and a
member that was given before are refused as soon as their name is read, so at
most eight members are ever accepted, and the conventions that can still come
(`left` below) bound the reading.  A configuration may also be an array that
lists the names in their order, from the first one on.
-/
import VoiceDialogue.Conventions.Basic
import VoiceDialogue.Json.Decode

namespace VoiceDialogue

open Json (Fault Scan skipBlank readString readOptional wrongKind scanString)

/-- Why the text of a configuration gives no settled conventions. -/
inductive ConfigurationError
  | unreadable (f : Fault)
  | invalid (e : ConventionError)

namespace Conventions

/-- Reads the name for a convention: a string or, for an optional one, null. -/
def readName (c : Convention) (cs : List Char) : Scan (Option String) :=
  if c.isOptional then readOptional "a string" cs
  else (readString "a string" cs).mapValue some

/-! ### Objects -/

/-- The convention of a member that can still come. -/
def expect (left : List Convention) (name : String) : Except Fault Convention :=
  match Convention.all.find? (·.key = name) with
  | none => .error (.mismatch (.unknownMember name (Convention.all.map Convention.key)))
  | some c =>
      if c ∈ left then .ok c else .error (.mismatch (.repeatedMember name))

/-- Reads a member after the opening quote of its name. -/
def readMember (left : List Convention) (cs : List Char) :
    Scan (Convention × Option String) :=
  (scanString cs).next fun name rest =>
    match expect left (String.ofList name) with
    | .error f => .error f
    | .ok c =>
        match skipBlank rest with
        | [] => .error .truncated
        | ':' :: rest => (readName c rest).mapValue fun v => (c, v)
        | _ => .error .malformed

/-- Reads members, the first one after its opening quote, and the closing
brace.  As many can be read as conventions are left. -/
def readMembers : Nat → List Convention → Conventions → List Char → Scan Conventions
  | 0, _, _, _ => .error .malformed
  | bound + 1, left, names, cs =>
      (readMember left cs).next fun (c, v) rest =>
        match skipBlank rest with
        | [] => .error .truncated
        | '\x7d' :: rest => .ok (names.set c v, rest)
        | ',' :: rest =>
            match skipBlank rest with
            | [] => .error .truncated
            | '"' :: rest => readMembers bound (left.erase c) (names.set c v) rest
            | _ => .error .malformed
        | _ => .error .malformed

/-- Reads an object after its opening brace. -/
def readObject (cs : List Char) : Scan Conventions :=
  match skipBlank cs with
  | [] => .error .truncated
  | '\x7d' :: rest => .ok ({}, rest)
  | '"' :: rest => readMembers (Convention.all.length + 1) Convention.all {} rest
  | _ => .error .malformed

/-! ### Arrays -/

/-- Reads the names of the given conventions, the first one in any case, and
the closing bracket. -/
def readNames : List Convention → Conventions → List Char → Scan Conventions
  | [], _, _ => .error .malformed
  | c :: left, names, cs =>
      (readName c cs).next fun v rest =>
        match skipBlank rest with
        | [] => .error .truncated
        | ']' :: rest => .ok (names.set c v, rest)
        | ',' :: rest =>
            if left.isEmpty then .error .malformed
            else
              match skipBlank rest with
              | [] => .error .truncated
              | ']' :: _ => .error .malformed
              | rest => readNames left (names.set c v) rest
        | _ => .error .malformed

/-- Reads an array after its opening bracket. -/
def readArray (cs : List Char) : Scan Conventions :=
  match skipBlank cs with
  | [] => .error .truncated
  | ']' :: rest => .ok ({}, rest)
  | rest => readNames Convention.all {} rest

/-! ### Whole configurations -/

/-- Reads the conventions of a configuration. -/
def readConfiguration (cs : List Char) : Scan Conventions :=
  match skipBlank cs with
  | [] => .error .truncated
  | '[' :: rest => readArray rest
  | '\x7b' :: rest => readObject rest
  | rest => .error (wrongKind "struct RenderConfig" rest)

/-- Decodes the text of a configuration, valid or not. -/
def decode (text : String) : Except Fault Conventions :=
  Json.whole readConfiguration text.toList

/-- Decodes the text of a configuration and validates it. -/
def load (text : String) : Except ConfigurationError SettledConventions :=
  match decode text with
  | .error f => .error (.unreadable f)
  | .ok names =>
      match SettledConventions.ofConventions names with
      | .error e => .error (.invalid e)
      | .ok settled => .ok settled

end Conventions

end VoiceDialogue
