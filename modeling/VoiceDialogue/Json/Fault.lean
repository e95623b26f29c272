/-
VoiceDialogue/Json/Fault.lean

What can be wrong with a JSON text.

A text is read from left to right and the first problem decides.  Either the
text ends too early, or it is no JSON, or it is JSON of the wrong shape; only
the last has a message, because only it is about the value and not about its
spelling.
-/
import VoiceDialogue.Json.Printer
import VoiceDialogue.Text.Quoted

namespace VoiceDialogue

namespace Json

/-- What stands where a value of another kind is wanted. -/
inductive Found
  | null
  | bool (b : Bool)
  | int (n : Int)
  | float (x : Float)
  | str (s : String)
  | arr
  | obj

/-- A value of the wrong shape. -/
inductive Mismatch
  /-- A value of another kind. -/
  | wrongKind (found : Found) (wanted : String)
  /-- A value of the right kind, but out of range. -/
  | outOfRange (found : Found) (wanted : String)
  /-- A member that is none of the known ones. -/
  | unknownMember (name : String) (known : List String)
  /-- A member that was given before. -/
  | repeatedMember (name : String)
  /-- A choice that is none of the known ones. -/
  | unknownChoice (name : String) (known : List String)

/-- Why a text was refused. -/
inductive Fault
  /-- The text ends where more is needed. -/
  | truncated
  /-- The text is no JSON. -/
  | malformed
  /-- The text is JSON as far as it was read, but of the wrong shape. -/
  | mismatch (m : Mismatch)

/-! ### Wording -/

/-- Text between grave accents. -/
def ticked (s : String) : String := "`" ++ s ++ "`"

/-- The known names, as a phrase: two with "or" between them, more as a list. -/
def alternatives : List String → String
  | [] => "nothing"
  | [a] => ticked a
  | [a, b] => ticked a ++ " or " ++ ticked b
  | names => "one of " ++ String.intercalate ", " (names.map ticked)

/-- How a message names what it found. -/
def Found.phrase : Found → String
  | .null => "null"
  | .bool b => "boolean " ++ ticked (if b then "true" else "false")
  | .int n => "integer " ++ ticked (String.ofList (writeInt n))
  | .float x => "floating point " ++ ticked (String.ofList (writeFloat x))
  | .str s => "string " ++ Text.quoted s
  | .arr => "sequence"
  | .obj => "map"

/-- The message of a mismatch. -/
def Mismatch.message : Mismatch → String
  | .wrongKind found wanted => "invalid type: " ++ found.phrase ++ ", expected " ++ wanted
  | .outOfRange found wanted => "invalid value: " ++ found.phrase ++ ", expected " ++ wanted
  | .unknownMember name known =>
      "unknown field " ++ ticked name ++ ", expected " ++ alternatives known
  | .repeatedMember name => "duplicate field " ++ ticked name
  | .unknownChoice name known =>
      "unknown variant " ++ ticked name ++ ", expected " ++ alternatives known

end Json

end VoiceDialogue
