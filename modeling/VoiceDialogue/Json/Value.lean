/-
VoiceDialogue/Json/Value.lean

JSON values.

Whole numbers are kept exactly, so that a 64-bit count survives; every other
number is a double.  An object is a list of members, in the order of its
text, and a name may occur more than once.

The canonical form of a value (`Json.canonical`) has the members of every
object sorted by name, in code point order, without repetition: of two
members of one name the later one counts.  Values that the library builds
itself come from `Json.object` and are canonical from the start.
-/

namespace VoiceDialogue

/-- A JSON value. -/
inductive Json
  | null
  | bool (b : Bool)
  | int (n : Int)
  | float (x : Float)
  | str (s : String)
  | arr (items : List Json)
  | obj (members : List (String × Json))

namespace Json

/-! ### Sorted members -/

/-- Puts a member where its name belongs, in place of one with the same name. -/
def insertMember (name : String) (value : Json) : List (String × Json) → List (String × Json)
  | [] => [(name, value)]
  | (n, v) :: rest =>
      if name < n then (name, value) :: (n, v) :: rest
      else if name = n then (name, value) :: rest
      else (n, v) :: insertMember name value rest

/-- Members sorted by name; of two with one name the later one counts. -/
def sortMembers (members : List (String × Json)) : List (String × Json) :=
  members.foldl (fun sorted m => insertMember m.1 m.2 sorted) []

/-- The object with the given members. -/
def object (members : List (String × Json)) : Json := .obj (sortMembers members)

mutual

/-- The same value with sorted members, at every depth. -/
def canonical : Json → Json
  | .arr items => .arr (canonicalItems items)
  | .obj members => .obj (sortMembers (canonicalMembers members))
  | v => v

/-- The same items with sorted members. -/
def canonicalItems : List Json → List Json
  | [] => []
  | v :: rest => canonical v :: canonicalItems rest

/-- The same members, with sorted members inside their values. -/
def canonicalMembers : List (String × Json) → List (String × Json)
  | [] => []
  | (n, v) :: rest => (n, canonical v) :: canonicalMembers rest

end

/-! ### Building and inspecting -/

/-- A count. -/
def ofNat (n : Nat) : Json := .int n

/-- An absent value is written as null. -/
def ofOption {α : Type} (f : α → Json) : Option α → Json
  | none => .null
  | some a => f a

/-- The member of an object with the given name; the last one counts. -/
def member? (name : String) : Json → Option Json
  | .obj members => (members.reverse.find? (·.1 = name)).map Prod.snd
  | _ => none

end Json

end VoiceDialogue
