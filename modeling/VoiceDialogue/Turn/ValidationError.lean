/-
VoiceDialogue/Turn/ValidationError.lean

What a builder refuses, and the two checks that most builders share: a
required text must not be empty, and an optional one must not be empty where
it is given.
-/

namespace VoiceDialogue

/-- Why a value could not be built. -/
inductive ValidationError
  /-- A required field, or an optional one that was given, is empty. -/
  | empty (field : String)
  /-- A required field was never given. -/
  | missing (field : String)
  /-- A parameter has both a value and an expression. -/
  | conflictingPayload (parameter : String)
  /-- A parameter has neither a value nor an expression. -/
  | missingPayload (parameter : String)
  /-- An option was given that the style of the transfer does not have. -/
  | unsupportedOption (option style : String)
  /-- A field is outside of its range. -/
  | outOfRange (field reason : String)
deriving DecidableEq

namespace ValidationError

/-- The wording of an error. -/
def message : ValidationError → String
  | .empty field => field ++ " must not be empty"
  | .missing field => field ++ " is required"
  | .conflictingPayload parameter =>
      "parameter " ++ parameter ++ ": value and expression are mutually exclusive"
  | .missingPayload parameter =>
      "parameter " ++ parameter ++ ": a value or an expression is required"
  | .unsupportedOption option style =>
      option ++ " is not supported by " ++ style ++ " transfers"
  | .outOfRange field reason => field ++ ": " ++ reason

end ValidationError

/-- Result of building something. -/
abbrev Built (α : Type) := Except ValidationError α

/-- A text that must not be empty. -/
def nonEmpty (field text : String) : Built String :=
  if text = "" then .error (.empty field) else .ok text

/-- A text that must not be empty if it is given. -/
def nonEmpty? (field : String) : Option String → Built (Option String)
  | none => .ok none
  | some text => if text = "" then .error (.empty field) else .ok (some text)

end VoiceDialogue
