/-
VoiceDialogue/Turn/Parameter.lean

Arguments of object calls.

A parameter has a name and exactly one of a literal value and a script
expression; the type `Payload` leaves no other possibility.  A draft, in
contrast, takes both kinds in any order, and building it decides.
-/
import VoiceDialogue.Json.Printer
import VoiceDialogue.Turn.ValidationError

namespace VoiceDialogue

namespace Parameter

/-- How an object takes a value. -/
inductive ValueType
  /-- As data. -/
  | data
  /-- As a reference to data. -/
  | ref
deriving DecidableEq

namespace ValueType

/-- The markup of a value type. -/
def name : ValueType → String
  | .data => "data"
  | .ref => "ref"

/-- The value types by name. -/
def choices : List (String × ValueType) := [.data, .ref].map fun t => (t.name, t)

end ValueType

/-- What a parameter passes. -/
inductive Payload
  /-- A literal string. -/
  | value (text : String)
  /-- The value of a script expression. -/
  | expression (code : String)
deriving DecidableEq

end Parameter

/-- A named argument. -/
structure Parameter where
  name : String
  payload : Parameter.Payload
  valueType : Option Parameter.ValueType
  mediaType : Option String
deriving DecidableEq

namespace Parameter

/-- The literal value, if there is one. -/
def value? (p : Parameter) : Option String :=
  match p.payload with
  | .value text => some text
  | .expression _ => none

/-- The expression, if there is one. -/
def expression? (p : Parameter) : Option String :=
  match p.payload with
  | .value _ => none
  | .expression code => some code

/-- The canonical JSON of a parameter. -/
def toJson (p : Parameter) : Json :=
  .object [("name", .str p.name), ("expression", .ofOption .str p.expression?),
    ("value", .ofOption .str p.value?), ("type", .ofOption .str p.mediaType),
    ("valueType", .ofOption (fun t => .str t.name) p.valueType)]

/-! ### Drafts -/

/-- One setting of a parameter. -/
inductive Setting
  | value (text : String)
  | expression (code : String)
  | valueType (t : ValueType)
  | mediaType (text : String)

/-- A parameter that has not been checked. -/
structure Draft where
  name : String
  value : Option String := none
  expression : Option String := none
  valueType : Option ValueType := none
  mediaType : Option String := none

namespace Draft

/-- Takes a setting, in place of an earlier one of its kind. -/
def set (d : Draft) : Setting → Draft
  | .value text => { d with value := some text }
  | .expression code => { d with expression := some code }
  | .valueType t => { d with valueType := some t }
  | .mediaType text => { d with mediaType := some text }

/-- The payload of a draft: exactly one must have been given. -/
def payload (d : Draft) : Built Payload :=
  match d.value, d.expression with
  | some text, none => .ok (.value text)
  | none, some code => (nonEmpty "expression" code).map .expression
  | some _, some _ => .error (.conflictingPayload d.name)
  | none, none => .error (.missingPayload d.name)

/-- Checks the name, the payload and the media type, in this order. -/
def build (d : Draft) : Built Parameter := do
  let name ← nonEmpty "parameter name" d.name
  let payload ← d.payload
  let mediaType ← nonEmpty? "parameter type" d.mediaType
  return { name, payload, valueType := d.valueType, mediaType }

end Draft

/-- The parameter of a name with the given settings. -/
def ofSettings (name : String) (settings : List Setting) : Built Parameter :=
  (settings.foldl Draft.set { name }).build

/-- A parameter with a literal value. -/
def withValue (name text : String) : Built Parameter := ofSettings name [.value text]

/-- A parameter with an expression. -/
def withExpression (name code : String) : Built Parameter := ofSettings name [.expression code]

/-- A parameter that passes a JSON value: its text is a script expression. -/
def withJson (name : String) (value : Json) : Built Parameter :=
  withExpression name value.canonical.text

end Parameter

end VoiceDialogue
