/-
VoiceDialogue/Turn/AudioItem.lean

What a prompt plays, one item after the other.

The constructors of the type can be used directly; the functions beside them
refuse empty texts.
-/
import VoiceDialogue.Duration
import VoiceDialogue.Json.Value
import VoiceDialogue.Turn.ValidationError

namespace VoiceDialogue

/-- One item of a prompt. -/
inductive AudioItem
  /-- Text for the speech synthesizer. -/
  | speech (text : String)
  /-- A recorded prompt, and what is spoken when it cannot be played. -/
  | file (location : String) (alternative : Option String)
  /-- A silence. -/
  | pause (duration : Duration)
  /-- Audio that a script expression evaluates to. -/
  | recording (expression : String)
deriving DecidableEq

namespace AudioItem

/-! ### Checked items -/

/-- Speech with a text. -/
def speech? (text : String) : Built AudioItem := (nonEmpty "text" text).map .speech

/-- A recorded prompt, with a spoken alternative if one is given. -/
def file? (location : String) (alternative : Option String) : Built AudioItem := do
  let location ← nonEmpty "location" location
  let alternative ← nonEmpty? "alternative" alternative
  return .file location alternative

/-- Audio from an expression. -/
def recording? (expression : String) : Built AudioItem :=
  (nonEmpty "expression" expression).map .recording

/-! ### Canonical form -/

/-- The tag of an item. -/
def typeName : AudioItem → String
  | .speech _ => "speechSynthesis"
  | .file _ _ => "audioFile"
  | .pause _ => "pause"
  | .recording _ => "recording"

/-- The canonical JSON of an item. -/
def toJson : AudioItem → Json
  | .speech text => .object [("type", .str "speechSynthesis"), ("text", .str text)]
  | .file location alternative =>
      .object [("type", .str "audioFile"), ("location", .str location),
        ("alternative", .ofOption .str alternative)]
  | .pause duration => .object [("type", .str "pause"), ("duration", duration.toJson)]
  | .recording expression =>
      .object [("type", .str "recording"), ("expression", .str expression)]

end AudioItem

end VoiceDialogue
