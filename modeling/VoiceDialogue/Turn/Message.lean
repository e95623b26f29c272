/-
VoiceDialogue/Turn/Message.lean

Messages: a prompt that is played, and nothing is asked.

At least one audio item is required.  The language and the barge-in flag may
be left to the platform; a draft can also give the flag back to it.
-/
import VoiceDialogue.Turn.AudioItem

namespace VoiceDialogue

/-- A prompt to play. -/
structure Message where
  items : List AudioItem
  language : Option String
  /-- Whether the caller may interrupt the prompt. -/
  bargeIn : Option Bool
deriving DecidableEq

namespace Message

/-- The canonical JSON of a message. -/
def toJson (m : Message) : Json :=
  .object [("audioItems", .arr (m.items.map AudioItem.toJson)),
    ("language", .ofOption .str m.language), ("bargeIn", .ofOption .bool m.bargeIn)]

/-! ### Drafts -/

/-- One setting of a message. -/
inductive Setting
  | item (i : AudioItem)
  | items (is : List AudioItem)
  | language (tag : String)
  | bargeIn (flag : Option Bool)

/-- A message that has not been checked, and the name of its turn. -/
structure Draft where
  name : String
  items : List AudioItem := []
  language : Option String := none
  bargeIn : Option Bool := none

namespace Draft

/-- Takes a setting.  Items are appended; every other setting takes the place
of an earlier one of its kind. -/
def set (d : Draft) : Setting → Draft
  | .item i => { d with items := d.items ++ [i] }
  | .items is => { d with items := d.items ++ is }
  | .language tag => { d with language := some tag }
  | .bargeIn flag => { d with bargeIn := flag }

/-- Checks the items and the language, in this order. -/
def message (d : Draft) : Built Message :=
  if d.items.isEmpty then .error (.empty "audioItems")
  else do
    let language ← nonEmpty? "language" d.language
    return { items := d.items, language, bargeIn := d.bargeIn }

end Draft

end Message

end VoiceDialogue
