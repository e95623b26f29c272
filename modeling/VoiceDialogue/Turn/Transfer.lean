/-
VoiceDialogue/Turn/Transfer.lean

Transfers: the caller is connected to someone else.

A blind transfer releases the caller at once and nobody sees its outcome.  A
bridge keeps the caller and resumes the dialogue when the call ends.  A
consultation watches the setup of the call and releases the caller once it
succeeds.  So bridge and consultation are supervised, and blind and
consultation release the caller.
-/
import VoiceDialogue.Turn.AudioItem

namespace VoiceDialogue

namespace Transfer

/-- What becomes of the caller during a transfer. -/
inductive Style
  | bridge
  | blind
  | consultation
deriving DecidableEq

namespace Style

/-- The markup of a style. -/
def name : Style → String
  | .bridge => "bridge"
  | .blind => "blind"
  | .consultation => "consultation"

/-- The styles by name. -/
def choices : List (String × Style) := [.bridge, .blind, .consultation].map fun s => (s.name, s)

/-- Whether the outcome is seen before the caller is released. -/
def isSupervised (s : Style) : Bool := s ≠ .blind

/-- Whether a successful transfer drops the caller. -/
def releasesCaller (s : Style) : Bool := s ≠ .bridge

end Style

end Transfer

/-- A connection of the caller to a destination. -/
structure Transfer where
  destination : String
  style : Transfer.Style
  /-- Information that is sent along to the destination. -/
  aai : Option String
  /-- What the caller hears while the connection is set up. -/
  transferAudio : Option String
  /-- What is played before. -/
  items : List AudioItem
  /-- Time for the destination to answer. -/
  connectTimeout : Option Duration
  /-- Greatest length of the call. -/
  maxTime : Option Duration
deriving DecidableEq

namespace Transfer

/-- The canonical JSON of a transfer. -/
def toJson (t : Transfer) : Json :=
  .object [("destination", .str t.destination), ("transferType", .str t.style.name),
    ("aai", .ofOption .str t.aai), ("transferAudio", .ofOption .str t.transferAudio),
    ("audioItems", .arr (t.items.map AudioItem.toJson)),
    ("connectTimeout", .ofOption Duration.toJson t.connectTimeout),
    ("maxTime", .ofOption Duration.toJson t.maxTime)]

/-! ### Drafts -/

/-- One setting of a transfer. -/
inductive Setting
  | destination (location : String)
  | aai (text : String)
  | transferAudio (location : String)
  | item (i : AudioItem)
  | connectTimeout (d : Duration)
  | maxTime (d : Duration)

/-- A transfer that has not been checked, and the name of its turn. -/
structure Draft where
  name : String
  style : Style
  destination : Option String := none
  aai : Option String := none
  transferAudio : Option String := none
  items : List AudioItem := []
  connectTimeout : Option Duration := none
  maxTime : Option Duration := none

namespace Draft

/-- Takes a setting.  Items are appended; every other setting takes the place
of an earlier one of its kind. -/
def set (d : Draft) : Setting → Draft
  | .destination location => { d with destination := some location }
  | .aai text => { d with aai := some text }
  | .transferAudio location => { d with transferAudio := some location }
  | .item i => { d with items := d.items ++ [i] }
  | .connectTimeout t => { d with connectTimeout := some t }
  | .maxTime t => { d with maxTime := some t }

/-- The destination, which is required. -/
def destinationText (d : Draft) : Built String :=
  match d.destination with
  | none => .error (.missing "destination")
  | some location => nonEmpty "destination" location

/-- A connect timeout needs a supervised style, and a maximum time a bridge. -/
def checkTimes (d : Draft) : Built Unit :=
  if d.connectTimeout.isSome ∧ ¬ d.style.isSupervised then
    .error (.unsupportedOption "connectTimeout" d.style.name)
  else if d.maxTime.isSome ∧ d.style ≠ .bridge then
    .error (.unsupportedOption "maxTime" d.style.name)
  else .ok ()

/-- Checks the destination, the times and the other texts, in this order. -/
def transfer (d : Draft) : Built Transfer := do
  let destination ← d.destinationText
  d.checkTimes
  let aai ← nonEmpty? "aai" d.aai
  let transferAudio ← nonEmpty? "transferAudio" d.transferAudio
  return { destination, style := d.style, aai, transferAudio, items := d.items,
           connectTimeout := d.connectTimeout, maxTime := d.maxTime }

end Draft

end Transfer

end VoiceDialogue
