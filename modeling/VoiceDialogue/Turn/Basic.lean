/-
VoiceDialogue/Turn/Basic.lean

Turns: one step of a voice dialogue each.

A turn has a name, a payload of one of three kinds, and the adapters that run
over its documents.  Turns come from drafts, which check everything, and the
name last; afterwards only adapters can be appended.

Two turns are equal when names and payloads are and when they have the same
adapters in the same order.  The canonical JSON of a turn shows its name and
its payload and nothing else.
-/
import VoiceDialogue.Adapter.Basic
import VoiceDialogue.Json.Printer
import VoiceDialogue.Turn.Message
import VoiceDialogue.Turn.ObjectCall
import VoiceDialogue.Turn.Transfer

namespace VoiceDialogue

/-- What a turn does. -/
inductive Payload
  | message (m : Message)
  | objectCall (c : ObjectCall)
  | transfer (t : Transfer)
deriving DecidableEq

namespace Payload

/-- The tag of a kind of turn. -/
def typeName : Payload → String
  | .message _ => "message"
  | .objectCall _ => "object"
  | .transfer _ => "transfer"

/-- The canonical JSON of a payload. -/
def toJson : Payload → Json
  | .message m => m.toJson
  | .objectCall c => c.toJson
  | .transfer t => t.toJson

end Payload

/-- One step of a dialogue. -/
structure Turn (σ : Type) where
  name : String
  payload : Payload
  adapters : List (Handle σ)

namespace Turn

variable {σ : Type}

instance : BEq (Turn σ) where
  beq a b := a.name == b.name && a.adapters == b.adapters && a.payload == b.payload

/-! ### Building -/

/-- A turn without adapters. -/
def new (name : String) (payload : Payload) : Built (Turn σ) := do
  let name ← nonEmpty "name" name
  return { name, payload, adapters := [] }

/-- Appends an adapter. -/
def addAdapter (t : Turn σ) (h : Handle σ) : Turn σ := { t with adapters := t.adapters ++ [h] }

/-! ### Canonical form -/

/-- The canonical JSON of a turn. -/
def toJson (t : Turn σ) : Json :=
  .object [("name", .str t.name), ("data", t.payload.toJson)]

/-- The line that stands for a turn in a log. -/
def text (t : Turn σ) : String := t.toJson.text

end Turn

/-! ### Drafts -/

variable {σ : Type}

/-- Builds the turn of a message. -/
def Message.Draft.build (d : Message.Draft) : Built (Turn σ) := do
  let m ← d.message
  Turn.new d.name (.message m)

/-- Builds the turn of an object call. -/
def ObjectCall.Draft.build (d : ObjectCall.Draft) : Built (Turn σ) := do
  let c ← d.objectCall
  Turn.new d.name (.objectCall c)

/-- Builds the turn of a transfer. -/
def Transfer.Draft.build (d : Transfer.Draft) : Built (Turn σ) := do
  let t ← d.transfer
  Turn.new d.name (.transfer t)

namespace Turn

/-- A message with the given settings. -/
def messageOf (name : String) (settings : List Message.Setting) : Built (Turn σ) :=
  (settings.foldl Message.Draft.set { name }).build

/-- An object call with the given settings. -/
def objectCallOf (name : String) (settings : List ObjectCall.Setting) : Built (Turn σ) :=
  (settings.foldl ObjectCall.Draft.set { name }).build

/-- A transfer of a style with the given settings. -/
def transferOf (name : String) (style : Transfer.Style) (settings : List Transfer.Setting) :
    Built (Turn σ) :=
  (settings.foldl Transfer.Draft.set { name, style }).build

/-- A message that plays some items. -/
def message (name : String) (items : List AudioItem) : Built (Turn σ) :=
  messageOf name [.items items]

/-- An object call that says nothing about its object. -/
def objectCall (name : String) : Built (Turn σ) := objectCallOf name []

/-- A transfer to a destination. -/
def transfer (name destination : String) (style : Transfer.Style) : Built (Turn σ) :=
  transferOf name style [.destination destination]

end Turn

end VoiceDialogue
