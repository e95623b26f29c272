/-
VoiceDialogue/Render/Prompt.lean

Audio items as the children of a prompt.

Each item becomes one child.  Two pieces of speech that follow each other
would run together, so a piece of speech that comes right after text has a
single blank put before it.  An item without content has no markup and is an
obstacle.
-/
import VoiceDialogue.Failure
import VoiceDialogue.Markup.Element
import VoiceDialogue.Turn.AudioItem

namespace VoiceDialogue

namespace Render

/-- Whether the last child of an element is text. -/
def endsInText (e : Element) : Bool := e.children.getLast?.any fun c => c.text?.isSome

/-- Appends an audio item to an element. -/
def appendItem (e : Element) : AudioItem → Except Obstacle Element
  | .speech text =>
      if text = "" then .error .emptySpeech
      else if endsInText e then .ok ((e.appendText " ").appendText text)
      else .ok (e.appendText text)
  | .file location alternative =>
      if location = "" then .error .emptyLocation
      else
        let audio := (Element.new "audio").setAttribute "src" location
        .ok (e.append (audio.appendText (alternative.getD "")))
  | .pause duration =>
      .ok (e.append ((Element.new "break").setAttribute "time" duration.designation))
  | .recording expression =>
      if expression = "" then .error .emptyRecording
      else .ok (e.append ((Element.new "audio").setAttribute "expr" expression))

/-- Appends audio items to an element, in their order. -/
def appendItems (e : Element) : List AudioItem → Except Obstacle Element
  | [] => .ok e
  | item :: rest =>
      match appendItem e item with
      | .error o => .error o
      | .ok e => appendItems e rest

/-- A prompt that plays some items. -/
def prompt (items : List AudioItem) : Except Obstacle Element :=
  appendItems (.new "prompt") items

end Render

end VoiceDialogue
