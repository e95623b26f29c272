/-
VoiceDialogue/Render/Document.lean

The document of a turn: a root that declares the version of the markup, and a
single form with the item of the turn.

The names of the platform are checked first, all of them and for every kind
of turn, whether the document would show them or not.
-/
import VoiceDialogue.Markup.Writer
import VoiceDialogue.Render.Item

namespace VoiceDialogue

namespace Render

/-- The form around an item. -/
def form (p : Platform) (item : Element) : Element :=
  ((Element.new "form").setAttribute "id" p.formId).append item

/-- The root around a form. -/
def root (p : Platform) (form : Element) : Element :=
  let e := (Element.new "vxml").setAttribute "version" "2.1"
  let e := e.setAttribute "xmlns" "http://www.w3.org/2001/vxml"
  (e.setAttribute? "application" p.applicationRoot).append form

/-- The document of a payload. -/
def document (p : Platform) (payload : Payload) : Except Obstacle Document :=
  match p.firstEmpty? with
  | some c => .error (.emptyName c)
  | none =>
      match item p payload with
      | .error o => .error o
      | .ok item => .ok ⟨root p (form p item)⟩

end Render

end VoiceDialogue
