/-
VoiceDialogue/Markup/Normal.lean

Trees up to the division of text.

Markup does not show where one piece of text ends and the next one starts,
nor text that is empty.  The normal form of a tree has no empty text, and no
text next to other text; whoever reads markup gets trees in normal form.
-/
import VoiceDialogue.Markup.Element

namespace VoiceDialogue

namespace Node

/-- Puts text in front of some children, joined to text that is there. -/
def prependText (s : String) (children : List Node) : List Node :=
  if s = "" then children
  else
    match children with
    | .text t :: rest => .text (s ++ t) :: rest
    | _ => .text s :: children

end Node

namespace Element

mutual

/-- The same tree with its text in as few pieces as possible. -/
def normal : Element → Element
  | ⟨name, attributes, children⟩ => ⟨name, attributes, normalAll children⟩

/-- The same children with their text in as few pieces as possible. -/
def normalAll : List Node → List Node
  | [] => []
  | .element e :: rest => .element e.normal :: normalAll rest
  | .text s :: rest => Node.prependText s (normalAll rest)

end

end Element

end VoiceDialogue
