/-
VoiceDialogue/Markup/Edit.lean

Changes to one element of a tree.

A path leads from the root to an element: at each step it names the position
of the next element among the child elements, text not counted.  An edit
(`Edit`) is one change at the end of a path; it fails, and changes nothing,
when there is no such element or no such child.
-/
import VoiceDialogue.Markup.Traversal

namespace VoiceDialogue

/-! ### Paths -/

namespace Node

/-- Changes the `i`-th element among some children. -/
def modifyElement? (f : Element → Option Element) : Nat → List Node → Option (List Node)
  | _, [] => none
  | i, .text s :: rest => (modifyElement? f i rest).map (.text s :: ·)
  | 0, .element e :: rest => (f e).map (.element · :: rest)
  | i + 1, .element e :: rest => (modifyElement? f i rest).map (.element e :: ·)

/-- Changes the first element of a name among some children, if there is one. -/
def modifyNamed (name : String) (f : Element → Element) : List Node → List Node
  | [] => []
  | .text s :: rest => .text s :: modifyNamed name f rest
  | .element e :: rest =>
      if e.name = name then .element (f e) :: rest else .element e :: modifyNamed name f rest

end Node

namespace Element

/-- The element at the end of a path. -/
def at? : List Nat → Element → Option Element
  | [], e => some e
  | i :: path, e =>
      match e.childElements[i]? with
      | none => none
      | some child => at? path child

/-- Changes the element at the end of a path. -/
def modifyAt? (f : Element → Option Element) : List Nat → Element → Option Element
  | [], e => f e
  | i :: path, e =>
      (Node.modifyElement? (modifyAt? f path) i e.children).map fun children => { e with children }

/-! ### Further changes -/

/-- Changes the first child element of a name, if there is one. -/
def modifyChild (e : Element) (name : String) (f : Element → Element) : Element :=
  { e with children := Node.modifyNamed name f e.children }

/-- Takes the child at a position away, if there is one. -/
def removeChild? (e : Element) (i : Nat) : Option Element :=
  if i < e.children.length then some { e with children := e.children.eraseIdx i } else none

/-- Puts the children in the opposite order. -/
def reverseChildren (e : Element) : Element := { e with children := e.children.reverse }

/-- Makes the element the only child of a new one, some number of times. -/
def wrap (name : String) : Nat → Element → Element
  | 0, e => e
  | n + 1, e => wrap name n ((new name).append e)

end Element

/-! ### Edits -/

/-- One change to an element. -/
inductive Edit
  | setAttribute (name value : String)
  | setAttribute? (name : String) (value : Option String)
  | removeAttribute (name : String)
  | append (child : Element)
  | appendText (text : String)
  | push (child : Node)
  | removeChild (i : Nat)
  | reverseChildren
  | setOnChild (child name value : String)
  | number (counter : String) (addition : Option Element.Addition)

namespace Edit

/-- The element after an edit, unless the edit fails. -/
def perform? : Edit → Element → Option Element
  | .setAttribute name value, e => some (e.setAttribute name value)
  | .setAttribute? name value, e => some (e.setAttribute? name value)
  | .removeAttribute name, e => some (e.removeAttribute name)
  | .append child, e => some (e.append child)
  | .appendText text, e => some (e.appendText text)
  | .push child, e => some (e.push child)
  | .removeChild i, e => e.removeChild? i
  | .reverseChildren, e => some e.reverseChildren
  | .setOnChild child name value, e => some (e.modifyChild child (·.setAttribute name value))
  | .number counter addition, e => (e.number? counter addition).map Prod.fst

end Edit

/-- A change to a document. -/
inductive DocumentEdit
  /-- An edit of the element at the end of a path. -/
  | edit (path : List Nat) (change : Edit)
  /-- The root becomes the only child of a new root, some number of times. -/
  | wrap (name : String) (times : Nat)

namespace DocumentEdit

/-- The root after a change, unless the change fails. -/
def perform? : DocumentEdit → Element → Option Element
  | .edit path change, root => root.modifyAt? change.perform? path
  | .wrap name times, root => some (root.wrap name times)

/-- The root after a series of changes; one that fails is passed over. -/
def applyAll (changes : List DocumentEdit) (root : Element) : Element :=
  changes.foldl (fun root change => (change.perform? root).getD root) root

end DocumentEdit

end VoiceDialogue
