/-
VoiceDialogue/Markup/Element.lean

Markup as a tree: an element has a name, attributes and children, and a child
is an element or a piece of text.

A walk over the tree is a function on elements together with its companion on
lists of children; both follow the structure of the tree.  Text that is
appended is never empty, though a list of children that is put together by
hand may hold empty text.
-/
import VoiceDialogue.Markup.Attributes
import VoiceDialogue.Markup.Character

namespace VoiceDialogue

mutual

/-- A markup element. -/
structure Element where
  name : String
  attributes : Attributes
  children : List Node

/-- A child of an element. -/
inductive Node
  | element (e : Element)
  | text (s : String)

end

/-! ### Equality -/

mutual

/-- Decides whether two elements are equal. -/
def Element.decideEq : (a b : Element) → Decidable (a = b)
  | ⟨n, as, cs⟩, ⟨m, bs, ds⟩ =>
      if hn : n = m then
        if ha : as = bs then
          match Node.decideEqList cs ds with
          | isTrue hc => isTrue (by rw [hn, ha, hc])
          | isFalse hc => isFalse fun h => hc (Element.mk.inj h).2.2
        else isFalse fun h => ha (Element.mk.inj h).2.1
      else isFalse fun h => hn (Element.mk.inj h).1

/-- Decides whether two children are equal. -/
def Node.decideEq : (a b : Node) → Decidable (a = b)
  | .element e, .element f =>
      match Element.decideEq e f with
      | isTrue h => isTrue (by rw [h])
      | isFalse h => isFalse fun h' => h (Node.element.inj h')
  | .text s, .text t =>
      if h : s = t then isTrue (by rw [h]) else isFalse fun h' => h (Node.text.inj h')
  | .element _, .text _ => isFalse nofun
  | .text _, .element _ => isFalse nofun

/-- Decides whether two lists of children are equal. -/
def Node.decideEqList : (a b : List Node) → Decidable (a = b)
  | [], [] => isTrue rfl
  | c :: cs, d :: ds =>
      match Node.decideEq c d with
      | isTrue h =>
          match Node.decideEqList cs ds with
          | isTrue h' => isTrue (by rw [h, h'])
          | isFalse h' => isFalse fun e => h' (List.cons.inj e).2
      | isFalse h => isFalse fun e => h (List.cons.inj e).1
  | [], _ :: _ => isFalse nofun
  | _ :: _, [] => isFalse nofun

end

instance : DecidableEq Element := Element.decideEq
instance : DecidableEq Node := Node.decideEq

namespace Node

/-- The element that a child is, unless it is text. -/
def element? : Node → Option Element
  | .element e => some e
  | .text _ => none

/-- The text that a child is, unless it is an element. -/
def text? : Node → Option String
  | .element _ => none
  | .text s => some s

end Node

namespace Element

/-! ### Building -/

/-- An element without attributes and children. -/
def new (name : String) : Element := ⟨name, .empty, []⟩

instance : Inhabited Element := ⟨new ""⟩

/-- Gives an attribute a value. -/
def setAttribute (e : Element) (name value : String) : Element :=
  { e with attributes := e.attributes.set name value }

/-- Gives an attribute a value, if there is one. -/
def setAttribute? (e : Element) (name : String) (value : Option String) : Element :=
  { e with attributes := e.attributes.set? name value }

/-- Takes an attribute away. -/
def removeAttribute (e : Element) (name : String) : Element :=
  { e with attributes := e.attributes.erase name }

/-- Takes an attribute away, and gives the value that it had. -/
def takeAttribute (e : Element) (name : String) : Option String × Element :=
  ((e.attributes.remove name).1, { e with attributes := (e.attributes.remove name).2 })

/-- Appends a child, whatever it is. -/
def push (e : Element) (child : Node) : Element := { e with children := e.children ++ [child] }

/-- Appends an element. -/
def append (e : Element) (child : Element) : Element := e.push (.element child)

/-- Appends text, unless it is empty. -/
def appendText (e : Element) (text : String) : Element :=
  if text = "" then e else e.push (.text text)

/-! ### Looking at one element -/

/-- The value of an attribute. -/
def attribute? (e : Element) (name : String) : Option String := e.attributes.get? name

/-- The children that are elements. -/
def childElements (e : Element) : List Element := e.children.filterMap Node.element?

/-- The first child element of a name. -/
def firstChild? (e : Element) (name : String) : Option Element :=
  e.childElements.find? (·.name = name)

/-- The text among the children, as one string. -/
def text (e : Element) : String := String.join (e.children.filterMap Node.text?)

/-! ### Looking at the whole tree -/

mutual

/-- The element and all elements below it, in document order. -/
def descendants : Element → List Element
  | ⟨name, attributes, children⟩ => ⟨name, attributes, children⟩ :: descendantsOf children

/-- The elements in a list of children, in document order. -/
def descendantsOf : List Node → List Element
  | [] => []
  | .element e :: rest => e.descendants ++ descendantsOf rest
  | .text _ :: rest => descendantsOf rest

end

/-- The elements of a name in the tree, in document order. -/
def findAll (e : Element) (name : String) : List Element := e.descendants.filter (·.name = name)

/-- The number of elements in the tree. -/
def size (e : Element) : Nat := e.descendants.length

/-- The first character in the name or the attributes that no document can
carry. -/
def firstInvalidInTag? (e : Element) : Option Char :=
  (Markup.firstInvalid? e.name.toList).or
    (e.attributes.entries.findSome? fun a =>
      (Markup.firstInvalid? a.1.toList).or (Markup.firstInvalid? a.2.toList))

mutual

/-- The first character in the tree that no document can carry: of the name,
then of the attributes, then of the children. -/
def firstInvalid? : Element → Option Char
  | ⟨name, attributes, children⟩ =>
      (firstInvalidInTag? ⟨name, attributes, children⟩).or (firstInvalidIn? children)

/-- The first such character in a list of children. -/
def firstInvalidIn? : List Node → Option Char
  | [] => none
  | .element e :: rest => e.firstInvalid?.or (firstInvalidIn? rest)
  | .text s :: rest => (Markup.firstInvalid? s.toList).or (firstInvalidIn? rest)

end

end Element

end VoiceDialogue
