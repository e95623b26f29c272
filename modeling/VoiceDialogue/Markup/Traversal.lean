/-
VoiceDialogue/Markup/Traversal.lean

Changing a tree from the root down.

A visitor is given one element at a time and may change anything in it; the
walk then goes on with the child elements that the visitor left, in their
order, so a child that a visitor adds is visited as well.  A visitor that
keeps adding children would never come to an end; the walk therefore has a
bound on its depth, and gives nothing when the bound is reached.

Numbering (`Element.number?`) is such a walk.
-/
import VoiceDialogue.Markup.Element

namespace VoiceDialogue

/-- A visitor with a state: the element it leaves and the state after. -/
abbrev Visitor (σ : Type) := Element → σ → Element × σ

namespace Node

/-- Visits the elements among some children, from left to right. -/
def visitAll {σ : Type} (visit : Element → σ → Option (Element × σ)) :
    List Node → σ → Option (List Node × σ)
  | [], s => some ([], s)
  | .text t :: rest, s =>
      match visitAll visit rest s with
      | none => none
      | some (rest', s') => some (.text t :: rest', s')
  | .element e :: rest, s =>
      match visit e s with
      | none => none
      | some (e', s') =>
          match visitAll visit rest s' with
          | none => none
          | some (rest', s'') => some (.element e' :: rest', s'')

end Node

namespace Element

/-- Visits the element and then the elements it has after the visit, to the
given depth. -/
def visit {σ : Type} (f : Visitor σ) : Nat → Element → σ → Option (Element × σ)
  | 0, _, _ => none
  | depth + 1, e, s =>
      let (e', s') := f e s
      match Node.visitAll (visit f depth) e'.children s' with
      | none => none
      | some (children, s'') => some ({ e' with children }, s'')

mutual

/-- The number of elements on the longest way down. -/
def depth : Element → Nat
  | ⟨_, _, children⟩ => depthOf children + 1

/-- The greatest depth among some children. -/
def depthOf : List Node → Nat
  | [] => 0
  | .element e :: rest => max e.depth (depthOf rest)
  | .text _ :: rest => depthOf rest

end

/-! ### Numbering -/

/-- An element to add below every element of a name. -/
structure Addition where
  parent : String
  child : String

/-- Whether a child is to be added below an element. -/
def Addition.applies (a : Addition) (e : Element) : Bool :=
  e.name = a.parent && a.child ≠ a.parent

/-- Writes the running number of an element into an attribute and adds a child where one is to be added. -/
def numberOne (counter : String) (addition : Option Addition) : Visitor Nat := fun e count =>
  let e := e.setAttribute counter (Nat.repr count)
  match addition with
  | some a => (if a.applies e then e.append (.new a.child) else e, count + 1)
  | none => (e, count + 1)

/-- Numbers the elements of the tree from zero on, in document order, added children
included.  Gives the tree and the number of elements. -/
def number? (e : Element) (counter : String) (addition : Option Addition) :
    Option (Element × Nat) :=
  e.visit (numberOne counter addition) (e.depth + 1) 0

end Element

end VoiceDialogue
