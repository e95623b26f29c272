/-
VoiceDialogue/Proofs/Markup/Normal.lean

What the normal form of a tree keeps.

Normalizing divides text anew and does nothing else: the elements of the tree
stay, in their order, and each of them has the name, the attributes and the
text that it had (`faces_normal`).  So a property of tags holds everywhere in
the normal form if it held everywhere before (`everywhere_normal`).
-/
import VoiceDialogue.Markup.Normal
import VoiceDialogue.Proofs.Markup.Everywhere

namespace VoiceDialogue

/-! ### Text in front of children -/

namespace Node

theorem prependText_empty (children : List Node) : prependText "" children = children := by
  simp [prependText]

/-- Text in front of children that do not start with text is a child. -/
theorem prependText_of_markup {s : String} {children : List Node} (nonempty : s ≠ "")
    (markup : ∀ t, children.head? ≠ some (.text t)) :
    prependText s children = .text s :: children := by
  cases children with
  | nil => simp [prependText, nonempty]
  | cons child _ =>
    cases child with
    | element _ => simp [prependText, nonempty]
    | text t => exact absurd rfl (markup t)

/-- Text in front of text in front of children is one piece of text. -/
theorem prependText_append (s t : String) (children : List Node) :
    prependText (s ++ t) children
      = prependText s (prependText t children) := by
  by_cases hs : s = ""
  · simp [prependText, hs]
  by_cases ht : t = ""
  · simp [prependText, ht]
  have hst : s ++ t ≠ "" := by simp [hs]
  -- text at the head of the children takes in both pieces, in the same order
  cases children with
  | nil => simp [prependText, hs, ht, hst]
  | cons child rest => cases child <;> simp [prependText, hs, ht, hst, String.append_assoc]

theorem descendantsOf_prependText (s : String) (children : List Node) :
    Element.descendantsOf (prependText s children) = Element.descendantsOf children := by
  by_cases hs : s = ""
  · rw [hs, prependText_empty]
  cases children with
  | nil => simp [prependText, hs, Element.descendantsOf]
  | cons child rest => cases child <;> simp [prependText, hs, Element.descendantsOf]

/-- The text among some children, as one string. -/
def textOf (children : List Node) : String := String.join (children.filterMap text?)

theorem textOf_text (t : String) (cs : List Node) : textOf (.text t :: cs) = t ++ textOf cs := by
  simp [textOf, text?]

theorem textOf_prependText (s : String) (children : List Node) :
    textOf (prependText s children) = s ++ textOf children := by
  by_cases hs : s = ""
  · rw [hs, prependText_empty, String.empty_append]
  cases children with
  | nil => simp [prependText, hs, textOf, text?]
  | cons child rest =>
    cases child <;> simp [prependText, hs, textOf, text?, String.append_assoc]

theorem textOf_normalAll (children : List Node) :
    textOf (Element.normalAll children) = textOf children := by
  induction children with
  | nil => rfl
  | cons child rest ih =>
    cases child with
    | element e =>
      rw [Element.normalAll]
      exact ih
    | text s =>
      rw [Element.normalAll, textOf_prependText, ih, textOf_text]

end Node

/-! ### Elements -/

namespace Element

/-- The name, the attributes and the text of an element itself. -/
def face (e : Element) : String × Attributes × String := (e.name, e.attributes, e.text)

mutual

/-- The normal form has the elements of the tree, and each has its name, its
attributes and its text. -/
theorem faces_normal : (e : Element) →
    e.normal.descendants.map face = e.descendants.map face
  | ⟨name, attributes, children⟩ => by
    rw [normal, descendants, descendants, List.map_cons, List.map_cons,
      faces_normalAll children]
    have same := Node.textOf_normalAll children
    rw [face, face, text, text, ← Node.textOf, ← Node.textOf, same]

theorem faces_normalAll : (children : List Node) →
    (descendantsOf (normalAll children)).map face = (descendantsOf children).map face
  | [] => rfl
  | .element e :: children => by
    rw [normalAll, descendantsOf, descendantsOf, List.map_append, List.map_append,
      faces_normal e, faces_normalAll children]
  | .text s :: children => by
    rw [normalAll, Node.descendantsOf_prependText, faces_normalAll children, descendantsOf]

end

/-! ### Properties of tags -/

variable {tag : String → Attributes → Prop}

theorem allEverywhere_prependText (s : String) (children : List Node) :
    Node.AllEverywhere tag (fun _ => True) (Node.prependText s children)
      ↔ Node.AllEverywhere tag (fun _ => True) children := by
  by_cases hs : s = ""
  · rw [hs, Node.prependText_empty]
  cases children with
  | nil => simp [Node.prependText, hs, Node.AllEverywhere]
  | cons child rest => cases child <;> simp [Node.prependText, hs, Node.AllEverywhere]

mutual

/-- Normalizing leaves tags alone. -/
theorem everywhere_normal : (e : Element) →
    (e.normal.Everywhere tag (fun _ => True) ↔ e.Everywhere tag fun _ => True)
  | ⟨name, attributes, children⟩ => by
    rw [normal, Everywhere, Everywhere, allEverywhere_normalAll children]

theorem allEverywhere_normalAll : (children : List Node) →
    (Node.AllEverywhere tag (fun _ => True) (normalAll children)
      ↔ Node.AllEverywhere tag (fun _ => True) children)
  | [] => Iff.rfl
  | .element e :: children => by
    rw [normalAll, Node.AllEverywhere, Node.AllEverywhere, everywhere_normal e,
      allEverywhere_normalAll children]
  | .text s :: children => by
    rw [normalAll, allEverywhere_prependText, allEverywhere_normalAll children,
      Node.AllEverywhere, true_and]

end

end Element

end VoiceDialogue
