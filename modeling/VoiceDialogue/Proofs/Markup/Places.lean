/-
VoiceDialogue/Proofs/Markup/Places.lean

Walks of visitors, place by place.

Every element of a tree has a place, the path that leads to it from the root, and
in document order the places belong to the elements one for one
(`Element.map_at?_places`).

A walk can be seen from the root: each call changes the element at one place of
the whole tree and leaves everything else alone (`Element.visitAt`).  Seen so, a
walk is nothing but calls at the places of the tree that it leaves, one at each
place, in document order (`Walk.at_places`).  The places are those of the tree
in the end; but what comes before a place in document order does not change any
more when the place is visited, so each of them leads to the same element then.
-/
import VoiceDialogue.Markup.Edit
import VoiceDialogue.Proofs.Markup.Walks

namespace VoiceDialogue

variable {σ : Type}

/-! ### Places -/

mutual

/-- The places of the elements of a tree, in document order. -/
def Element.places : Element → List (List Nat)
  | ⟨_, _, children⟩ => [] :: Node.placesFrom 0 children

/-- The places of the elements among some children and below, if the first
element has the given position. -/
def Node.placesFrom (i : Nat) : List Node → List (List Nat)
  | [] => []
  | .element e :: rest => e.places.map (i :: ·) ++ Node.placesFrom (i + 1) rest
  | .text _ :: rest => Node.placesFrom i rest

end

namespace Node

/-- The elements among some children. -/
def elements (cs : List Node) : List Element := cs.filterMap element?

theorem getElem?_elements_append (before : List Node) (e : Element) (rest : List Node) :
    (elements (before ++ .element e :: rest))[(elements before).length]? = some e := by
  rw [elements, elements, List.filterMap_append, List.getElem?_append_right (Nat.le_refl _),
    Nat.sub_self]
  rfl

theorem length_elements_concat (before : List Node) (e : Element) :
    (elements (before ++ [.element e])).length = (elements before).length + 1 := by
  rw [elements, List.filterMap_append, List.length_append]
  rfl

theorem elements_concat_text (before : List Node) (t : String) :
    elements (before ++ [.text t]) = elements before := by
  rw [elements, List.filterMap_append]
  exact List.append_nil _

/-- A change of the element behind some others. -/
theorem modifyElement?_append (g : Element → Option Element) (before : List Node) (e : Element)
    (rest : List Node) :
    modifyElement? g (elements before).length (before ++ .element e :: rest) =
      (g e).map fun e' => before ++ .element e' :: rest := by
  induction before with
  | nil => rfl
  | cons c before ih =>
    cases c with
    | text t =>
      show (modifyElement? g (elements before).length (before ++ .element e :: rest)).map _ = _
      rw [ih, Option.map_map]
      rfl
    | element x =>
      show (modifyElement? g (elements before).length (before ++ .element e :: rest)).map _ = _
      rw [ih, Option.map_map]
      rfl

end Node

namespace Element

variable (name : String) (attributes : Attributes) (before : List Node) (e : Element)
  (rest : List Node)

/-- The tree that has an element among the children of its root. -/
def around (e : Element) : Element := ⟨name, attributes, before ++ .element e :: rest⟩

theorem at?_around (place : List Nat) :
    (around name attributes before rest e).at? ((Node.elements before).length :: place) =
      e.at? place := by
  have child : (around name attributes before rest e).childElements[(Node.elements before).length]?
      = some e := Node.getElem?_elements_append before e rest
  rw [at?, child]

theorem modifyAt?_around (g : Element → Option Element) (place : List Nat) :
    (around name attributes before rest e).modifyAt? g ((Node.elements before).length :: place) =
      (e.modifyAt? g place).map (around name attributes before rest) := by
  rw [modifyAt?, around, Node.modifyElement?_append, Option.map_map]
  rfl

end Element

mutual

/-- There is one place for each element, in document order. -/
theorem Element.map_at?_places : (e : Element) →
    e.places.map (fun place => e.at? place) = e.descendants.map some
  | ⟨name, attributes, children⟩ => by
    rw [Element.places, Element.descendants, List.map_cons, List.map_cons]
    exact congrArg _ (Node.map_at?_placesFrom name attributes [] children)

theorem Node.map_at?_placesFrom (name : String) (attributes : Attributes) (before : List Node) :
    (cs : List Node) →
      (Node.placesFrom (Node.elements before).length cs).map
          (fun place => Element.at? place ⟨name, attributes, before ++ cs⟩) =
        (Element.descendantsOf cs).map some
  | [] => rfl
  | .element e :: rest => by
    have later := Node.map_at?_placesFrom name attributes (before ++ [.element e]) rest
    rw [Node.length_elements_concat, List.append_assoc] at later
    have inside : (e.places.map ((Node.elements before).length :: ·)).map
        (fun place => Element.at? place ⟨name, attributes, before ++ .element e :: rest⟩) =
          e.descendants.map some := by
      rw [← e.map_at?_places, List.map_map]
      exact List.map_congr_left fun place _ =>
        Element.at?_around name attributes before e rest place
    rw [Node.placesFrom, Element.descendantsOf, List.map_append, List.map_append, inside]
    exact congrArg _ later
  | .text t :: rest => by
    have later := Node.map_at?_placesFrom name attributes (before ++ [.text t]) rest
    rw [Node.elements_concat_text, List.append_assoc] at later
    rw [Node.placesFrom, Element.descendantsOf]
    exact later

end

/-! ### Calls at places -/

namespace Element

/-- A call of a visitor at one place of a whole tree; none if there is no such
place. -/
def visitAt (f : Visitor σ) (t : Element × σ) (place : List Nat) : Option (Element × σ) :=
  (t.1.at? place).bind fun x =>
    (t.1.modifyAt? (fun x => some (f x t.2).1) place).map fun e => (e, (f x t.2).2)

variable (f : Visitor σ)

theorem visitAt_nil (t : Element × σ) : visitAt f t [] = some (f t.1 t.2) := rfl

/-- A call inside a child changes the child. -/
theorem visitAt_around (name : String) (attributes : Attributes) (before rest : List Node)
    (t : Element × σ) (place : List Nat) :
    visitAt f (around name attributes before rest t.1, t.2)
        ((Node.elements before).length :: place) =
      (visitAt f t place).map fun r => (around name attributes before rest r.1, r.2) := by
  rw [visitAt, visitAt, at?_around, modifyAt?_around]
  cases t.1.at? place with
  | none => rfl
  | some x =>
    rw [Option.bind_some, Option.bind_some, Option.map_map, Option.map_map]
    rfl

/-- Calls inside a child change the child. -/
theorem foldlM_visitAt_around (name : String) (attributes : Attributes) (before rest : List Node)
    (places : List (List Nat)) (t : Element × σ) :
    (places.map ((Node.elements before).length :: ·)).foldlM (visitAt f)
        (around name attributes before rest t.1, t.2) =
      (places.foldlM (visitAt f) t).map fun r =>
        (around name attributes before rest r.1, r.2) := by
  induction places generalizing t with
  | nil => rfl
  | cons place places ih =>
    rw [List.map_cons, List.foldlM_cons, List.foldlM_cons, visitAt_around]
    cases visitAt f t place with
    | none => rfl
    | some r => exact ih r

end Element

variable {f : Visitor σ}

mutual

/-- A walk is calls at the places of the tree that it leaves. -/
theorem Element.Walk.at_places {e e' : Element} {s s' : σ} {visits : List (Visit σ)} :
    e.Walk f s visits e' s' → e'.places.foldlM (Element.visitAt f) (e, s) = some (e', s')
  | .visit below => by
    have rest := below.at_places (f e s).1.name (f e s).1.attributes []
    rw [List.nil_append, Element.mk_fields] at rest
    rw [Element.places, List.foldlM_cons, Element.visitAt_nil]
    exact rest

theorem Node.WalkAll.at_places {cs cs' : List Node} {s s' : σ} {visits : List (Visit σ)} :
    Node.WalkAll f cs s visits cs' s' → ∀ name attributes before,
      (Node.placesFrom (Node.elements before).length cs').foldlM (Element.visitAt f)
        (⟨name, attributes, before ++ cs⟩, s) = some (⟨name, attributes, before ++ cs'⟩, s')
  | .nil, _, _, _ => rfl
  | .text (t := t) rest, name, attributes, before => by
    have later := rest.at_places name attributes (before ++ [.text t])
    rw [Node.elements_concat_text, List.append_assoc, List.append_assoc] at later
    rw [Node.placesFrom]
    exact later
  | @Node.WalkAll.element _ _ e cs s _ e' _ _ _ _ first rest, name, attributes, before => by
    -- the calls inside the child leave the children beside it alone
    have inside := Element.foldlM_visitAt_around f name attributes before cs e'.places (e, s)
    rw [first.at_places] at inside
    have later := rest.at_places name attributes (before ++ [.element e'])
    rw [Node.length_elements_concat, List.append_assoc, List.append_assoc] at later
    rw [Node.placesFrom, List.foldlM_append]
    exact (congrArg (· >>= _) inside).trans later

end

end VoiceDialogue
