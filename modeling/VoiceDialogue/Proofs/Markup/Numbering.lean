/-
VoiceDialogue/Proofs/Markup/Numbering.lean

What a visitor does to a whole tree, and numbering as a case of it.

Numbering adds children while it goes, so the elements that get a number are not
those of the tree at hand.  They are those of the extended tree, in which all
additions have been made and nothing has been numbered (`Element.extended`); the
walk leaves that tree with its numbers (`Element.walk_numberOne`).  An added child
has a name of its own, so nothing is added below it, and the tree grows by one
level at most; this is why the bound that `number?` sets is enough.

The main theorem of these modules (`visit_in_document_order`) says first, of any
visitor, which calls are made and what they leave, and then what they come to if
the visitor numbers.
-/
import VoiceDialogue.Proofs.Markup.Places

namespace VoiceDialogue

/-! ### The extended tree -/

namespace Element

/-- The children that are added below an element of a name. -/
def additionsTo : Option Addition → String → List Node
  | some a, name => if name = a.parent ∧ a.child ≠ a.parent then [.element (.new a.child)] else []
  | none, _ => []

mutual

/-- The tree with all additions made. -/
def extended (addition : Option Addition) : Element → Element
  | ⟨name, attributes, children⟩ =>
      ⟨name, attributes, extendedAll addition children ++ additionsTo addition name⟩

/-- Children with all additions made below them. -/
def extendedAll (addition : Option Addition) : List Node → List Node
  | [] => []
  | .element e :: rest => .element (e.extended addition) :: extendedAll addition rest
  | .text t :: rest => .text t :: extendedAll addition rest

end

mutual

/-- The tree with its elements numbered from `k` on, in document order. -/
def numbered (counter : String) (k : Nat) : Element → Element
  | ⟨name, attributes, children⟩ =>
      ⟨name, attributes.set counter (Nat.repr k), numberedAll counter (k + 1) children⟩

/-- Children with the elements among them and below numbered from `k` on. -/
def numberedAll (counter : String) (k : Nat) : List Node → List Node
  | [] => []
  | .element e :: rest => .element (e.numbered counter k) :: numberedAll counter (k + e.size) rest
  | .text t :: rest => .text t :: numberedAll counter k rest

end

variable {addition : Option Addition} {counter : String}

theorem additionsTo_cases (addition : Option Addition) (name : String) :
    additionsTo addition name = [] ∨
      ∃ child, additionsTo addition name = [.element (.new child)] ∧
        additionsTo addition child = [] := by
  cases addition with
  | none => exact .inl rfl
  | some a =>
    by_cases applies : name = a.parent ∧ a.child ≠ a.parent
    · refine .inr ⟨a.child, if_pos applies, if_neg fun again => ?_⟩
      exact applies.2 again.1
    · exact .inl (if_neg applies)

theorem descendantsOf_append (cs ds : List Node) :
    descendantsOf (cs ++ ds) = descendantsOf cs ++ descendantsOf ds := by
  induction cs with
  | nil => rfl
  | cons c cs ih =>
    cases c with
    | element e =>
      rw [List.cons_append, descendantsOf, descendantsOf, ih, List.append_assoc]
    | text t => exact ih

theorem depthOf_append (cs ds : List Node) :
    depthOf (cs ++ ds) = max (depthOf cs) (depthOf ds) := by
  induction cs with
  | nil => exact (Nat.zero_max _).symm
  | cons c cs ih =>
    cases c with
    | element e => rw [List.cons_append, depthOf, depthOf, ih, Nat.max_assoc]
    | text t => exact ih

theorem numberedAll_append (k : Nat) (cs ds : List Node) :
    numberedAll counter k (cs ++ ds) =
      numberedAll counter k cs ++ numberedAll counter (k + (descendantsOf cs).length) ds := by
  induction cs generalizing k with
  | nil => rfl
  | cons c cs ih =>
    cases c with
    | element e =>
      rw [List.cons_append, numberedAll, numberedAll, ih, descendantsOf, List.length_append,
        ← size, Nat.add_assoc]
      rfl
    | text t =>
      rw [List.cons_append, numberedAll, numberedAll, ih, descendantsOf]
      rfl

/-! ### The numbers -/

/-- The faces of some elements, with numbers from `k` on. -/
def numberedFaces (counter : String) (k : Nat) (es : List Element) :
    List (String × Attributes × String) :=
  (es.zipIdx k).map fun x => (x.1.setAttribute counter (Nat.repr x.2)).face

theorem numberedFaces_append (k : Nat) (es fs : List Element) :
    numberedFaces counter k (es ++ fs) =
      numberedFaces counter k es ++ numberedFaces counter (k + es.length) fs := by
  rw [numberedFaces, List.zipIdx_append, List.map_append]
  rfl

theorem textOf_numberedAll (k : Nat) (cs : List Node) :
    Node.textOf (numberedAll counter k cs) = Node.textOf cs := by
  induction cs generalizing k with
  | nil => rfl
  | cons c cs ih =>
    cases c with
    | element e => exact ih (k + e.size)
    | text t => rw [numberedAll, Node.textOf_text, Node.textOf_text, ih]

mutual

/-- Numbers are given in document order. -/
theorem faces_numbered (counter : String) (k : Nat) : (e : Element) →
    (e.numbered counter k).descendants.map face = numberedFaces counter k e.descendants
  | ⟨name, attributes, children⟩ => by
    have same : Node.textOf (numberedAll counter (k + 1) children) = Node.textOf children :=
      textOf_numberedAll (k + 1) children
    rw [numbered, descendants, descendants, List.map_cons, faces_numberedAll]
    exact congrArg (fun t => (_, _, t) :: _) same

theorem faces_numberedAll (counter : String) (k : Nat) : (cs : List Node) →
    (descendantsOf (numberedAll counter k cs)).map face =
      numberedFaces counter k (descendantsOf cs)
  | [] => rfl
  | .element e :: rest => by
    rw [numberedAll, descendantsOf, descendantsOf, List.map_append, faces_numbered,
      faces_numberedAll, numberedFaces_append, size]
  | .text t :: rest => by
    rw [numberedAll, descendantsOf, descendantsOf, faces_numberedAll]

end

mutual

theorem depth_numbered (counter : String) (k : Nat) : (e : Element) →
    (e.numbered counter k).depth = e.depth
  | ⟨name, attributes, children⟩ => by
    rw [numbered, depth, depth, depthOf_numberedAll]

theorem depthOf_numberedAll (counter : String) (k : Nat) : (cs : List Node) →
    depthOf (numberedAll counter k cs) = depthOf cs
  | [] => rfl
  | .element e :: rest => by
    rw [numberedAll, depthOf, depthOf, depth_numbered, depthOf_numberedAll]
  | .text t :: rest => by
    rw [numberedAll, depthOf, depthOf, depthOf_numberedAll]

end

/-! ### The additions -/

mutual

/-- Additions make a tree deeper by one level at most. -/
theorem depth_extended (addition : Option Addition) : (e : Element) →
    (e.extended addition).depth ≤ e.depth + 1
  | ⟨name, attributes, children⟩ => by
    have below := depthOf_extendedAll addition children
    have added : depthOf (additionsTo addition name) ≤ 1 := by
      obtain nothing | ⟨child, one, -⟩ := additionsTo_cases addition name
      · rw [nothing]
        exact Nat.zero_le 1
      · rw [one]
        exact Nat.le_refl 1
    rw [extended, depth, depth, depthOf_append]
    omega

theorem depthOf_extendedAll (addition : Option Addition) : (cs : List Node) →
    depthOf (extendedAll addition cs) ≤ depthOf cs + 1
  | [] => Nat.zero_le 1
  | .element e :: rest => by
    have own := depth_extended addition e
    have others := depthOf_extendedAll addition rest
    rw [extendedAll, depthOf, depthOf]
    omega
  | .text t :: rest => depthOf_extendedAll addition rest

end

theorem textOf_extendedAll (cs : List Node) (name : String) :
    Node.textOf (extendedAll addition cs ++ additionsTo addition name) = Node.textOf cs := by
  induction cs with
  | nil =>
    obtain nothing | ⟨child, one, -⟩ := additionsTo_cases addition name
    · rw [nothing]
      rfl
    · rw [one]
      rfl
  | cons c cs ih =>
    cases c with
    | element e => exact ih
    | text t => rw [extendedAll, List.cons_append, Node.textOf_text, Node.textOf_text, ih]

mutual

/-- Additions leave every element as it was, and in its order. -/
theorem faces_extended (addition : Option Addition) : (e : Element) →
    (e.descendants.map face).Sublist ((e.extended addition).descendants.map face)
  | ⟨name, attributes, children⟩ => by
    have same : Element.face ⟨name, attributes, extendedAll addition children ++
        additionsTo addition name⟩ = Element.face ⟨name, attributes, children⟩ :=
      congrArg (fun t => (name, attributes, t)) (textOf_extendedAll children name)
    have below := (faces_extendedAll addition children).trans
      (List.sublist_append_left _ ((descendantsOf (additionsTo addition name)).map face))
    rw [extended, descendants, descendants, List.map_cons, List.map_cons, same,
      descendantsOf_append, List.map_append]
    exact below.cons_cons _

theorem faces_extendedAll (addition : Option Addition) : (cs : List Node) →
    ((descendantsOf cs).map face).Sublist ((descendantsOf (extendedAll addition cs)).map face)
  | [] => .slnil
  | .element e :: rest => by
    rw [extendedAll, descendantsOf, descendantsOf, List.map_append, List.map_append]
    exact (faces_extended addition e).append (faces_extendedAll addition rest)
  | .text t :: rest => faces_extendedAll addition rest

end

/-! ### Numbering is a walk -/

theorem numberOne_eq (counter : String) (addition : Option Addition) (name : String)
    (attributes : Attributes) (children : List Node) (k : Nat) :
    numberOne counter addition ⟨name, attributes, children⟩ k =
      (⟨name, attributes.set counter (Nat.repr k), children ++ additionsTo addition name⟩, k + 1) := by
  cases addition with
  | none => rw [additionsTo, List.append_nil]; rfl
  | some a =>
    by_cases applies : name = a.parent ∧ a.child ≠ a.parent
    · have added : a.applies ⟨name, attributes.set counter (Nat.repr k), children⟩ = true := by
        simpa [Addition.applies] using applies
      rw [additionsTo, if_pos applies]
      exact congrArg (fun e => (e, k + 1)) (if_pos added)
    · have kept : ¬ a.applies ⟨name, attributes.set counter (Nat.repr k), children⟩ = true := by
        simpa [Addition.applies] using applies
      rw [additionsTo, if_neg applies, List.append_nil]
      exact congrArg (fun e => (e, k + 1)) (if_neg kept)

/-- The numbering walk over the children that have been added. -/
theorem walkAll_additionsTo (counter : String) (addition : Option Addition) (k : Nat)
    (name : String) :
    ∃ visits, Node.WalkAll (numberOne counter addition) (additionsTo addition name) k visits
      (numberedAll counter k (additionsTo addition name))
      (k + (descendantsOf (additionsTo addition name)).length) := by
  obtain nothing | ⟨child, one, below⟩ := additionsTo_cases addition name
  · rw [nothing]
    exact ⟨[], .nil⟩
  · -- the added child has a name of its own, so it is left without children
    have alone : Node.WalkAll (numberOne counter addition)
        (numberOne counter addition (.new child) k).1.children
        (numberOne counter addition (.new child) k).2 [] [] (k + 1) := by
      rw [new, numberOne_eq, below]
      exact .nil
    have walk := Node.WalkAll.element (.visit alone) .nil
    rw [new, numberOne_eq] at walk
    rw [one]
    exact ⟨_, walk⟩

mutual

/-- The numbering walk leaves the extended tree with its numbers. -/
theorem walk_numberOne (counter : String) (addition : Option Addition) (k : Nat) : (e : Element) →
    ∃ visits, e.Walk (numberOne counter addition) k visits
      ((e.extended addition).numbered counter k) (k + (e.extended addition).size)
  | ⟨name, attributes, children⟩ => by
    -- the visitor has appended the additions, and the walk goes on over both parts
    obtain ⟨visits, first⟩ := walkAll_numberOne counter addition (k + 1) children
    obtain ⟨visits', added⟩ := walkAll_additionsTo counter addition
      (k + 1 + (descendantsOf (extendedAll addition children)).length) name
    have below := first.append added
    rw [← numberedAll_append, Nat.add_assoc, ← List.length_append, ← descendantsOf_append] at below
    have walk := Element.Walk.visit (f := numberOne counter addition)
      (e := ⟨name, attributes, children⟩) (s := k) (by rw [numberOne_eq]; exact below)
    rw [numberOne_eq] at walk
    rw [extended, numbered, size, descendants, List.length_cons, ← Nat.add_assoc,
      Nat.add_right_comm]
    exact ⟨_, walk⟩

theorem walkAll_numberOne (counter : String) (addition : Option Addition) (k : Nat) :
    (cs : List Node) → ∃ visits, Node.WalkAll (numberOne counter addition) cs k visits
      (numberedAll counter k (extendedAll addition cs))
      (k + (descendantsOf (extendedAll addition cs)).length)
  | [] => ⟨[], .nil⟩
  | .element e :: rest => by
    obtain ⟨visits, first⟩ := walk_numberOne counter addition k e
    obtain ⟨visits', others⟩ :=
      walkAll_numberOne counter addition (k + (e.extended addition).size) rest
    have walk := Node.WalkAll.element first others
    rw [Nat.add_assoc, size, ← List.length_append, ← descendantsOf] at walk
    exact ⟨_, walk⟩
  | .text t :: rest => by
    obtain ⟨visits, others⟩ := walkAll_numberOne counter addition k rest
    exact ⟨visits, .text others⟩

end

/-- Numbering comes to its end, and numbers the extended tree from zero on. -/
theorem number?_eq (e : Element) (counter : String) (addition : Option Addition) :
    e.number? counter addition =
      some ((e.extended addition).numbered counter 0, (e.extended addition).size) := by
  obtain ⟨visits, walk⟩ := walk_numberOne counter addition 0 e
  rw [Nat.zero_add] at walk
  refine walk.visit_eq_some ?_
  rw [depth_numbered]
  exact depth_extended addition e

theorem size_of_faces {k : Nat} {e' : Element} {es : List Element}
    (faces : e'.descendants.map face = numberedFaces counter k es) : e'.size = es.length := by
  have lengths := congrArg List.length faces
  rw [numberedFaces, List.length_map, List.length_map, List.length_zipIdx] at lengths
  exact lengths

/-- The attribute that holds the numbers, in document order. -/
theorem counters_of_faces {e' : Element} {es : List Element}
    (faces : e'.descendants.map face = numberedFaces counter 0 es) :
    e'.descendants.map (·.attribute? counter) =
      (List.range e'.size).map fun k => some (Nat.repr k) := by
  have own (x : Element × Nat) :
      ((x.1.setAttribute counter (Nat.repr x.2)).face.2.1.get? counter) = some (Nat.repr x.2) :=
    (x.1.attributes.get?_set counter _ counter).trans (if_pos rfl)
  calc e'.descendants.map (·.attribute? counter)
      = (e'.descendants.map face).map (·.2.1.get? counter) := by
        rw [List.map_map]
        rfl
    _ = es.zipIdx.map fun x => some (Nat.repr x.2) := by
        rw [faces, numberedFaces, List.map_map]
        exact List.map_congr_left fun x _ => own x
    _ = (es.zipIdx.map Prod.snd).map fun k => some (Nat.repr k) := by
        rw [List.map_map]
        rfl
    _ = (List.range e'.size).map fun k => some (Nat.repr k) := by
        rw [List.zipIdx_map_snd, ← List.range_eq_range', size_of_faces faces]

end Element

/-! ### Main theorem -/

/-- **A visitor is called once for each element of the tree that it leaves, in
document order.**  Whatever a visitor does to the elements that it is given, a
walk that comes to its end, within whichever bound, calls it at the places of
the resulting tree and nowhere else, and each element there has the name, the
attributes and the text that its call left.  Numbering always comes to its end and
leaves the extended tree: its elements, the added ones included, have the numbers
from zero on, in document order, and no element is lost. -/
theorem Element.visit_in_document_order :
    (∀ (σ : Type) (f : Visitor σ) (depth : Nat) (e e' : Element) (s s' : σ),
      e.visit f depth s = some (e', s') →
        (∀ depth', e.visit f depth' s = some (e', s') ↔ e'.depth ≤ depth') ∧
        ∃ visits : List (Visit σ),
          e.visit f.watched depth ⟨s, []⟩ = some (e', ⟨s', visits⟩) ∧
          visits.length = e'.size ∧
          visits.map (fun v => (v.left f).face) = e'.descendants.map face ∧
          e'.places.map (fun place => e'.at? place) = e'.descendants.map some ∧
          e'.places.foldlM (visitAt f.watched) (e, ⟨s, []⟩) = some (e', ⟨s', visits⟩)) ∧
    (∀ (e : Element) (counter : String) (addition : Option Addition),
      ∃ e', e.number? counter addition = some (e', e'.size) ∧
        e' = (e.extended addition).numbered counter 0 ∧
        e'.descendants.map (·.attribute? counter) =
          (List.range e'.size).map (fun k => some (Nat.repr k)) ∧
        e'.descendants.map face = numberedFaces counter 0 (e.extended addition).descendants ∧
        (e.descendants.map face).Sublist ((e.extended addition).descendants.map face)) := by
  constructor
  · intro σ f depth e e' s s' h
    obtain ⟨⟨visits, walk⟩, shallow⟩ := visit_eq_some_iff.1 h
    obtain ⟨visits', watched⟩ := walk.watched []
    have faces := walk.faces
    have count : visits.length = e'.size := by
      rw [← List.length_map (f := fun v => (v.left f).face), faces, List.length_map, size]
    refine ⟨fun depth' => ?_, visits, ?_, count, faces, e'.map_at?_places, watched.at_places⟩
    · exact ⟨fun again => (visit_eq_some_iff.1 again).2, walk.visit_eq_some⟩
    · exact watched.visit_eq_some shallow
  · intro e counter addition
    have numbered := faces_numbered counter 0 (e.extended addition)
    refine ⟨_, ?_, rfl, counters_of_faces numbered, numbered, faces_extended addition e⟩
    rw [size_of_faces numbered]
    exact number?_eq e counter addition

/-- A visitor that counts, and drops the first child of a list and appends an
entry. -/
def refill : Visitor Nat := fun e count =>
  (if e.name = "list" then { e with children := e.children.tail ++ [.element (.new "entry")] }
    else e.setAttribute "number" (Nat.repr count), count + 1)

/-- A list with an entry, text, and a list inside. -/
def fullList : Element :=
  ⟨"list", .empty, [.element (.new "entry"), .text "and", .element (.new "list")]⟩

/-- The inner list is refilled as well: the first entry is gone before it is
visited, and two new ones are visited after they have come. -/
theorem Element.visit_refill :
    ∃ e', fullList.visit refill 3 0 = some (e', 4) ∧
      e'.descendants.map (·.name) = ["list", "list", "entry", "entry"] ∧
      ∃ visits, fullList.visit refill.watched 3 ⟨0, []⟩ = some (e', ⟨4, visits⟩) ∧
        visits.map (fun v => (v.left refill).face) = e'.descendants.map face := by
  have finished : fullList.visit refill 3 0 = some (_, 4) := rfl
  obtain ⟨-, visits, watched, -, faces, -⟩ :=
    visit_in_document_order.1 Nat refill 3 fullList _ 0 4 finished
  exact ⟨_, finished, rfl, visits, watched, faces⟩

end VoiceDialogue
