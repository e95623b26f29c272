/-
VoiceDialogue/Proofs/Markup/Walks.lean

Walks of visitors, call by call.

A visitor may change the element that it is given in any way, and the walk goes
on with the child elements that are there afterwards.  So nobody knows which
elements will be visited before the walk is over.  `Element.Walk` describes a
walk that comes to its end, without a bound on the depth: the calls that are
made, the tree that is left, and the state.

The bound of `Element.visit` is a matter of the tree that is left and of nothing
else: it suffices exactly if that tree is not deeper (`visit_eq_some_iff`).

What a call leaves of an element itself is final: later calls are made on
elements below it or behind it.  So the calls of a walk, in their order, leave
the elements of the resulting tree in document order (`Walk.faces`).  Whoever
doubts that these are the calls can watch the visitor: a watched visitor does
what it did and writes its calls down (`Visitor.watched`), and it writes down
exactly these (`Walk.watched`).
-/
import VoiceDialogue.Markup.Traversal
import VoiceDialogue.Proofs.Markup.Normal

namespace VoiceDialogue

variable {σ : Type}

/-! ### Calls -/

/-- A call of a visitor: the element that is given, and the state before. -/
structure Visit (σ : Type) where
  given : Element
  state : σ

/-- The element that a visitor leaves after a call. -/
def Visit.left (f : Visitor σ) (v : Visit σ) : Element := (f v.given v.state).1

/-- A state, and the calls that were made. -/
structure Visited (σ : Type) where
  state : σ
  visits : List (Visit σ)

/-- The visitor that also writes down its calls. -/
def Visitor.watched (f : Visitor σ) : Visitor (Visited σ) := fun e w =>
  ((f e w.state).1, ⟨(f e w.state).2, w.visits ++ [⟨e, w.state⟩]⟩)

/-! ### Walks -/

section

variable (f : Visitor σ)

mutual

/-- A walk from an element: the visitor is called, and then the children that
it leaves are walked over. -/
inductive Element.Walk : Element → σ → List (Visit σ) → Element → σ → Prop
  | visit {e s visits children s'} :
      Node.WalkAll (f e s).1.children (f e s).2 visits children s' →
      Element.Walk e s (⟨e, s⟩ :: visits) ⟨(f e s).1.name, (f e s).1.attributes, children⟩ s'

/-- A walk over some children, from left to right. -/
inductive Node.WalkAll : List Node → σ → List (Visit σ) → List Node → σ → Prop
  | nil {s} : Node.WalkAll [] s [] [] s
  | text {t rest s visits rest' s'} :
      Node.WalkAll rest s visits rest' s' →
      Node.WalkAll (.text t :: rest) s visits (.text t :: rest') s'
  | element {e rest s visits e' s' visits' rest' s''} :
      Element.Walk e s visits e' s' → Node.WalkAll rest s' visits' rest' s'' →
      Node.WalkAll (.element e :: rest) s (visits ++ visits') (.element e' :: rest') s''

end

end

variable {f : Visitor σ}

namespace Node

/-- Two walks one after the other. -/
theorem WalkAll.append {cs ds cs' ds' : List Node} {s s' s'' : σ} {visits visits' : List (Visit σ)}
    (first : WalkAll f cs s visits cs' s') (second : WalkAll f ds s' visits' ds' s'') :
    WalkAll f (cs ++ ds) s (visits ++ visits') (cs' ++ ds') s'' := by
  induction cs generalizing s visits cs' with
  | nil =>
    cases first
    exact second
  | cons c cs ih =>
    cases first with
    | text rest => exact .text (ih rest)
    | element inside rest =>
      rw [List.append_assoc]
      exact .element inside (ih rest)

/-- Text is left as it is. -/
theorem WalkAll.textOf {cs cs' : List Node} {s s' : σ} {visits : List (Visit σ)}
    (h : WalkAll f cs s visits cs' s') : textOf cs' = textOf cs := by
  induction cs generalizing s visits cs' with
  | nil =>
    cases h
    rfl
  | cons c cs ih =>
    cases h with
    | text rest => rw [textOf_text, textOf_text, ih rest]
    | element _ rest =>
      have same := ih rest
      exact same

end Node

/-! ### The bound on the depth -/

theorem Element.visit_succ (f : Visitor σ) (depth : Nat) (e : Element) (s : σ) :
    e.visit f (depth + 1) s =
      (Node.visitAll (visit f depth) (f e s).1.children (f e s).2).map fun r =>
        (⟨(f e s).1.name, (f e s).1.attributes, r.1⟩, r.2) := by
  rw [visit]
  rcases f e s with ⟨e', s'⟩
  dsimp only
  cases Node.visitAll (visit f depth) e'.children s' with
  | none => rfl
  | some r => rfl

/-- What has been visited has been walked over, if that is so for each element. -/
theorem Node.walkAll_of_visitAll {visit : Element → σ → Option (Element × σ)} {depth : Nat}
    (inside : ∀ {e s e' s'}, visit e s = some (e', s') →
      (∃ visits, e.Walk f s visits e' s') ∧ e'.depth ≤ depth)
    {cs cs' : List Node} {s s' : σ} (h : visitAll visit cs s = some (cs', s')) :
    (∃ visits, WalkAll f cs s visits cs' s') ∧ Element.depthOf cs' ≤ depth := by
  induction cs generalizing s cs' with
  | nil =>
    obtain ⟨rfl, rfl⟩ := Prod.mk.inj (Option.some.inj h)
    exact ⟨⟨[], .nil⟩, Nat.zero_le depth⟩
  | cons c cs ih =>
    cases c with
    | text t =>
      rw [visitAll] at h
      cases hr : visitAll visit cs s with
      | none => rw [hr] at h; cases h
      | some r =>
        rw [hr] at h
        obtain ⟨rfl, rfl⟩ := Prod.mk.inj (Option.some.inj h)
        obtain ⟨⟨visits, rest⟩, shallow⟩ := ih hr
        exact ⟨⟨visits, .text rest⟩, shallow⟩
    | element e =>
      rw [visitAll] at h
      cases he : visit e s with
      | none => rw [he] at h; cases h
      | some r =>
        rw [he] at h
        dsimp only at h
        cases hr : visitAll visit cs r.2 with
        | none => rw [hr] at h; cases h
        | some r' =>
          rw [hr] at h
          obtain ⟨rfl, rfl⟩ := Prod.mk.inj (Option.some.inj h)
          obtain ⟨⟨visits, first⟩, low⟩ := inside he
          obtain ⟨⟨visits', rest⟩, shallow⟩ := ih hr
          exact ⟨⟨visits ++ visits', .element first rest⟩, Nat.max_le.2 ⟨low, shallow⟩⟩

theorem Element.walk_of_visit {depth : Nat} {e e' : Element} {s s' : σ}
    (h : e.visit f depth s = some (e', s')) :
    (∃ visits, e.Walk f s visits e' s') ∧ e'.depth ≤ depth := by
  induction depth generalizing e s e' s' with
  | zero => cases h
  | succ depth ih =>
    rw [visit_succ] at h
    obtain ⟨⟨children, s''⟩, below, same⟩ := Option.map_eq_some_iff.1 h
    obtain ⟨rfl, rfl⟩ := Prod.mk.inj same
    obtain ⟨⟨visits, walk⟩, shallow⟩ := Node.walkAll_of_visitAll ih below
    exact ⟨⟨_, .visit walk⟩, Nat.succ_le_succ shallow⟩

mutual

/-- A walk is found if the bound is not below the depth of what it leaves. -/
theorem Element.Walk.visit_eq_some {e e' : Element} {s s' : σ} {visits : List (Visit σ)} :
    e.Walk f s visits e' s' → ∀ {depth}, e'.depth ≤ depth → e.visit f depth s = some (e', s')
  | .visit below, 0, shallow => absurd shallow (Nat.not_succ_le_zero _)
  | .visit below, depth + 1, shallow => by
    rw [Element.visit_succ, below.visitAll_eq_some (Nat.le_of_succ_le_succ shallow)]
    rfl

theorem Node.WalkAll.visitAll_eq_some {cs cs' : List Node} {s s' : σ} {visits : List (Visit σ)} :
    Node.WalkAll f cs s visits cs' s' → ∀ {depth}, Element.depthOf cs' ≤ depth →
      Node.visitAll (Element.visit f depth) cs s = some (cs', s')
  | .nil, _, _ => rfl
  | .text rest, _, shallow => by
    rw [Node.visitAll, rest.visitAll_eq_some shallow]
  | .element first rest, _, shallow => by
    obtain ⟨low, shallow⟩ := Nat.max_le.1 shallow
    rw [Node.visitAll, first.visit_eq_some low]
    dsimp only
    rw [rest.visitAll_eq_some shallow]

end

/-- The visits to a given depth are the walks that do not leave a deeper tree. -/
theorem Element.visit_eq_some_iff {depth : Nat} {e e' : Element} {s s' : σ} :
    e.visit f depth s = some (e', s') ↔
      (∃ visits, e.Walk f s visits e' s') ∧ e'.depth ≤ depth := by
  constructor
  · exact walk_of_visit
  · rintro ⟨⟨visits, walk⟩, shallow⟩
    exact walk.visit_eq_some shallow

/-! ### What the calls leave -/

mutual

/-- The calls of a walk leave the elements of the resulting tree, in document
order: each of them has the name, the attributes and the text that its call
left. -/
theorem Element.Walk.faces {e e' : Element} {s s' : σ} {visits : List (Visit σ)} :
    e.Walk f s visits e' s' → visits.map (fun v => (v.left f).face) = e'.descendants.map Element.face
  | .visit below => by
    have own := below.textOf.symm
    rw [List.map_cons, below.faces, Element.descendants, List.map_cons]
    exact congrArg (fun t => (_, _, t) :: _) own

theorem Node.WalkAll.faces {cs cs' : List Node} {s s' : σ} {visits : List (Visit σ)} :
    Node.WalkAll f cs s visits cs' s' →
      visits.map (fun v => (v.left f).face) = (Element.descendantsOf cs').map Element.face
  | .nil => rfl
  | .text rest => by rw [rest.faces, Element.descendantsOf]
  | .element first rest => by
    rw [List.map_append, first.faces, rest.faces, Element.descendantsOf, List.map_append]

end

mutual

/-- A watched visitor walks in the same way and writes down the calls. -/
theorem Element.Walk.watched {e e' : Element} {s s' : σ} {visits : List (Visit σ)} :
    e.Walk f s visits e' s' → ∀ earlier,
      ∃ visits', e.Walk f.watched ⟨s, earlier⟩ visits' e' ⟨s', earlier ++ visits⟩
  | .visit below, earlier => by
    obtain ⟨visits', walk⟩ := below.watched (earlier ++ [⟨e, s⟩])
    rw [List.append_assoc] at walk
    exact ⟨_, .visit walk⟩

theorem Node.WalkAll.watched {cs cs' : List Node} {s s' : σ} {visits : List (Visit σ)} :
    Node.WalkAll f cs s visits cs' s' → ∀ earlier,
      ∃ visits', Node.WalkAll f.watched cs ⟨s, earlier⟩ visits' cs' ⟨s', earlier ++ visits⟩
  | .nil, earlier => by
    rw [List.append_nil]
    exact ⟨[], .nil⟩
  | .text rest, earlier => by
    obtain ⟨visits', walk⟩ := rest.watched earlier
    exact ⟨visits', .text walk⟩
  | @Node.WalkAll.element _ _ _ _ _ visits _ _ _ _ _ first rest, earlier => by
    obtain ⟨visits', walk⟩ := first.watched earlier
    obtain ⟨visits'', walk'⟩ := rest.watched (earlier ++ visits)
    rw [List.append_assoc] at walk'
    exact ⟨_, .element walk walk'⟩

end

end VoiceDialogue
