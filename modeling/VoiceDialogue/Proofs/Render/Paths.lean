/-
VoiceDialogue/Proofs/Render/Paths.lean

What a voice browser runs in a row, and where that ends.

A browser runs the children of a block, of a handler of an event, and of what
happens when an item is filled.  Where there is a conditional it runs one of
the branches, so every branch is a path of its own (`Element.paths`).  A
document has a single form with a single item: a path that comes to its end
without a jump leaves the caller with nobody.

`Element.Continuing` says that this does not happen.  For every kind of turn
the paths of the document are computed first, and then each of them is seen to
have its only jump at the end.
-/
import VoiceDialogue.Proofs.Render.Elements

namespace VoiceDialogue

/-! ### Paths -/

/-- Whether an element has no conditional in it. -/
def Element.isStraight (e : Element) : Bool := (Node.findAll e.children "if").isEmpty

/-- The paths of a tree: the blocks, the handlers of events, what is filled
without a conditional, and all branches. -/
def Element.paths (root : Element) : List (List Node) :=
  (root.findAll "block" ++ root.findAll "catch" ++ (root.findAll "filled").filter isStraight).map
      children ++
    (root.findAll "if").flatMap fun e => e.branches.map Branch.body

/-- A path goes on to a target: the last child is a jump to it and nothing
else, and there is no other jump on the path. -/
def GoesOn (target : String) (path : List Node) : Prop :=
  ∃ g, path.getLast? = some (.element g) ∧ g.name = "goto" ∧
    g.attributes.entries = [("next", target)] ∧ g.children = [] ∧ Node.findAll path "goto" = [g]

/-- A tree in which everything goes on to a target. -/
structure Element.Continuing (target : String) (root : Element) : Prop where
  /-- Every path goes on. -/
  goesOn : ∀ path ∈ root.paths, GoesOn target path
  /-- There are no jumps but those of the paths. -/
  jumps : root.findAll "goto" = root.paths.flatMap fun path => Node.findAll path "goto"
  /-- Nothing stands beside a conditional, where it would not be on a path. -/
  alone : ∀ f ∈ root.findAll "filled", ∀ i ∈ Node.findAll f.children "if",
    f.children = [.element i]

/-- Where a tree has what is run: in the block of a message; when an object is
filled, with the parameters before; and when a transfer is filled, with the
handler of the release before if the caller is released. -/
def Payload.Placed (root : Element) : Payload → Prop
  | .message _ => (∃ b, root.findAll "block" = [b]) ∧ root.findAll "catch" = []
  | .objectCall _ => root.findAll "catch" = [] ∧
      ∃ o f, root.findAll "object" = [o] ∧ root.findAll "filled" = [f] ∧
        o.children = (root.findAll "param").map .element ++ [.element f]
  | .transfer t => ∃ e f before, root.findAll "transfer" = [e] ∧ root.findAll "filled" = [f] ∧
      (t.style.releasesCaller → ∃ c, root.findAll "catch" = [c] ∧
        c.attributes.entries = [("event", "connection.disconnect.transfer")] ∧
        e.children = before ++ [.element c, .element f]) ∧
      (t.style = .bridge → root.findAll "catch" = [] ∧ e.children = before ++ [.element f])

namespace Render

variable {p : Platform}

/-! ### Ends of paths -/

/-- A path that ends with the jump of the renderer, and has no other one. -/
theorem goesOn_of_last {path : List Node} (last : path.getLast? = some (.element (onward p)))
    (only : Node.findAll path "goto" = [onward p]) : GoesOn p.submitTarget path :=
  ⟨onward p, last, rfl, rfl, rfl, only⟩

theorem goesOn_report (expression : String) : GoesOn p.submitTarget (report p expression) :=
  goesOn_of_last rfl (findAll_report (by decide) expression)

/-- A tree with one path, which has no conditional in it. -/
theorem continuing_of_path {root : Element} {path : List Node} (paths : root.paths = [path])
    (last : path.getLast? = some (.element (onward p)))
    (only : Node.findAll path "goto" = [onward p]) (jumps : root.findAll "goto" = [onward p])
    (straight : ∀ f ∈ root.findAll "filled", Node.findAll f.children "if" = []) :
    root.Continuing p.submitTarget where
  goesOn := by
    rw [paths, List.forall_mem_singleton]
    exact goesOn_of_last last only
  jumps := by rw [paths, List.flatMap_singleton, only, jumps]
  alone := by
    intro f hf i hi
    rw [straight f hf] at hi
    cases hi

/-! ### Messages -/

theorem continuing_message {m : Message} {d : Document} (h : document p (.message m) = .ok d) :
    d.root.Continuing p.submitTarget := by
  obtain ⟨e, rendered, block, caught, filled, choice, goto⟩ := elements_message h
  have paths : d.root.paths = [e.children] := by
    rw [Element.paths, block, caught, filled, choice]
    rfl
  have last : e.children.getLast? = some (.element (onward p)) := by
    rw [messageItem_eq rendered]
    rfl
  have only : Node.findAll e.children "goto" = [onward p] := by
    have other : e.name ≠ "goto" := by simp [messageItem_eq rendered]
    rw [← Element.findAll_of_name_ne other.symm, findAll_messageItem rendered (by decide)]
    rfl
  have straight : ∀ f ∈ d.root.findAll "filled", Node.findAll f.children "if" = [] := by
    rw [filled]
    exact fun f hf => nomatch hf
  exact continuing_of_path paths last only goto straight

theorem placed_message {m : Message} {d : Document} (h : document p (.message m) = .ok d) :
    (Payload.message m).Placed d.root := by
  obtain ⟨e, -, block, caught, -⟩ := elements_message h
  exact ⟨⟨e, block⟩, caught⟩

/-! ### Object calls -/

theorem continuing_objectCall {c : ObjectCall} {d : Document}
    (h : document p (.objectCall c) = .ok d) : d.root.Continuing p.submitTarget := by
  obtain ⟨e, -, -, -, block, caught, filled, choice, goto⟩ := elements_objectCall h
  have inside (n : String) (other : n ∉ resultNames) :
      Node.findAll (objectFilled p c).children n = if "goto" = n then [onward p] else [] :=
    findAll_children_objectFilled other c
  have straight : (objectFilled p c).isStraight = true := by
    rw [Element.isStraight, inside "if" (by decide)]
    rfl
  have paths : d.root.paths = [(objectFilled p c).children] := by
    rw [Element.paths, block, caught, filled, choice, List.filter_cons_of_pos straight]
    rfl
  have last : (objectFilled p c).children.getLast? = some (.element (onward p)) := by
    rw [objectFilled_eq, List.getLast?_append]
    rfl
  refine continuing_of_path paths last (inside "goto" (by decide)) goto ?_
  rw [filled, List.forall_mem_singleton]
  exact inside "if" (by decide)

theorem placed_objectCall {c : ObjectCall} {d : Document}
    (h : document p (.objectCall c) = .ok d) : (Payload.objectCall c).Placed d.root := by
  obtain ⟨e, rendered, object, params, -, caught, filled, -⟩ := elements_objectCall h
  refine ⟨caught, e, objectFilled p c, object, filled, ?_⟩
  rw [params, objectItem_eq rendered, List.map_map]

/-! ### Transfers -/

/-- The paths at the end of a transfer. -/
def endings (p : Platform) (s : Transfer.Style) : List (List Node) :=
  if s.isSupervised then (outcomeBranches p).branches.map Branch.body else [[.element (onward p)]]

theorem goesOn_endings (s : Transfer.Style) :
    ∀ path ∈ endings p s, GoesOn p.submitTarget path := by
  intro path hpath
  rw [endings] at hpath
  split at hpath
  · obtain ⟨b, hb, rfl⟩ := List.mem_map.1 hpath
    obtain ⟨expression, body⟩ := body_branches hb
    rw [body]
    exact goesOn_report expression
  · rw [List.mem_singleton.1 hpath]
    exact goesOn_of_last rfl rfl

/-- What is filled is a path of its own, unless it has branches. -/
theorem paths_afterTransfer (s : Transfer.Style) :
    ([afterTransfer p s].filter Element.isStraight).map Element.children ++
      (Node.findAll (afterTransfer p s).children "if").flatMap
        (fun e => e.branches.map Branch.body) = endings p s := by
  have straight : (afterTransfer p s).isStraight = !s.isSupervised := by
    rw [Element.isStraight, findAll_children_afterTransfer]
    cases s.isSupervised with
    | true => rfl
    | false => rfl
  rw [List.filter_cons, straight, findAll_children_afterTransfer, endings]
  cases hs : s.isSupervised with
  | true => simp
  | false => simp [children_afterTransfer, hs]

/-- All jumps at the end of a transfer are on its paths. -/
theorem jumps_endings (s : Transfer.Style) :
    (afterTransfer p s).findAll "goto" =
      (endings p s).flatMap fun path => Node.findAll path "goto" := by
  have other : "goto" ≠ (outcomeBranches p).name := by
    rw [outcomeBranches_eq]
    simp
  rw [findAll_afterTransfer, if_neg (by decide), List.nil_append, endings]
  split
  · rw [Element.findAll_of_name_ne other, List.flatMap_map,
      findAll_children_outcomeBranches (by decide) (by decide)]
  · rfl

/-- The paths of a transfer: from the release of the caller, if there is one,
and at the end. -/
theorem paths_transfer {t : Transfer} {d : Document} (h : document p (.transfer t) = .ok d) :
    d.root.paths =
      (if t.style.releasesCaller then [(released p).children] else []) ++ endings p t.style := by
  obtain ⟨e, -, -, block, caught, filled, choice, -⟩ := elements_transfer h
  rw [Element.paths, block, caught, filled, choice, List.nil_append, List.map_append,
    List.append_assoc, paths_afterTransfer]
  split
  · rfl
  · rfl

theorem continuing_transfer {t : Transfer} {d : Document}
    (h : document p (.transfer t) = .ok d) : d.root.Continuing p.submitTarget := by
  obtain ⟨e, -, -, -, -, filled, -, goto⟩ := elements_transfer h
  refine ⟨?_, ?_, ?_⟩
  · rw [paths_transfer h]
    intro path hpath
    rcases List.mem_append.1 hpath with hpath | hpath
    · split at hpath
      · rw [List.mem_singleton.1 hpath]
        exact goesOn_of_last rfl rfl
      · cases hpath
    · exact goesOn_endings t.style path hpath
  · rw [paths_transfer h, goto, jumps_endings, findAll_onRelease, List.flatMap_append]
    split
    · rfl
    · rfl
  · rw [filled, List.forall_mem_singleton, findAll_children_afterTransfer, children_afterTransfer]
    intro i hi
    split at hi
    · next supervised => rw [List.mem_singleton.1 hi, if_pos supervised]
    · cases hi

theorem placed_transfer {t : Transfer} {d : Document} (h : document p (.transfer t) = .ok d) :
    (Payload.transfer t).Placed d.root := by
  obtain ⟨e, rendered, transfer, -, caught, filled, -⟩ := elements_transfer h
  have children : e.children = beforeTransfer t.items ++ onRelease p t.style ++
      [.element (afterTransfer p t.style)] := by
    rw [transferItem_eq rendered]
  refine ⟨e, afterTransfer p t.style, beforeTransfer t.items, transfer, filled, ?_, ?_⟩
  · intro releases
    refine ⟨released p, ?_, rfl, ?_⟩
    · rw [caught, if_pos releases]
    · rw [children, onRelease_eq, if_pos releases, List.append_assoc]
      rfl
  · intro bridge
    have keeps : ¬ t.style.releasesCaller = true := by
      rw [bridge]
      decide
    constructor
    · rw [caught, if_neg keeps]
    · rw [children, onRelease_eq, if_neg keeps, List.append_nil]

end Render

end VoiceDialogue
