/-
VoiceDialogue/Proofs/Render/Elements.lean

Which elements the documents of turns have.

A search for the elements of a name follows the way in which a document is put
together, so for every kind of turn there is one equation that says what is
found, whatever the name: `findAll_messageItem`, `findAll_objectItem` and
`findAll_transferItem`.  The root and the form around an item have names of
their own, and a search for any other name passes them over
(`findAll_document`).

The elements in a prompt, the scripts and the openings of branches are left
out; the equations are for the names that none of these has.  That is enough
to list, for every kind of turn, the elements in which something is run
(`elements_message`, `elements_objectCall`, `elements_transfer`).
-/
import VoiceDialogue.Proofs.Markup.Search
import VoiceDialogue.Proofs.Render.Branches

namespace VoiceDialogue

namespace Render

variable {p : Platform} {n : String}

/-! ### Parts -/

theorem findAll_texts (s : String) : Node.findAll (Node.texts s) n = [] := by
  apply Node.findAll_eq_nil
  intro e he
  rw [Node.texts] at he
  split at he
  · cases he
  · cases List.mem_singleton.1 he

theorem findAll_onward : (onward p).findAll n = if "goto" = n then [onward p] else [] := by
  rw [Element.findAll_eq]
  exact List.append_nil _

theorem findAll_script (other : n ≠ "script") (code : String) : (script code).findAll n = [] := by
  rw [script_eq, Element.findAll_of_name_ne other]
  exact findAll_texts code

theorem findAll_param (q : Parameter) :
    (param q).findAll n = if "param" = n then [param q] else [] := by
  rw [Element.findAll_eq]
  exact List.append_nil _

theorem findAll_params (qs : List Parameter) :
    Node.findAll (qs.map (.element ∘ param)) n = if "param" = n then qs.map param else [] := by
  induction qs with
  | nil => exact Node.findAll_nil n |>.trans (ite_self []).symm
  | cons q qs ih =>
    rw [List.map_cons, Function.comp, Node.findAll_element, ih, findAll_param]
    split
    · rfl
    · rfl

/-- The only elements that audio items become are audio and breaks. -/
theorem findAll_itemNodes (audio : n ≠ "audio") (pause : n ≠ "break") (afterText : Bool)
    (is : List AudioItem) : Node.findAll (itemNodes afterText is) n = [] := by
  have one (i : AudioItem) : Node.findAll [i.node] n = [] := by
    cases i with
    | speech s => exact Node.findAll_eq_nil fun e he => nomatch he
    | file location alternative =>
      rw [AudioItem.node, Node.findAll_element, Node.findAll_nil, List.append_nil,
        Element.findAll_of_name_ne audio]
      exact findAll_texts _
    | pause duration =>
      rw [AudioItem.node, Node.findAll_element, Node.findAll_nil, List.append_nil,
        Element.findAll_of_name_ne pause]
      exact Node.findAll_nil n
    | recording expression =>
      rw [AudioItem.node, Node.findAll_element, Node.findAll_nil, List.append_nil,
        Element.findAll_of_name_ne audio]
      exact Node.findAll_nil n
  induction is generalizing afterText with
  | nil => exact Node.findAll_nil n
  | cons i is ih =>
    rw [itemNodes, Node.findAll_append, ih, List.append_nil, AudioItem.nodes]
    split
    · rw [Node.findAll_text, one]
    · exact one i

/-- The names of the elements of a prompt. -/
def spokenNames : List String := ["prompt", "audio", "break"]

theorem findAll_spoken (other : n ∉ spokenNames) (attributes : Attributes)
    (is : List AudioItem) : (spoken attributes is).findAll n = [] := by
  simp only [spokenNames, List.mem_cons, List.not_mem_nil, or_false, not_or] at other
  obtain ⟨prompt, audio, pause⟩ := other
  rw [spoken, Element.findAll_of_name_ne prompt]
  exact findAll_itemNodes audio pause false is

/-! ### Branches -/

theorem findAll_report (other : n ≠ "script") (expression : String) :
    Node.findAll (report p expression) n = if "goto" = n then [onward p] else [] := by
  rw [report, Node.findAll_element, Node.findAll_element, findAll_script other, findAll_onward,
    Node.findAll_nil, List.append_nil, List.nil_append]

/-- Every branch of a supervised transfer is a report. -/
theorem body_branches {b : Branch} (h : b ∈ (outcomeBranches p).branches) :
    ∃ expression, b.body = report p expression := by
  rw [branches_outcomeBranches] at h
  rcases List.mem_append.1 h with h | h
  · obtain ⟨o, -, rfl⟩ := List.mem_map.1 h
    exact ⟨_, rfl⟩
  · rw [List.mem_singleton.1 h]
    exact ⟨_, rfl⟩

/-- What opens a branch is passed over. -/
theorem findAll_layout (elseif : n ≠ "elseif") (otherwise : n ≠ "else") (b : Branch) :
    Node.findAll b.layout n = Node.findAll b.body n := by
  obtain ⟨guard, body⟩ := b
  cases guard with
  | condition text =>
    rw [Branch.layout, Guard.opening, Node.findAll_element, Element.findAll_of_name_ne elseif]
    exact congrArg (· ++ _) (Node.findAll_nil n)
  | otherwise =>
    rw [Branch.layout, Guard.opening, Node.findAll_element, Element.findAll_of_name_ne otherwise]
    exact congrArg (· ++ _) (Node.findAll_nil n)

/-- The conditional is searched branch by branch. -/
theorem findAll_children_outcomeBranches (elseif : n ≠ "elseif") (otherwise : n ≠ "else") :
    Node.findAll (outcomeBranches p).children n =
      (outcomeBranches p).branches.flatMap fun b => Node.findAll b.body n := by
  have outcomes : Outcome.all.map (outcomeBranch p)
      = outcomeBranch p .noAnswer :: Outcome.all.tail.map (outcomeBranch p) := rfl
  rw [branches_outcomeBranches, outcomes, List.cons_append, List.flatMap_cons, outcomeBranches_eq,
    Node.findAll_append, Node.findAll_flatMap]
  simp only [findAll_layout elseif otherwise]

/-- The names of the elements of a conditional. -/
def branchNames : List String := ["if", "elseif", "else", "script", "goto"]

theorem findAll_outcomeBranches_eq_nil (other : n ∉ branchNames) :
    (outcomeBranches p).findAll n = [] := by
  simp only [branchNames, List.mem_cons, List.not_mem_nil, or_false, not_or] at other
  obtain ⟨conditional, elseif, otherwise, script, goto⟩ := other
  rw [Element.findAll_of_name_ne (by rw [outcomeBranches_eq]; exact conditional),
    findAll_children_outcomeBranches elseif otherwise, List.flatMap_eq_nil_iff]
  intro b hb
  obtain ⟨expression, body⟩ := body_branches hb
  rw [body, findAll_report script, if_neg (Ne.symm goto)]

/-- The conditional of a supervised transfer has no other one in it. -/
theorem findAll_outcomeBranches (p : Platform) :
    (outcomeBranches p).findAll "if" = [outcomeBranches p] := by
  have below : Node.findAll (outcomeBranches p).children "if" = [] := by
    rw [findAll_children_outcomeBranches (by decide) (by decide), List.flatMap_eq_nil_iff]
    intro b hb
    obtain ⟨expression, body⟩ := body_branches hb
    rw [body, findAll_report (by decide)]
    rfl
  rw [Element.findAll_of_name_eq (by rw [outcomeBranches_eq]), below]

/-! ### Items -/

theorem findAll_messageItem {m : Message} {e : Element} (h : messageItem p m = .ok e)
    (other : n ∉ spokenNames) :
    e.findAll n = (if "block" = n then [e] else []) ++ if "goto" = n then [onward p] else [] := by
  rw [Element.findAll_eq, messageItem_eq h, Node.findAll_element, Node.findAll_element,
    findAll_spoken other, findAll_onward, Node.findAll_nil, List.append_nil, List.nil_append]

/-- The names of the elements that handle a result. -/
def resultNames : List String := ["var", "script"]

/-- After an object has returned, the dialogue goes on. -/
theorem findAll_children_objectFilled (other : n ∉ resultNames) (c : ObjectCall) :
    Node.findAll (objectFilled p c).children n = if "goto" = n then [onward p] else [] := by
  simp only [resultNames, List.mem_cons, List.not_mem_nil, or_false, not_or] at other
  obtain ⟨var, other⟩ := other
  have result : resultVariable.findAll n = [] := by
    rw [Element.findAll_of_name_ne var]
    exact Node.findAll_nil n
  have scripts : Node.findAll (c.script.toList.map (.element ∘ script)) n = [] := by
    apply Node.findAll_eq_nil
    intro e he
    obtain ⟨code, -, same⟩ := List.mem_map.1 he
    rw [← Node.element.inj same]
    exact findAll_script other code
  rw [objectFilled_eq, Node.findAll_append, Node.findAll_element, result, scripts,
    Node.findAll_element, findAll_script other, Node.findAll_element, findAll_onward,
    Node.findAll_nil]
  exact List.append_nil _

theorem findAll_objectItem {c : ObjectCall} {e : Element} (h : objectItem p c = .ok e)
    (other : n ∉ resultNames) :
    e.findAll n = (if "object" = n then [e] else []) ++
      ((if "param" = n then c.parameters.map param else []) ++
        ((if "filled" = n then [objectFilled p c] else []) ++
          if "goto" = n then [onward p] else [])) := by
  rw [Element.findAll_eq, objectItem_eq h, Node.findAll_append, findAll_params,
    Node.findAll_element, Node.findAll_nil, List.append_nil, Element.findAll_eq (objectFilled p c),
    findAll_children_objectFilled other, objectFilled_eq]

theorem findAll_beforeTransfer (other : n ∉ spokenNames) (is : List AudioItem) :
    Node.findAll (beforeTransfer is) n = [] := by
  rw [beforeTransfer]
  split
  · exact Node.findAll_nil n
  · rw [Node.findAll_element, findAll_spoken other, Node.findAll_nil, List.append_nil]

/-- What catches the release of the caller. -/
def released (p : Platform) : Element :=
  ⟨"catch", Attributes.empty.set "event" "connection.disconnect.transfer", [.element (onward p)]⟩

theorem onRelease_eq (s : Transfer.Style) :
    onRelease p s = if s.releasesCaller then [.element (released p)] else [] := rfl

theorem findAll_onRelease (s : Transfer.Style) :
    Node.findAll (onRelease p s) n =
      if s.releasesCaller then
        (if "catch" = n then [released p] else []) ++ if "goto" = n then [onward p] else []
      else [] := by
  rw [onRelease_eq]
  split
  · rw [Node.findAll_element, Node.findAll_nil, List.append_nil, Element.findAll_eq, released,
      Node.findAll_element, Node.findAll_nil, List.append_nil, findAll_onward]
  · exact Node.findAll_nil n

theorem findAll_afterTransfer (s : Transfer.Style) :
    (afterTransfer p s).findAll n = (if "filled" = n then [afterTransfer p s] else []) ++
      if s.isSupervised then (outcomeBranches p).findAll n else (onward p).findAll n := by
  rw [Element.findAll_eq]
  apply congrArg
  rw [afterTransfer, Node.findAll_element, Node.findAll_nil, List.append_nil]
  split
  · rfl
  · rfl

theorem children_afterTransfer (s : Transfer.Style) : (afterTransfer p s).children =
    [.element (if s.isSupervised then outcomeBranches p else onward p)] := rfl

/-- The only conditional is that of a supervised transfer. -/
theorem findAll_children_afterTransfer (s : Transfer.Style) :
    Node.findAll (afterTransfer p s).children "if" =
      if s.isSupervised then [outcomeBranches p] else [] := by
  rw [children_afterTransfer, Node.findAll_element, Node.findAll_nil, List.append_nil]
  split
  · exact findAll_outcomeBranches p
  · exact findAll_onward

theorem findAll_transferItem {t : Transfer} {e : Element} (h : transferItem p t = .ok e)
    (other : n ∉ spokenNames) :
    e.findAll n = (if "transfer" = n then [e] else []) ++
      (Node.findAll (onRelease p t.style) n ++ (afterTransfer p t.style).findAll n) := by
  rw [Element.findAll_eq, transferItem_eq h, Node.findAll_append, Node.findAll_append,
    findAll_beforeTransfer other, List.nil_append, Node.findAll_element, Node.findAll_nil,
    List.append_nil]

/-! ### Documents -/

/-- The names of the elements around an item. -/
def outerNames : List String := ["vxml", "form"]

/-- Below the form of a document there is the item of its payload. -/
theorem findAll_document {payload : Payload} {d : Document} (h : document p payload = .ok d) :
    ∃ e, item p payload = .ok e ∧ ∀ n, n ∉ outerNames → d.root.findAll n = e.findAll n := by
  obtain ⟨e, rendered, root⟩ := document_eq h
  refine ⟨e, rendered, fun n other => ?_⟩
  simp only [outerNames, List.mem_cons, List.not_mem_nil, or_false, not_or] at other
  obtain ⟨vxml, form⟩ := other
  rw [root, Element.findAll_of_name_ne vxml, Node.findAll_element, Node.findAll_nil,
    List.append_nil, Element.findAll_of_name_ne form, Node.findAll_element, Node.findAll_nil,
    List.append_nil]

/-- The elements of a message in which something is run, and its jumps. -/
theorem elements_message {m : Message} {d : Document} (h : document p (.message m) = .ok d) :
    ∃ e, messageItem p m = .ok e ∧ d.root.findAll "block" = [e] ∧
      d.root.findAll "catch" = [] ∧ d.root.findAll "filled" = [] ∧ d.root.findAll "if" = [] ∧
      d.root.findAll "goto" = [onward p] := by
  obtain ⟨e, rendered, search⟩ := findAll_document h
  have found (n : String) (other : n ∉ outerNames ∧ n ∉ spokenNames) : d.root.findAll n =
      (if "block" = n then [e] else []) ++ if "goto" = n then [onward p] else [] := by
    rw [search n other.1, findAll_messageItem rendered other.2]
  exact ⟨e, rendered, found "block" (by decide), found "catch" (by decide),
    found "filled" (by decide), found "if" (by decide), found "goto" (by decide)⟩

/-- The elements of an object call in which something is run, its jumps and its
parameters. -/
theorem elements_objectCall {c : ObjectCall} {d : Document}
    (h : document p (.objectCall c) = .ok d) :
    ∃ e, objectItem p c = .ok e ∧ d.root.findAll "object" = [e] ∧
      d.root.findAll "param" = c.parameters.map param ∧ d.root.findAll "block" = [] ∧
      d.root.findAll "catch" = [] ∧ d.root.findAll "filled" = [objectFilled p c] ∧
      d.root.findAll "if" = [] ∧ d.root.findAll "goto" = [onward p] := by
  obtain ⟨e, rendered, search⟩ := findAll_document h
  have found (n : String) (other : n ∉ outerNames ∧ n ∉ resultNames) : d.root.findAll n =
      (if "object" = n then [e] else []) ++
        ((if "param" = n then c.parameters.map param else []) ++
          ((if "filled" = n then [objectFilled p c] else []) ++
            if "goto" = n then [onward p] else [])) := by
    rw [search n other.1, findAll_objectItem rendered other.2]
  have params : d.root.findAll "param" = c.parameters.map param := by
    rw [found "param" (by decide)]
    exact List.append_nil _
  exact ⟨e, rendered, found "object" (by decide), params, found "block" (by decide),
    found "catch" (by decide), found "filled" (by decide), found "if" (by decide),
    found "goto" (by decide)⟩

/-- The elements of a transfer in which something is run, and its jumps. -/
theorem elements_transfer {t : Transfer} {d : Document} (h : document p (.transfer t) = .ok d) :
    ∃ e, transferItem p t = .ok e ∧ d.root.findAll "transfer" = [e] ∧
      d.root.findAll "block" = [] ∧
      d.root.findAll "catch" = (if t.style.releasesCaller then [released p] else []) ∧
      d.root.findAll "filled" = [afterTransfer p t.style] ∧
      d.root.findAll "if" = Node.findAll (afterTransfer p t.style).children "if" ∧
      d.root.findAll "goto" = Node.findAll (onRelease p t.style) "goto" ++
        (afterTransfer p t.style).findAll "goto" := by
  obtain ⟨e, rendered, search⟩ := findAll_document h
  have found (n : String) (other : n ∉ outerNames ∧ n ∉ spokenNames) : d.root.findAll n =
      (if "transfer" = n then [e] else []) ++
        (Node.findAll (onRelease p t.style) n ++ (afterTransfer p t.style).findAll n) := by
    rw [search n other.1, findAll_transferItem rendered other.2]
  have outside (n : String) (other : n ∉ outerNames ∧ n ∉ spokenNames ∧ n ∉ branchNames) :
      d.root.findAll n = (if "transfer" = n then [e] else []) ++
        ((if t.style.releasesCaller then if "catch" = n then [released p] else [] else []) ++
          if "filled" = n then [afterTransfer p t.style] else []) := by
    have goto : ¬ "goto" = n := fun same => other.2.2 (same ▸ by decide)
    rw [found n ⟨other.1, other.2.1⟩, findAll_onRelease, findAll_afterTransfer, findAll_onward,
      findAll_outcomeBranches_eq_nil other.2.2, if_neg goto, List.append_nil, ite_self,
      List.append_nil]
  refine ⟨e, rendered, ?_, ?_, ?_, ?_, ?_, found "goto" (by decide)⟩
  · rw [outside "transfer" (by decide)]
    simp
  · rw [outside "block" (by decide)]
    simp
  · rw [outside "catch" (by decide)]
    simp
  · rw [outside "filled" (by decide)]
    simp
  · rw [found "if" (by decide), findAll_onRelease, findAll_children_afterTransfer,
      findAll_afterTransfer, findAll_onward, findAll_outcomeBranches]
    simp

/-- The names of the elements of a transfer, its branches aside. -/
def transferNames : List String :=
  ["vxml", "form", "transfer", "prompt", "audio", "break", "catch", "filled", "goto"]

theorem findAll_transfer {t : Transfer} {d : Document} (h : document p (.transfer t) = .ok d)
    (other : n ∉ transferNames) :
    d.root.findAll n = if t.style.isSupervised then (outcomeBranches p).findAll n else [] := by
  simp only [transferNames, List.mem_cons, List.not_mem_nil, or_false, not_or] at other
  obtain ⟨vxml, form, transfer, prompt, audio, pause, caught, filled, goto⟩ := other
  have inner : n ∉ outerNames := by simp [outerNames, vxml, form]
  have unspoken : n ∉ spokenNames := by simp [spokenNames, prompt, audio, pause]
  obtain ⟨e, rendered, search⟩ := findAll_document h
  rw [search n inner, findAll_transferItem rendered unspoken, findAll_onRelease,
    findAll_afterTransfer, findAll_onward, if_neg (Ne.symm transfer), if_neg (Ne.symm caught),
    if_neg (Ne.symm filled), if_neg (Ne.symm goto)]
  split
  · rfl
  · rfl

end Render

end VoiceDialogue
