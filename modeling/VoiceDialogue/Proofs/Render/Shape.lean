/-
VoiceDialogue/Proofs/Render/Shape.lean

The documents of turns, written out.

The renderer puts a document together step by step and may give up on the way.
Here every part that comes out of it is written down as a whole: its name, its
attributes and the list of its children.  Whoever knows that a turn was
rendered can take the document apart with these equations and never meets the
steps again.
-/
import VoiceDialogue.Proofs.Render.Parts
import VoiceDialogue.Proofs.Render.Prompt

namespace VoiceDialogue

namespace Render

variable {p : Platform}

/-! ### Parts -/

theorem script_eq (code : String) : script code = ⟨"script", .empty, Node.texts code⟩ :=
  Element.appendText_eq (.new "script") code

/-- A prompt with everything that is played. -/
def spoken (attributes : Attributes) (items : List AudioItem) : Element :=
  ⟨"prompt", attributes, itemNodes false items⟩

/-- The children that play items before a transfer: none if there is nothing
to play. -/
def beforeTransfer (items : List AudioItem) : List Node :=
  if items.isEmpty then [] else [.element (spoken .empty items)]

/-- The children that catch the release of the caller, where that happens. -/
def onRelease (p : Platform) (s : Transfer.Style) : List Node :=
  if s.releasesCaller then
    [.element ⟨"catch", Attributes.empty.set "event" "connection.disconnect.transfer",
      [.element (onward p)]⟩]
  else []

/-- What happens when a transfer is over. -/
def afterTransfer (p : Platform) (s : Transfer.Style) : Element :=
  ⟨"filled", .empty, [.element (if s.isSupervised then outcomeBranches p else onward p)]⟩

/-- The variable that holds the result of an object. -/
def resultVariable : Element :=
  ⟨"var", (Attributes.empty.set "name" "object").set "expr" "dialog.object", []⟩

/-! ### Items -/

theorem messageItem_eq {m : Message} {e : Element} (h : messageItem p m = .ok e) :
    e = ⟨"block", .empty,
      [.element (spoken (promptAttributes m) m.items), .element (onward p)]⟩ := by
  rw [messageItem] at h
  cases hm : messagePrompt m with
  | error o => rw [hm] at h; cases h
  | ok prompt =>
    rw [hm] at h
    obtain rfl := Except.ok.inj h
    rw [appendItems_eq hm]
    rfl

theorem objectFilled_eq (c : ObjectCall) :
    objectFilled p c = ⟨"filled", .empty,
      .element resultVariable :: c.script.toList.map (.element ∘ script) ++
        [.element (script (p.valueResultCall "object")), .element (onward p)]⟩ := by
  rw [objectFilled]
  cases c.script with
  | none => rfl
  | some code => rfl

/-- Parameters are appended one by one. -/
theorem foldl_append_param (e : Element) (qs : List Parameter) :
    qs.foldl (fun e q => e.append (param q)) e =
      ⟨e.name, e.attributes, e.children ++ qs.map (.element ∘ param)⟩ := by
  induction qs generalizing e with
  | nil =>
    obtain ⟨name, attributes, children⟩ := e
    rw [List.map_nil, List.append_nil]
    rfl
  | cons q qs ih =>
    rw [List.foldl_cons, ih, List.map_cons]
    show Element.mk _ _ (e.children ++ [_] ++ _) = _
    rw [List.append_assoc]
    rfl

theorem objectItem_eq {c : ObjectCall} {e : Element} (h : objectItem p c = .ok e) :
    e = ⟨"object", (objectTag p c).attributes,
      c.parameters.map (.element ∘ param) ++ [.element (objectFilled p c)]⟩ := by
  rw [objectItem] at h
  split at h
  · cases h
  obtain rfl := Except.ok.inj h
  rw [foldl_append_param, objectTag_eq]
  rfl

/-- The end of a transfer is appended to what there is. -/
theorem appendEnding_eq (s : Transfer.Style) (e : Element) :
    appendEnding p s e =
      ⟨e.name, e.attributes, e.children ++ onRelease p s ++ [.element (afterTransfer p s)]⟩ := by
  rw [appendEnding, onRelease]
  cases s.releasesCaller with
  | true => rfl
  | false =>
    show Element.mk _ _ (e.children ++ [_]) = Element.mk _ _ (e.children ++ [] ++ [_])
    rw [List.append_nil]
    rfl

theorem transferItem_eq {t : Transfer} {e : Element} (h : transferItem p t = .ok e) :
    e = ⟨"transfer", (transferTag t).attributes,
      beforeTransfer t.items ++ onRelease p t.style ++ [.element (afterTransfer p t.style)]⟩ := by
  rw [transferItem] at h
  split at h
  · cases h
  split at h
  · next nothing =>
    obtain rfl := Except.ok.inj h
    rw [appendEnding_eq, beforeTransfer, if_pos nothing]
    rfl
  · next something =>
    cases ht : prompt t.items with
    | error o => rw [ht] at h; cases h
    | ok played =>
      rw [ht] at h
      obtain rfl := Except.ok.inj h
      rw [appendEnding_eq, appendItems_eq ht, beforeTransfer, if_neg something]
      rfl

/-! ### Documents -/

/-- A document is its root, its form and the item of its payload. -/
theorem document_eq {payload : Payload} {d : Document} (h : document p payload = .ok d) :
    ∃ e, item p payload = .ok e ∧
      d.root = ⟨"vxml", rootAttributes p,
        [.element ⟨"form", Attributes.empty.set "id" p.formId, [.element e]⟩]⟩ := by
  rw [document] at h
  split at h
  · cases h
  cases hi : item p payload with
  | error o => rw [hi] at h; cases h
  | ok e =>
    rw [hi] at h
    obtain rfl := Except.ok.inj h
    exact ⟨e, rfl, rfl⟩

end Render

end VoiceDialogue
