/-
VoiceDialogue/Proofs/Render/Determined.lean

What the markup of a turn says about the turn.

Nothing that a message, a transfer or an object call holds is lost when it is
rendered.  An attribute is looked up by its name, and a setting that is missing
has no attribute; a list is read off the children.  So each part of a payload
can be read back on its own, and for every part of the renderer there is a
lemma here about two runs: the same markup comes from the same parts.  Together
they are `Render.document_inj`.

Two things are written in more than one way and come out the same
(`Payload.rendered`): an alternative without text is none, and archives are one
text.  Fetch policies are left out.  Cache ages are rounded up, and the names
that a platform declares for attempts may hide what was there before
(`Render.objectTag_eq`).
-/
import VoiceDialogue.Proofs.Render.Shape
import VoiceDialogue.Proofs.Turn.Canonical

namespace VoiceDialogue

/-! ### Settings that may be missing -/

namespace Attributes

theorem get?_empty (n : String) : Attributes.empty.get? n = none := rfl

/-- A setting that is missing leaves the value that was there. -/
theorem get?_set? (a : Attributes) (name : String) (value : Option String) (n : String) :
    (a.set? name value).get? n = if n = name then value.or (a.get? n) else a.get? n := by
  cases value with
  | none => simp [set?]
  | some v => simp [set?, get?_set]

end Attributes

namespace Message

theorem flag_injective :
    Function.Injective (Option.map fun b : Bool => if b then "true" else "false") := by
  apply Option.map_injective
  intro b c h
  cases b <;> cases c <;> first | rfl | exact absurd h (by decide)

end Message

/-! ### What is rendered -/

namespace Payload

/-- The fetch policy of a payload, if there is one. -/
def fetch? : Payload → Option FetchPolicy
  | .objectCall c => c.fetch
  | _ => none

/-- A payload as it is rendered: an alternative without text is none, and the
archives are one text. -/
def rendered : Payload → Payload
  | .message m => .message { m with items := m.items.map AudioItem.plain }
  | .objectCall c => .objectCall { c with archives := [String.intercalate " " c.archives] }
  | .transfer t => .transfer { t with items := t.items.map AudioItem.plain }

end Payload

namespace Render

variable {p : Platform}

/-! ### Attributes -/

theorem values_promptAttributes (m : Message) :
    ["xml:lang", "bargein"].map (promptAttributes m).get? =
      [m.language, m.bargeIn.map fun b => if b then "true" else "false"] := by
  simp [promptAttributes, Attributes.get?_set?, Attributes.get?_empty]

theorem promptAttributes_inj {m n : Message} (h : promptAttributes m = promptAttributes n) :
    m.language = n.language ∧ m.bargeIn = n.bargeIn := by
  have values := values_promptAttributes m
  rw [h, values_promptAttributes, List.cons.injEq, List.cons.injEq] at values
  obtain ⟨language, bargeIn, -⟩ := values
  exact ⟨language.symm, (Message.flag_injective bargeIn).symm⟩

theorem values_param (q : Parameter) :
    ["name", "value", "expr", "type", "valuetype"].map (param q).attributes.get? =
      [some q.name, q.value?, q.expression?, q.mediaType,
        q.valueType.map Parameter.ValueType.name] := by
  simp [param, Attributes.get?_set?, Attributes.get?_set, Element.new,
    Attributes.get?_empty]

theorem param_injective : Function.Injective param := by
  intro q r h
  have values := values_param q
  rw [h, values_param] at values
  simp only [List.cons.injEq, Option.some.injEq] at values
  obtain ⟨name, literal, code, mediaType, valueType, -⟩ := values
  have payload : r.payload = q.payload := Parameter.payload_inj.2 ⟨literal, code⟩
  have valueType : r.valueType = q.valueType :=
    Option.map_injective Parameter.ValueType.name_injective valueType
  calc q = ⟨q.name, q.payload, q.valueType, q.mediaType⟩ := rfl
    _ = ⟨r.name, r.payload, r.valueType, r.mediaType⟩ := by
      rw [name, payload, valueType, mediaType]
    _ = r := rfl

theorem values_transferTag (t : Transfer) :
    ["dest", "type", "connecttimeout", "maxtime", "transferaudio", "aai"].map
        (transferTag t).attributes.get? =
      [some t.destination, some t.style.name, t.connectTimeout.map Duration.designation,
        t.maxTime.map Duration.designation, t.transferAudio, t.aai] := by
  simp [transferTag, Attributes.get?_set?, Attributes.get?_set, Element.new,
    Attributes.get?_empty]

/-- The tag of a transfer tells everything but what is played before. -/
theorem transferTag_inj {t u : Transfer}
    (h : (transferTag t).attributes = (transferTag u).attributes) :
    t.style = u.style ∧ ∀ is, { t with items := is } = { u with items := is } := by
  have values := values_transferTag t
  rw [h, values_transferTag] at values
  simp only [List.cons.injEq, Option.some.injEq] at values
  obtain ⟨destination, style, connectTimeout, maxTime, transferAudio, aai, -⟩ := values
  have style : u.style = t.style := Transfer.Style.name_injective style
  have time := Option.map_injective Duration.designation_injective
  have connectTimeout : u.connectTimeout = t.connectTimeout := time connectTimeout
  have maxTime : u.maxTime = t.maxTime := time maxTime
  refine ⟨style.symm, ?_⟩
  intro is
  rw [destination, style, connectTimeout, maxTime, transferAudio, aai]

theorem values_objectTag {c : ObjectCall} (h : c.fetch = none) :
    ["archive", "classid", "codebase", "codetype", "data", "type"].map
        (objectTag p c).attributes.get? =
      [if c.archives.isEmpty then none else some (String.intercalate " " c.archives),
        c.classId, c.codeBase, c.codeType, c.data, c.mediaType] := by
  rw [objectTag_eq]
  simp [objectAttributes, attemptEntries, Attributes.setAll, h, Attributes.get?_set?,
    Attributes.get?_set, Attributes.get?_empty]

/-- Archives are one attribute, which is missing if there are none. -/
theorem archives_inj {xs ys : List String}
    (h : (if xs.isEmpty then none else some (String.intercalate " " xs)) =
      if ys.isEmpty then none else some (String.intercalate " " ys)) :
    String.intercalate " " xs = String.intercalate " " ys := by
  cases xs with
  | nil =>
    cases ys with
    | nil => rfl
    | cons y ys => cases h
  | cons x xs =>
    cases ys with
    | nil => cases h
    | cons y ys => exact Option.some.inj h

/-! ### Children -/

theorem script_injective : Function.Injective script := by
  intro s t h
  rw [script_eq, script_eq] at h
  exact Node.texts_inj.1 (Element.mk.inj h).2.2

theorem spoken_inj {a b : Attributes} {is js : List AudioItem} (h : spoken a is = spoken b js) :
    a = b ∧ is.map AudioItem.plain = js.map AudioItem.plain :=
  ⟨(Element.mk.inj h).2.1, itemNodes_inj (Element.mk.inj h).2.2⟩

/-- A transfer without a prompt has nothing to play before it. -/
theorem beforeTransfer_inj {is js : List AudioItem} (h : beforeTransfer is = beforeTransfer js) :
    is.map AudioItem.plain = js.map AudioItem.plain := by
  cases is with
  | nil =>
    cases js with
    | nil => rfl
    | cons j js => cases h
  | cons i is =>
    cases js with
    | nil => cases h
    | cons j js => exact (spoken_inj (Node.element.inj (List.cons.inj h).1)).2

/-- A script that runs before the result is reported is one child more. -/
theorem objectFilled_inj {c d : ObjectCall} (h : objectFilled p c = objectFilled p d) :
    c.script = d.script := by
  rw [objectFilled_eq, objectFilled_eq] at h
  have scripts := List.append_cancel_right (List.cons.inj (Element.mk.inj h).2.2).2
  have one : ∀ s t, (Node.element ∘ script) s = (Node.element ∘ script) t → s = t :=
    fun s t same => script_injective (Node.element.inj same)
  have listed : c.script.toList = d.script.toList := (List.map_inj_right one).1 scripts
  have first := congrArg List.head? listed
  rwa [Option.head?_toList, Option.head?_toList] at first

/-! ### Items -/

theorem messageItem_inj {m n : Message} {e : Element} (hm : messageItem p m = .ok e)
    (hn : messageItem p n = .ok e) :
    Payload.rendered (.message m) = Payload.rendered (.message n) := by
  have same := (messageItem_eq hm).symm.trans (messageItem_eq hn)
  have prompts := Node.element.inj (List.cons.inj (Element.mk.inj same).2.2).1
  obtain ⟨attributes, items⟩ := spoken_inj prompts
  obtain ⟨language, bargeIn⟩ := promptAttributes_inj attributes
  rw [Payload.rendered, Payload.rendered, items, language, bargeIn]

theorem objectItem_inj {c d : ObjectCall} {e : Element} (hc : c.fetch = none) (hd : d.fetch = none)
    (h : objectItem p c = .ok e) (h' : objectItem p d = .ok e) :
    Payload.rendered (.objectCall c) = Payload.rendered (.objectCall d) := by
  obtain ⟨-, attributes, children⟩ :=
    Element.mk.inj ((objectItem_eq h).symm.trans (objectItem_eq h'))
  have values := values_objectTag (p := p) hc
  rw [attributes, values_objectTag hd] at values
  simp only [List.cons.injEq] at values
  obtain ⟨archives, classId, codeBase, codeType, data, mediaType, -⟩ := values
  obtain ⟨parameters, filled⟩ := List.append_inj' children rfl
  have one : ∀ q r, (Node.element ∘ param) q = (Node.element ∘ param) r → q = r :=
    fun q r same => param_injective (Node.element.inj same)
  have parameters : c.parameters = d.parameters := (List.map_inj_right one).1 parameters
  have script : c.script = d.script :=
    objectFilled_inj (Node.element.inj (List.cons.inj filled).1)
  rw [Payload.rendered, Payload.rendered, archives_inj archives, classId, codeBase, codeType,
    data, mediaType, hc, hd, parameters, script]

theorem transferItem_inj {t u : Transfer} {e : Element} (ht : transferItem p t = .ok e)
    (hu : transferItem p u = .ok e) :
    Payload.rendered (.transfer t) = Payload.rendered (.transfer u) := by
  obtain ⟨-, attributes, children⟩ :=
    Element.mk.inj ((transferItem_eq ht).symm.trans (transferItem_eq hu))
  obtain ⟨style, settings⟩ := transferTag_inj attributes
  rw [style] at children
  have items : t.items.map AudioItem.plain = u.items.map AudioItem.plain :=
    beforeTransfer_inj (List.append_cancel_right (List.append_cancel_right children))
  rw [Payload.rendered, Payload.rendered, items, settings]

/-- The name of the item that a payload becomes. -/
def itemName : Payload → String
  | .message _ => "block"
  | .objectCall _ => "object"
  | .transfer _ => "transfer"

theorem name_item {payload : Payload} {e : Element} (h : item p payload = .ok e) :
    e.name = itemName payload := by
  cases payload with
  | message m => rw [messageItem_eq h, itemName]
  | objectCall c => rw [objectItem_eq h, itemName]
  | transfer t => rw [transferItem_eq h, itemName]

/-- The items of two payloads are the same only if the payloads are, as far as
they are rendered. -/
theorem item_inj {a b : Payload} {e : Element} (ha : a.fetch? = none) (hb : b.fetch? = none)
    (h : item p a = .ok e) (h' : item p b = .ok e) : a.rendered = b.rendered := by
  have kinds : itemName a = itemName b := (name_item h).symm.trans (name_item h')
  cases a with
  | message m =>
    cases b with
    | message n => exact messageItem_inj h h'
    | _ => exact absurd kinds (by simp [itemName])
  | objectCall c =>
    cases b with
    | objectCall d => exact objectItem_inj ha hb h h'
    | _ => exact absurd kinds (by simp [itemName])
  | transfer t =>
    cases b with
    | transfer u => exact transferItem_inj h h'
    | _ => exact absurd kinds (by simp [itemName])

/-- A document determines what is rendered. -/
theorem document_inj {a b : Payload} {d : Document} (ha : a.fetch? = none) (hb : b.fetch? = none)
    (h : document p a = .ok d) (h' : document p b = .ok d) : a.rendered = b.rendered := by
  obtain ⟨e, he, root⟩ := document_eq h
  obtain ⟨f, hf, root'⟩ := document_eq h'
  have same := root.symm.trans root'
  simp only [Element.mk.injEq, List.cons.injEq, Node.element.injEq, true_and, and_true] at same
  exact item_inj ha hb he (same ▸ hf)

end Render

end VoiceDialogue
