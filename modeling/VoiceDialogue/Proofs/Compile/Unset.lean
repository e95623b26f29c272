/-
VoiceDialogue/Proofs/Compile/Unset.lean

What is not set is not shown.

Renderers written by hand tend to leave traces of missing values: an attribute
without a value, or the word null.  Here no such trace can come from anything
but a text that says so itself.  The values that the renderer words are never
empty and never null (`Render.shows_or_worded`), and the texts it is given are
not empty: those of the turn because drafts refuse empty ones, those of audio
items and of the platform because rendering does (`Render.text_ne_empty`).  The
one exception is the value of a parameter, which may be empty if it was given so.

Since attributes with fixed names are their settings, in their order, it also
shows which of them were made.
-/
import VoiceDialogue.Proofs.Compile.Values
import VoiceDialogue.Proofs.Turn.Valid

namespace VoiceDialogue

variable {σ : Type}

/-! ### Texts that are not empty -/

/-- Words in a row are empty only if the first one is. -/
theorem intercalate_ne_empty {first : String} (rest : List String) (h : first ≠ "") :
    String.intercalate " " (first :: rest) ≠ "" := by
  cases rest with
  | nil => simpa using h
  | cons second rest =>
    rw [String.intercalate_cons_cons, String.append_assoc]
    intro empty
    exact h (String.append_eq_empty_iff.1 empty).1

theorem Platform.WellNamed.text_ne_empty {p : Platform} (h : p.WellNamed) :
    ∀ s ∈ p.slots, s.text ≠ some "" := by
  simp [Platform.slots, h.applicationRoot, h.formId, h.submitTarget]

theorem AudioItem.Playable.text_ne_empty {i : AudioItem} (h : i.Playable) :
    ∀ s ∈ i.slots, s.text ≠ some "" := by
  cases i with
  | speech text => simp [AudioItem.slots]
  | file location alternative =>
    have location : location ≠ "" := h
    simpa [AudioItem.slots] using location
  | pause duration => simp [AudioItem.slots]
  | recording expression =>
    have expression : expression ≠ "" := h
    simpa [AudioItem.slots] using expression

theorem ObjectCall.Valid.archiveText?_ne_empty {c : ObjectCall} (h : c.Valid) :
    c.archiveText? ≠ some "" := by
  rw [archiveText?]
  cases archives : c.archives with
  | nil => simp
  | cons first rest =>
    have given : first ≠ "" := by
      rintro rfl
      exact h.archives (archives ▸ List.mem_cons_self)
    simpa using intercalate_ne_empty rest given

theorem Payload.Valid.parameters {payload : Payload} (h : payload.Valid) :
    ∀ q ∈ payload.parameters, q.Valid := by
  cases payload with
  | message m => exact nofun
  | objectCall c => exact ObjectCall.Valid.parameters h
  | transfer t => exact nofun

/-- The texts of a valid payload are not empty, if all that it plays can be
played. -/
theorem Payload.Valid.text_ne_empty {payload : Payload} (h : payload.Valid)
    (playable : ∀ i ∈ payload.items, i.Playable) : ∀ s ∈ payload.slots, s.text ≠ some "" := by
  have items {is : List AudioItem} (playable : ∀ i ∈ is, i.Playable) :
      ∀ s ∈ is.flatMap AudioItem.slots, s.text ≠ some "" := by
    intro s hs
    obtain ⟨i, hi, hs⟩ := List.mem_flatMap.1 hs
    exact (playable i hi).text_ne_empty s hs
  cases payload with
  | message m =>
    have valid : m.Valid := h
    rw [Payload.slots, List.forall_mem_cons]
    exact ⟨valid.language, items playable⟩
  | objectCall c =>
    have valid : c.Valid := h
    simp [Payload.slots, valid.archiveText?_ne_empty, valid.classId, valid.codeBase,
      valid.codeType, valid.data, valid.mediaType]
  | transfer t =>
    have valid : t.Valid := h
    rw [Payload.slots, List.forall_mem_append]
    refine ⟨?_, items playable⟩
    simp [valid.destination, valid.transferAudio, valid.aai]

/-- Of the texts of a parameter only the value may be empty. -/
theorem Parameter.Valid.eq_value_of_empty {q : Parameter} (h : q.Valid) {name : String}
    (empty : ⟨"param", name, some ""⟩ ∈ q.slots) : name = "value" ∧ q.payload = .value "" := by
  simp only [Parameter.slots, List.mem_cons, List.not_mem_nil, or_false, Slot.mk.injEq, true_and]
    at empty
  rcases empty with ⟨-, empty⟩ | ⟨rfl, value⟩ | ⟨-, code⟩ | ⟨-, empty⟩
  · exact absurd (Option.some.inj empty).symm h.name
  · rw [Parameter.value?] at value
    split at value
    · next text payload =>
      obtain rfl := Option.some.inj value
      exact ⟨rfl, payload⟩
    · cases value
  · obtain ⟨text, -, none⟩ | ⟨code', -, given, something⟩ := h.payload
    · rw [none] at code
      cases code
    · rw [given] at code
      exact absurd (Option.some.inj code).symm something
  · exact absurd empty.symm h.mediaType

/-! ### Together -/

/-- **Unset fields leave no trace.**  In the document of a turn without
adapters, an attribute is empty only if it is the value of a parameter that was
given an empty value, and it reads null only if it shows a text that does.  The
attributes of the prompt of a message, of a transfer and of parameters are the
settings that were made, in their order; and a parameter has either a value or
an expression. -/
theorem unset_fields_leave_no_trace {t : Turn σ} (reachable : t.Reachable) (own : t.adapters = [])
    {p : Platform} {s : σ} {d : Document} (compiled : (compile p t s).result = .ok d) :
    (∀ e ∈ d.root.descendants, ∀ x ∈ e.attributes.entries,
      (x.2 = "" → x.1 = "value" ∧
        ∃ q ∈ t.payload.parameters, e = Render.param q ∧ q.payload = .value "") ∧
      (x.2 = "null" → Render.ShowsText p t.payload e x.1 "null")) ∧
    (∀ m, t.payload = .message m → ∃ e, d.root.findAll "prompt" = [e] ∧
      e.attributes.entries = present [("xml:lang", m.language),
        ("bargein", m.bargeIn.map fun b => if b then "true" else "false")]) ∧
    (∀ u, t.payload = .transfer u → ∃ e, d.root.findAll "transfer" = [e] ∧
      e.attributes.entries = present [("name", some "transfer"), ("dest", some u.destination),
        ("type", some u.style.name),
        ("connecttimeout", u.connectTimeout.map Duration.designation),
        ("maxtime", u.maxTime.map Duration.designation), ("transferaudio", u.transferAudio),
        ("aai", u.aai)]) ∧
    d.root.findAll "param" = t.payload.parameters.map Render.param ∧
    ∀ q ∈ t.payload.parameters,
      (Render.param q).attributes.entries = present [("name", some q.name), ("value", q.value?),
        ("expr", q.expression?), ("type", q.mediaType),
        ("valuetype", q.valueType.map Parameter.ValueType.name)] ∧
      (q.value?.isSome ∧ q.expression? = none ∨ q.value? = none ∧ q.expression?.isSome) := by
  obtain ⟨rendered, -⟩ := (result_compile_eq_ok_iff p s d own).1 compiled
  obtain ⟨named, fine⟩ := (Render.exists_document_iff p t.payload).1 ⟨d, rendered⟩
  have named : p.WellNamed := p.firstEmpty?_eq_none_iff.1 named
  have playable : ∀ i ∈ t.payload.items, i.Playable := (t.payload.obstacle?_eq_none_iff.1 fine).2
  have valid : t.payload.Valid := reachable.valid.payload
  have parameters : ∀ q ∈ t.payload.parameters, q.Valid := valid.parameters
  refine ⟨?_, ?_, ?_, Render.findAll_param_document rendered, ?_⟩
  · rintro e he ⟨name, value⟩ hx
    have origin := Render.shows_or_worded rendered he hx
    constructor
    · rintro rfl
      obtain (place | ⟨q, hq, rfl, place⟩) | worded := origin
      · have given : ∀ s ∈ p.slots ++ t.payload.slots, s.text ≠ some "" :=
          List.forall_mem_append.2 ⟨named.text_ne_empty, valid.text_ne_empty playable⟩
        exact absurd rfl (given _ place)
      · obtain ⟨rfl, payload⟩ := (parameters q hq).eq_value_of_empty place
        exact ⟨rfl, q, hq, rfl, payload⟩
      · exact absurd rfl worded.1
    · rintro rfl
      exact origin.resolve_right fun worded => worded.2 rfl
  · rintro m kind
    rw [kind] at rendered
    exact ⟨_, Render.findAll_prompt rendered, Render.entries_promptAttributes m⟩
  · rintro u kind
    rw [kind] at rendered
    obtain ⟨e, item, transfer, -⟩ := Render.elements_transfer rendered
    refine ⟨e, transfer, ?_⟩
    rw [Render.transferItem_eq item]
    exact Render.entries_transferTag u
  · intro q hq
    refine ⟨Render.entries_param q, ?_⟩
    obtain ⟨text, value, none⟩ | ⟨code, none, expression, -⟩ := (parameters q hq).payload
    · exact .inl ⟨by simp [value], none⟩
    · exact .inr ⟨none, by simp [expression]⟩

/-- An object call with a class of an unfortunate name and a parameter that is
empty. -/
def emptyLookup : Turn Unit :=
  ⟨"lookup", .objectCall { classId := some "null", parameters := [⟨"id", .value "", none, none⟩] },
    []⟩

/-- The parameter is the only one with an empty attribute, and the class the
only attribute that reads null. -/
theorem emptyLookup_leaves_no_trace :
    emptyLookup.Reachable ∧ emptyLookup.adapters = [] ∧
      ∃ d, (compile SettledConventions.default.platform emptyLookup ()).result = .ok d ∧
        d.root.findAll "param" = [Render.param ⟨"id", .value "", none, none⟩] ∧
        ∀ e ∈ d.root.descendants, ∀ x ∈ e.attributes.entries, x.2 = "" → x.1 = "value" := by
  have parameter : Parameter.Reachable ⟨"id", .value "", none, none⟩ := ⟨"id", [.value ""], rfl⟩
  have built : Turn.objectCallOf "lookup"
      [.classId "null", .parameter ⟨"id", .value "", none, none⟩] = .ok emptyLookup := rfl
  have reachable : emptyLookup.Reachable := by
    refine .objectCall ?_ built
    simp [ObjectCall.Setting.Reachable, parameter]
  obtain ⟨d, compiled⟩ :
      ∃ d, (compile SettledConventions.default.platform emptyLookup ()).result = .ok d := ⟨_, rfl⟩
  obtain ⟨traces, -, -, parameters, -⟩ := unset_fields_leave_no_trace reachable rfl compiled
  refine ⟨reachable, rfl, d, compiled, parameters, ?_⟩
  intro e he x hx empty
  exact ((traces e he x hx).1 empty).1

end VoiceDialogue
