/-
VoiceDialogue/Proofs/Compile/Values.lean

Where the values of attributes come from.

An attribute of a rendered document either shows a text, which the turn or its
platform gives, or its value is worded by the renderer: fixed words, time
designations and counts.  The places for texts are few and are listed here
(`Platform.slots`, `Payload.slots`, `Parameter.slots`); everything else is
worded, and words are neither empty nor can they be mistaken for a missing value
(`Worded`).  That this is so all over a document is
`Render.shows_or_worded`.

The attributes of prompts, parameters and transfers are written out as well:
each is its settings, in their order (`Render.entries_promptAttributes`,
`Render.entries_param`, `Render.entries_transferTag`).
-/
import VoiceDialogue.Proofs.Compile.ObjectAttributes

namespace VoiceDialogue

/-! ### Words -/

/-- Whether a value is neither empty nor the word for a missing value. -/
def Worded (v : String) : Prop := v ≠ "" ∧ v ≠ "null"

instance (v : String) : Decidable (Worded v) := inferInstanceAs (Decidable (_ ∧ _))

/-- Counts start with a digit. -/
theorem worded_repr_append (n : Nat) (unit : String) : Worded (n.repr ++ unit) := by
  obtain ⟨c, cs, digits⟩ : ∃ c cs, n.repr.toList = c :: cs := by
    rw [Nat.toList_repr]
    exact List.exists_cons_of_ne_nil Nat.toDigits_ne_nil
  have digit : c.isDigit = true := by
    have first : c ∈ Nat.toDigits 10 n := by
      rw [← Nat.toList_repr, digits]
      exact List.mem_cons_self
    exact Nat.isDigit_of_mem_toDigits (by decide) (by decide) first
  -- neither of the two texts starts with a digit
  have starts : (n.repr ++ unit).toList = c :: (cs ++ unit.toList) := by
    rw [String.toList_append, digits, List.cons_append]
  constructor
  · intro empty
    rw [empty] at starts
    cases starts
  · intro null
    rw [null] at starts
    obtain rfl : 'n' = c := (List.cons.inj starts).1
    exact absurd digit (by decide)

theorem worded_repr (n : Nat) : Worded n.repr := by
  have := worded_repr_append n ""
  rwa [String.append_empty] at this

theorem worded_designation (d : Duration) : Worded d.designation := worded_repr_append _ "ms"

theorem worded_hint (h : FetchHint) : Worded h.name := by
  cases h <;> decide

theorem worded_valueType (t : Parameter.ValueType) : Worded t.name := by
  cases t <;> decide

theorem worded_style (s : Transfer.Style) : Worded s.name := by
  cases s <;> decide

theorem worded_outcomeIs (o : Outcome) : Worded (Render.outcomeIs o) := by
  cases o with
  | unknown raw => show Worded "transfer == 'unknown'"; decide
  | _ => decide

/-! ### Texts -/

/-- A place for a text: the names of an element and of one of its attributes,
and the text, if it is given. -/
structure Slot where
  element : String
  name : String
  text : Option String

/-- The places for texts of a platform. -/
def Platform.slots (p : Platform) : List Slot :=
  [⟨"vxml", "application", p.applicationRoot⟩, ⟨"form", "id", some p.formId⟩,
    ⟨"goto", "next", some p.submitTarget⟩]

/-- The places for texts of an audio item. -/
def AudioItem.slots : AudioItem → List Slot
  | .speech _ => []
  | .file location _ => [⟨"audio", "src", some location⟩]
  | .pause _ => []
  | .recording expression => [⟨"audio", "expr", some expression⟩]

/-- The places for texts of a parameter. -/
def Parameter.slots (q : Parameter) : List Slot :=
  [⟨"param", "name", some q.name⟩, ⟨"param", "value", q.value?⟩,
    ⟨"param", "expr", q.expression?⟩, ⟨"param", "type", q.mediaType⟩]

theorem Parameter.element_of_mem_slots {q : Parameter} {s : Slot} (h : s ∈ q.slots) :
    s.element = "param" := by
  simp only [slots, List.mem_cons, List.not_mem_nil, or_false] at h
  rcases h with rfl | rfl | rfl | rfl <;> rfl

/-- The archives as one text, if there are any. -/
def ObjectCall.archiveText? (c : ObjectCall) : Option String :=
  if c.archives.isEmpty then none else some (String.intercalate " " c.archives)

namespace Payload

/-- The places for texts of a payload, its parameters aside. -/
def slots : Payload → List Slot
  | .message m => ⟨"prompt", "xml:lang", m.language⟩ :: m.items.flatMap AudioItem.slots
  | .objectCall c =>
      [⟨"object", "archive", c.archiveText?⟩, ⟨"object", "classid", c.classId⟩,
        ⟨"object", "codebase", c.codeBase⟩, ⟨"object", "codetype", c.codeType⟩,
        ⟨"object", "data", c.data⟩, ⟨"object", "type", c.mediaType⟩]
  | .transfer t =>
      [⟨"transfer", "dest", some t.destination⟩, ⟨"transfer", "transferaudio", t.transferAudio⟩,
        ⟨"transfer", "aai", t.aai⟩] ++ t.items.flatMap AudioItem.slots

/-- The parameters of a payload. -/
def parameters : Payload → List Parameter
  | .objectCall c => c.parameters
  | _ => []

end Payload

namespace Render

variable {p : Platform}

/-- Whether an attribute of an element shows a text: one of the turn or of its
platform, or one of the parameter that the element is for. -/
def ShowsText (p : Platform) (payload : Payload) (e : Element) (name text : String) : Prop :=
  ⟨e.name, name, some text⟩ ∈ p.slots ++ payload.slots ∨
    ∃ q ∈ payload.parameters, e = param q ∧ ⟨"param", name, some text⟩ ∈ q.slots

end Render

/-! ### Settings that may be missing -/

/-- The pairs of the settings that are made, in their order. -/
def present (settings : List (String × Option String)) : List (String × String) :=
  settings.filterMap fun s => s.2.map (s.1, ·)

theorem mem_present {settings : List (String × Option String)} {x : String × String} :
    x ∈ present settings ↔ (x.1, some x.2) ∈ settings := by
  rw [present, List.mem_filterMap]
  constructor
  · rintro ⟨⟨name, value⟩, hs, made⟩
    obtain ⟨v, rfl, rfl⟩ := Option.map_eq_some_iff.1 made
    exact hs
  · intro hs
    exact ⟨_, hs, rfl⟩

/-- Names that are distinct stay so when some of them are left out. -/
theorem nodup_present {settings : List (String × Option String)}
    (distinct : (settings.map Prod.fst).Nodup) : (namesOf (present settings)).Nodup := by
  have names : (namesOf (present settings)).Sublist (settings.map Prod.fst) := by
    induction settings with
    | nil => exact List.Sublist.refl _
    | cons s rest ih =>
      obtain ⟨name, value⟩ := s
      have ih := ih (List.nodup_cons.1 distinct).2
      cases value with
      | none => exact ih.cons name
      | some v => exact ih.cons_cons name
  exact names.nodup distinct

namespace Attributes

theorem foldl_set? (settings : List (String × Option String)) :
    settings.foldl (fun a s => a.set? s.1 s.2) empty = ofList (present settings) := by
  induction settings using List.reverseRecOn with
  | nil => rfl
  | append_singleton settings s ih =>
    obtain ⟨name, value⟩ := s
    have more :
        present (settings ++ [(name, value)]) = present settings ++ present [(name, value)] :=
      List.filterMap_append
    rw [List.foldl_append, ih, more]
    cases value with
    | none => exact congrArg ofList (List.append_nil _).symm
    | some v => exact (ofList_concat _ (name, v)).symm

/-- Settings of distinct names leave the pairs of those that are made. -/
theorem entries_eq_present {a : Attributes} {settings : List (String × Option String)}
    (made : a = settings.foldl (fun a s => a.set? s.1 s.2) empty)
    (distinct : (settings.map Prod.fst).Nodup) : a.entries = present settings := by
  rw [made, foldl_set?]
  exact (entries_ofList_iff _).2 (nodup_present distinct)

end Attributes

namespace Render

variable {p : Platform}

/-- The settings of a prompt: the language and then the barge-in flag. -/
theorem entries_promptAttributes (m : Message) : (promptAttributes m).entries =
    present [("xml:lang", m.language),
      ("bargein", m.bargeIn.map fun b => if b then "true" else "false")] :=
  Attributes.entries_eq_present rfl (by simp)

/-- The settings of a parameter. -/
theorem entries_param (q : Parameter) : (param q).attributes.entries =
    present [("name", some q.name), ("value", q.value?), ("expr", q.expression?),
      ("type", q.mediaType), ("valuetype", q.valueType.map Parameter.ValueType.name)] :=
  Attributes.entries_eq_present rfl (by simp)

/-- The settings of a transfer. -/
theorem entries_transferTag (t : Transfer) : (transferTag t).attributes.entries =
    present [("name", some "transfer"), ("dest", some t.destination), ("type", some t.style.name),
      ("connecttimeout", t.connectTimeout.map Duration.designation),
      ("maxtime", t.maxTime.map Duration.designation), ("transferaudio", t.transferAudio),
      ("aai", t.aai)] :=
  Attributes.entries_eq_present rfl (by simp)

/-! ### Tags -/

/-- Whether every attribute of a tag has a place for its text on a list or is
worded. -/
def ExplainedTag (slots : List Slot) (name : String) (a : Attributes) : Prop :=
  ∀ x ∈ a.entries, ⟨name, x.1, some x.2⟩ ∈ slots ∨ Worded x.2

/-- It is enough to look at each setting. -/
theorem explainedTag_of_settings {slots : List Slot} {name : String} {a : Attributes}
    (settings : List (String × Option String))
    (made : a = settings.foldl (fun a s => a.set? s.1 s.2) .empty)
    (each : ∀ s ∈ settings, ⟨name, s.1, s.2⟩ ∈ slots ∨ ∀ v ∈ s.2, Worded v) :
    ExplainedTag slots name a := by
  intro x hx
  rw [made, Attributes.foldl_set?] at hx
  have setting := mem_present.1 (Attributes.mem_of_mem_ofList hx)
  rcases each _ setting with place | worded
  · exact .inl place
  · exact .inr (worded x.2 rfl)

/-- A tag with a single attribute. -/
theorem explainedTag_set {slots : List Slot} {name n v : String}
    (h : ⟨name, n, some v⟩ ∈ slots ∨ Worded v) :
    ExplainedTag slots name (Attributes.empty.set n v) := by
  apply explainedTag_of_settings [(n, some v)] rfl
  simpa using h

theorem explainedTag_empty {slots : List Slot} {name : String} :
    ExplainedTag slots name .empty := by
  intro x hx
  cases hx

section

variable {slots : List Slot}

/-- The attributes of audio items show locations and expressions. -/
theorem explained_audioItem {i : AudioItem} (h : ∀ s ∈ i.slots, s ∈ slots) :
    i.Everywhere (ExplainedTag slots) fun _ => True := by
  cases i with
  | speech s => exact fun _ => trivial
  | file location alternative =>
    exact ⟨explainedTag_set (.inl (h _ List.mem_cons_self)), fun _ => trivial⟩
  | pause duration => exact explainedTag_set (.inr (worded_designation duration))
  | recording expression => exact explainedTag_set (.inl (h _ List.mem_cons_self))

/-- The texts of an object call are shown, and what a fetch policy says is
worded, under whatever names. -/
theorem explained_object (c : ObjectCall) (h : ∀ s ∈ (Payload.objectCall c).slots, s ∈ slots) :
    ExplainedTag slots "object" ((objectAttributes c).setAll (attemptEntries p c)) := by
  have seconds (d : Duration) : Worded d.wholeSecs.toNat.repr := worded_repr _
  apply explainedTag_of_settings
    ([("name", some "object"), ("archive", c.archiveText?), ("classid", c.classId),
        ("codebase", c.codeBase), ("codetype", c.codeType), ("data", c.data),
        ("type", c.mediaType),
        ("fetchhint", c.fetch.bind fun f => f.hint.map FetchHint.name),
        ("fetchtimeout", c.fetch.bind fun f => f.timeout.map Duration.designation),
        ("maxage", c.fetch.bind fun f => f.maxAge.map fun d => d.wholeSecs.toNat.repr),
        ("maxstale", c.fetch.bind fun f => f.maxStale.map fun d => d.wholeSecs.toNat.repr)] ++
      (attemptEntries p c).map fun e => (e.1, some e.2))
  · rw [List.foldl_append, List.foldl_map]
    rfl
  · -- the first name and the fetch policy are worded, all else is shown
    rw [List.forall_mem_append]
    constructor
    · simp only [List.forall_mem_cons]
      exact ⟨.inr (by decide), .inl (h _ (by simp [Payload.slots])),
        .inl (h _ (by simp [Payload.slots])), .inl (h _ (by simp [Payload.slots])),
        .inl (h _ (by simp [Payload.slots])), .inl (h _ (by simp [Payload.slots])),
        .inl (h _ (by simp [Payload.slots])), .inr (forall_mem_fetch_setting worded_hint c.fetch),
        .inr (forall_mem_fetch_setting worded_designation c.fetch),
        .inr (forall_mem_fetch_setting seconds c.fetch),
        .inr (forall_mem_fetch_setting seconds c.fetch), nofun⟩
    · intro s hs
      obtain ⟨e, he, rfl⟩ := List.mem_map.1 hs
      right
      rintro _ ⟨⟩
      rcases value_of_mem_attemptEntries he with ⟨n, count⟩ | ⟨d, time⟩
      · exact count ▸ worded_repr n
      · exact time ▸ worded_designation d

theorem explained_transfer (t : Transfer) (h : ∀ s ∈ (Payload.transfer t).slots, s ∈ slots) :
    ExplainedTag slots "transfer" (transferTag t).attributes := by
  have time (d : Option Duration) : ∀ v ∈ d.map Duration.designation, Worded v := by
    intro v hv
    obtain ⟨d, -, rfl⟩ := Option.map_eq_some_iff.1 hv
    exact worded_designation d
  apply explainedTag_of_settings
    [("name", some "transfer"), ("dest", some t.destination), ("type", some t.style.name),
      ("connecttimeout", t.connectTimeout.map Duration.designation),
      ("maxtime", t.maxTime.map Duration.designation), ("transferaudio", t.transferAudio),
      ("aai", t.aai)] rfl
  simp only [List.forall_mem_cons]
  exact ⟨.inr (by decide), .inl (h _ (by simp [Payload.slots])), .inr (by simp [worded_style]),
    .inr (time _), .inr (time _), .inl (h _ (by simp [Payload.slots])),
    .inl (h _ (by simp [Payload.slots])), nofun⟩

theorem explained_prompt (m : Message) (h : ∀ s ∈ (Payload.message m).slots, s ∈ slots) :
    ExplainedTag slots "prompt" (promptAttributes m) := by
  apply explainedTag_of_settings [("xml:lang", m.language),
    ("bargein", m.bargeIn.map fun b => if b then "true" else "false")] rfl
  simp only [List.forall_mem_cons]
  refine ⟨.inl (h _ (by simp [Payload.slots])), .inr ?_, nofun⟩
  intro v hv
  obtain ⟨flag, -, rfl⟩ := Option.map_eq_some_iff.1 hv
  cases flag <;> decide

theorem explained_branches :
    BranchesEverywhere (ExplainedTag slots) (fun _ => True) p := by
  have condition (name : String) (o : Outcome) :
      ExplainedTag slots name (Attributes.empty.set "cond" (outcomeIs o)) :=
    explainedTag_set (.inr (worded_outcomeIs o))
  have scripts (code : String) : ScriptEverywhere (ExplainedTag slots) (fun _ => True) code :=
    ⟨explainedTag_empty, fun _ => trivial⟩
  exact ⟨condition "if" _, fun o _ => condition "elseif" o, fun o _ => scripts _,
    explainedTag_empty, scripts _⟩

theorem explained_param (q : Parameter) (h : ∀ s ∈ q.slots, s ∈ slots) :
    ExplainedTag slots "param" (param q).attributes := by
  apply explainedTag_of_settings [("name", some q.name), ("value", q.value?),
    ("expr", q.expression?), ("type", q.mediaType),
    ("valuetype", q.valueType.map Parameter.ValueType.name)] rfl
  simp only [List.forall_mem_cons]
  refine ⟨.inl (h _ (by simp [Parameter.slots])), .inl (h _ (by simp [Parameter.slots])),
    .inl (h _ (by simp [Parameter.slots])), .inl (h _ (by simp [Parameter.slots])), .inr ?_, nofun⟩
  intro v hv
  obtain ⟨t, -, rfl⟩ := Option.map_eq_some_iff.1 hv
  exact worded_valueType t

theorem explained_payload {payload : Payload} (h : ∀ s ∈ payload.slots, s ∈ slots)
    (parameters : ∀ q ∈ payload.parameters, ∀ s ∈ q.slots, s ∈ slots) :
    PayloadEverywhere (ExplainedTag slots) (fun _ => True) p payload := by
  have items {is : List AudioItem} (h : ∀ s ∈ is.flatMap AudioItem.slots, s ∈ slots) :
      ∀ i ∈ is, i.Everywhere (ExplainedTag slots) fun _ => True := by
    intro i hi
    apply explained_audioItem
    intro s hs
    exact h s (List.mem_flatMap.2 ⟨i, hi, hs⟩)
  have scripts (code : String) : ScriptEverywhere (ExplainedTag slots) (fun _ => True) code :=
    ⟨explainedTag_empty, fun _ => trivial⟩
  cases payload with
  | message m =>
    refine ⟨explainedTag_empty, explained_prompt m h, items ?_⟩
    intro s hs
    exact h s (List.mem_cons_of_mem _ hs)
  | objectCall c =>
    have result : ExplainedTag slots "var"
        ((Attributes.empty.set "name" "object").set "expr" "dialog.object") := by
      apply explainedTag_of_settings [("name", some "object"), ("expr", some "dialog.object")] rfl
      simp +decide
    exact ⟨explained_object c h, fun q hq => explained_param q (parameters q hq),
      explainedTag_empty, result, fun code _ => scripts code, scripts _⟩
  | transfer t =>
    refine ⟨explained_transfer t h, fun _ => explainedTag_empty, items ?_,
      fun _ => explainedTag_set (.inr (by decide)), explainedTag_empty, fun _ => explained_branches⟩
    intro s hs
    exact h s (List.mem_append_right _ hs)

end

/-! ### Documents -/

/-- The elements of parameters are those of the payload's parameters. -/
theorem findAll_param_document {payload : Payload} {d : Document}
    (h : document p payload = .ok d) :
    d.root.findAll "param" = payload.parameters.map param := by
  cases payload with
  | message m =>
    obtain ⟨e, rendered, search⟩ := findAll_document h
    rw [search "param" (by decide), findAll_messageItem rendered (by decide)]
    rfl
  | objectCall c =>
    obtain ⟨-, -, -, parameters, -⟩ := elements_objectCall h
    exact parameters
  | transfer t =>
    rw [findAll_transfer h (by decide), findAll_outcomeBranches_eq_nil (by decide), ite_self]
    rfl

/-- The only prompt of a message. -/
theorem findAll_prompt {m : Message} {d : Document} (h : document p (.message m) = .ok d) :
    d.root.findAll "prompt" = [spoken (promptAttributes m) m.items] := by
  obtain ⟨e, rendered, search⟩ := findAll_document h
  have named : (spoken (promptAttributes m) m.items).name = "prompt" := rfl
  have items : (spoken (promptAttributes m) m.items).findAll "prompt" =
      [spoken (promptAttributes m) m.items] := by
    rw [Element.findAll_of_name_eq named]
    exact congrArg (_ :: ·) (findAll_itemNodes (by decide) (by decide) false m.items)
  have block : "prompt" ≠ "block" := by decide
  rw [search "prompt" (by decide), messageItem_eq rendered, Element.findAll_of_name_ne block,
    Node.findAll_element, Node.findAll_element, items, findAll_onward, Node.findAll_nil]
  rfl

/-- The places for texts of a payload, of its parameters and of its platform. -/
def slots (p : Platform) (payload : Payload) : List Slot :=
  p.slots ++ payload.slots ++ payload.parameters.flatMap Parameter.slots

/-- An attribute of a rendered document shows a text or is worded. -/
theorem shows_or_worded {payload : Payload} {d : Document} (h : document p payload = .ok d)
    {e : Element} (he : e ∈ d.root.descendants) {x : String × String}
    (hx : x ∈ e.attributes.entries) : ShowsText p payload e x.1 x.2 ∨ Worded x.2 := by
  have everywhere : d.root.Everywhere (ExplainedTag (slots p payload)) fun _ => True := by
    have given {s : Slot} (hs : s ∈ p.slots) : s ∈ slots p payload := by
      simp [slots, hs]
    refine (everywhere_document trivial h).2 ⟨?_, ?_, ?_, explained_payload ?_ ?_⟩
    · apply explainedTag_of_settings [("version", some "2.1"),
        ("xmlns", some "http://www.w3.org/2001/vxml"), ("application", p.applicationRoot)] rfl
      simp only [List.forall_mem_cons]
      exact ⟨.inr (by decide), .inr (by decide), .inl (given (by simp [Platform.slots])), nofun⟩
    · exact explainedTag_set (.inl (given (by simp [Platform.slots])))
    · exact explainedTag_set (.inl (given (by simp [Platform.slots])))
    · intro s hs
      simp [slots, hs]
    · intro q hq s hs
      exact List.mem_append_right _ (List.mem_flatMap.2 ⟨q, hq, hs⟩)
  by_cases parameter : e.name = "param"
  · -- the element is that of one parameter, and shows the texts of no other
    have found : e ∈ d.root.findAll "param" := List.mem_filter.2 ⟨he, by simpa using parameter⟩
    rw [findAll_param_document h] at found
    obtain ⟨q, hq, rfl⟩ := List.mem_map.1 found
    rcases explained_param q (fun _ hs => hs) x hx with place | worded
    · exact .inl (.inr ⟨q, hq, rfl, place⟩)
    · exact .inr worded
  · rcases Element.everywhere_tags_iff d.root |>.1 everywhere e he x hx with place | worded
    · rcases List.mem_append.1 place with place | place
      · exact .inl (.inl place)
      · obtain ⟨q, -, hs⟩ := List.mem_flatMap.1 place
        exact absurd (Parameter.element_of_mem_slots hs) parameter
    · exact .inr worded

end Render

end VoiceDialogue
