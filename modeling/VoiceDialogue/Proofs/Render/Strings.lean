/-
VoiceDialogue/Proofs/Render/Strings.lean

The strings that rendered documents carry.

Much of a document is fixed: the names of elements and attributes, the version,
the conditions on outcomes.  Durations and counts are digits.  The rest are
strings of the turn and of the platform, and `Render.strings` lists them.  A
document can be carried exactly if each string on the list can be
(`Render.carriable_iff`).

The list has to mind one thing.  A name that the platform declares for fetch
attempts may be the name of an attribute that the object has anyway.  Then the
attempts take the place of the value, and the value is not carried.
-/
import VoiceDialogue.Proofs.Markup.Carriable
import VoiceDialogue.Proofs.Render.Names

namespace VoiceDialogue

/-! ### Lists of strings -/

namespace AudioItem

/-- The strings of an item. -/
def strings : AudioItem → List String
  | .speech s => [s]
  | .file location alternative => location :: alternative.toList
  | .pause _ => []
  | .recording expression => [expression]

end AudioItem

namespace Parameter

/-- The strings of a parameter. -/
def strings (q : Parameter) : List String :=
  q.name :: q.value?.toList ++ q.expression?.toList ++ q.mediaType.toList

end Parameter

namespace ObjectCall

/-- The strings that an object call puts into attributes of its object, with
the names of the attributes. -/
def attributeStrings (c : ObjectCall) : List (String × String) :=
  c.archives.map ("archive", ·) ++ c.classId.toList.map ("classid", ·) ++
    c.codeBase.toList.map ("codebase", ·) ++ c.codeType.toList.map ("codetype", ·) ++
    c.data.toList.map ("data", ·) ++ c.mediaType.toList.map ("type", ·)

end ObjectCall

namespace Render

/-- The strings that the item of a payload carries, the target of its jumps
aside. -/
def payloadStrings (p : Platform) : Payload → List String
  | .message m => m.language.toList ++ m.items.flatMap AudioItem.strings
  | .objectCall c =>
      let replaced := namesOf (attemptEntries p c)
      ((c.attributeStrings.filter fun x => x.1 ∉ replaced).map Prod.snd ++ replaced) ++
        c.parameters.flatMap Parameter.strings ++ c.script.toList ++ [p.valueResultCall "object"]
  | .transfer t =>
      t.destination :: t.aai.toList ++ t.transferAudio.toList ++
        t.items.flatMap AudioItem.strings ++
        if t.style.isSupervised then
          p.transferStatusCall "transfer" ::
            Outcome.all.map fun o => p.transferStatusCall ("'" ++ o.code ++ "'")
        else []

/-- The strings that the document of a payload carries. -/
def strings (p : Platform) (payload : Payload) : List String :=
  p.formId :: p.submitTarget :: p.applicationRoot.toList ++ payloadStrings p payload

/-! ### Strings that are always carried -/

open Markup (Carriable)

theorem carriable_of_ne_empty_iff (s : String) : (s ≠ "" → Carriable s) ↔ Carriable s := by
  by_cases h : s = ""
  · subst h
    simp [Carriable]
  · simp [h]

theorem carriable_designation (d : Duration) : Carriable d.designation := by
  rw [Duration.designation, Markup.carriable_append]
  exact ⟨Markup.carriable_repr _, by decide⟩

theorem carriable_hint (h : FetchHint) : Carriable h.name := by
  cases h with
  | prefetch => decide
  | safe => decide

theorem carriable_valueType (t : Parameter.ValueType) : Carriable t.name := by
  cases t with
  | data => decide
  | ref => decide

theorem carriable_style (s : Transfer.Style) : Carriable s.name := by
  cases s with
  | bridge => decide
  | blind => decide
  | consultation => decide

theorem carriable_outcomeIs (o : Outcome) : Carriable (outcomeIs o) := by
  have code : Carriable o.code := by
    cases o with
    | unknown raw => show Carriable "unknown"; decide
    | _ => decide
  rw [outcomeIs, Markup.carriable_append, Markup.carriable_append]
  exact ⟨⟨by decide, code⟩, by decide⟩

/-! ### Tags -/

section

variable (name : String)

theorem carriableTag_empty : CarriableTag name .empty ↔ Carriable name := by
  simp [CarriableTag]

theorem carriableTag_set {a : Attributes} {n : String} (v : String) (new : n ∉ a.names) :
    CarriableTag name (a.set n v) ↔ CarriableTag name a ∧ Carriable n ∧ Carriable v := by
  have shown : n ∉ [] := List.not_mem_nil
  rw [CarriableTag, CarriableTag, Attributes.allBut_set_of_not_mem v new]
  constructor
  · rintro ⟨own, entry, others⟩
    exact ⟨⟨own, others⟩, entry shown⟩
  · rintro ⟨⟨own, others⟩, entry⟩
    exact ⟨own, fun _ => entry, others⟩

theorem carriableTag_set? {a : Attributes} {n : String} (v : Option String) (new : n ∉ a.names) :
    CarriableTag name (a.set? n v)
      ↔ CarriableTag name a ∧ (v.isSome → Carriable n) ∧ ∀ x ∈ v, Carriable x := by
  cases v with
  | none => simp [Attributes.set?]
  | some x => simpa [Attributes.set?] using carriableTag_set name x new

end

theorem carriable_audioItem_iff (i : AudioItem) :
    i.Everywhere CarriableTag Carriable ↔ ∀ s ∈ i.strings, Carriable s := by
  cases i with
  | speech s =>
    rw [AudioItem.Everywhere, carriable_of_ne_empty_iff, AudioItem.strings, List.forall_mem_singleton]
  | file location alternative =>
    rw [AudioItem.Everywhere, carriable_of_ne_empty_iff, AudioItem.strings, List.forall_mem_cons]
    cases alternative with
    | none => simp +decide [carriableTag_set, carriableTag_empty]
    | some spoken => simp +decide [carriableTag_set, carriableTag_empty]
  | pause duration =>
    simp +decide [AudioItem.Everywhere, AudioItem.strings, carriableTag_set, carriableTag_empty,
      carriable_designation]
  | recording expression =>
    simp +decide [AudioItem.Everywhere, AudioItem.strings, carriableTag_set, carriableTag_empty]

theorem carriable_items_iff (is : List AudioItem) :
    (∀ i ∈ is, i.Everywhere CarriableTag Carriable)
      ↔ ∀ s ∈ is.flatMap AudioItem.strings, Carriable s := by
  simp only [List.forall_mem_flatMap, carriable_audioItem_iff]

theorem carriable_script_iff (code : String) :
    ScriptEverywhere CarriableTag Carriable code ↔ Carriable code := by
  rw [ScriptEverywhere, carriable_of_ne_empty_iff, carriableTag_empty]
  exact and_iff_right (by decide)

theorem carriable_param_iff (q : Parameter) :
    CarriableTag "param" (param q).attributes ↔ ∀ s ∈ q.strings, Carriable s := by
  simp +decide [param, Element.new, Parameter.strings, carriableTag_set, carriableTag_set?,
    carriableTag_empty, carriable_valueType, or_imp, forall_and, and_assoc]

theorem carriable_promptAttributes_iff (m : Message) :
    CarriableTag "prompt" (promptAttributes m) ↔ ∀ s ∈ m.language.toList, Carriable s := by
  rw [promptAttributes]
  rcases m.bargeIn with - | - | -
  · simp +decide [carriableTag_set?, carriableTag_empty]
  · simp +decide [carriableTag_set?, carriableTag_empty]
  · simp +decide [carriableTag_set?, carriableTag_empty]

theorem carriable_transferTag_iff (t : Transfer) :
    CarriableTag "transfer" (transferTag t).attributes ↔
      Carriable t.destination ∧ (∀ s ∈ t.aai.toList, Carriable s) ∧
        ∀ s ∈ t.transferAudio.toList, Carriable s := by
  simp +decide [transferTag, Element.new, carriableTag_set, carriableTag_set?, carriableTag_empty,
    carriable_designation, carriable_style, and_comm, and_left_comm]

theorem carriable_branches_iff (p : Platform) :
    BranchesEverywhere CarriableTag Carriable p ↔
      Carriable (p.transferStatusCall "transfer") ∧
        ∀ o ∈ Outcome.all, Carriable (p.transferStatusCall ("'" ++ o.code ++ "'")) := by
  have cond (name : String) (h : Carriable name) (o : Outcome) :
      CarriableTag name (Attributes.empty.set "cond" (outcomeIs o)) := by
    simp +decide [carriableTag_set, carriableTag_empty, h, carriable_outcomeIs]
  have other : CarriableTag "else" .empty := (carriableTag_empty "else").2 (by decide)
  simp only [BranchesEverywhere, carriable_script_iff]
  constructor
  · rintro ⟨-, -, reports, -, last⟩
    exact ⟨last, reports⟩
  · rintro ⟨last, reports⟩
    exact ⟨cond "if" (by decide) _, fun o _ => cond "elseif" (by decide) o, reports, other, last⟩

/-! ### Objects -/

/-- Settings in a row whose values can be carried: each name is carried, and
hides what was there before. -/
theorem allBut_setAll {entries : List (String × String)} (a : Attributes) (hidden : List String)
    (values : ∀ e ∈ entries, Carriable e.2) :
    (a.setAll entries).AllBut hidden CarriableEntry ↔
      (∀ n ∈ namesOf entries, n ∉ hidden → Carriable n) ∧
        a.AllBut (namesOf entries ++ hidden) CarriableEntry := by
  induction entries generalizing a hidden with
  | nil => simp [Attributes.setAll]
  | cons e rest ih =>
    have names : namesOf (e :: rest) = e.1 :: namesOf rest := rfl
    have value : Carriable e.2 := values e List.mem_cons_self
    show ((a.set e.1 e.2).setAll rest).AllBut hidden CarriableEntry ↔ _
    rw [ih _ hidden fun x hx => values x (List.mem_cons_of_mem e hx), Attributes.allBut_set, names,
      List.forall_mem_cons, List.cons_append]
    constructor
    · rintro ⟨others, own, old⟩
      refine ⟨⟨?_, others⟩, old⟩
      intro shown
      -- the name may come again, and is carried then as a later one
      by_cases again : e.1 ∈ namesOf rest
      · exact others e.1 again shown
      · exact (own (by simp [again, shown])).1
    · rintro ⟨⟨own, others⟩, old⟩
      refine ⟨others, ?_, old⟩
      intro shown
      refine ⟨own ?_, value⟩
      intro inHidden
      exact shown (List.mem_append_right (namesOf rest) inHidden)

/-- The values of fetch attempts are digits. -/
theorem carriable_of_mem_attemptEntries {p : Platform} {c : ObjectCall} {e : String × String}
    (h : e ∈ attemptEntries p c) : Carriable e.2 := by
  rcases value_of_mem_attemptEntries h with ⟨n, count⟩ | ⟨d, time⟩
  · rw [count]
    exact Markup.carriable_repr n
  · rw [time]
    exact carriable_designation d

/-- The setting of a new name that can be carried. -/
theorem allBut_set?_iff {a : Attributes} {n : String} {value : Option String}
    {hidden : List String} (new : n ∉ a.names) (name : Carriable n) :
    (a.set? n value).AllBut hidden CarriableEntry ↔
      a.AllBut hidden CarriableEntry ∧ (n ∉ hidden → ∀ v ∈ value, Carriable v) := by
  rw [Attributes.allBut_set?_of_not_mem value new, and_comm]
  simp only [CarriableEntry, name, true_and]

/-- The same for a value that can be carried in any case. -/
theorem allBut_set?_of_carriable {a : Attributes} {n : String} {value : Option String}
    {hidden : List String} (new : n ∉ a.names) (name : Carriable n)
    (carried : ∀ v ∈ value, Carriable v) :
    (a.set? n value).AllBut hidden CarriableEntry ↔ a.AllBut hidden CarriableEntry := by
  rw [allBut_set?_iff new name]
  exact and_iff_left fun _ => carried

/-- Strings that go into one attribute. -/
theorem forall_named_iff (name : String) (hidden : List String) (ss : List String) :
    (∀ x ∈ ss.map (name, ·), x.1 ∉ hidden → Carriable x.2)
      ↔ (name ∉ hidden → ∀ s ∈ ss, Carriable s) := by
  rw [List.forall_mem_map]
  constructor
  · intro all shown s hs
    exact all s hs shown
  · intro all s hs shown
    exact all shown s hs

theorem carriable_objectAttributes_iff (c : ObjectCall) (hidden : List String) :
    (objectAttributes c).AllBut hidden CarriableEntry ↔
      ∀ x ∈ c.attributeStrings, x.1 ∉ hidden → Carriable x.2 := by
  have seconds (d : Duration) : Carriable d.wholeSecs.toNat.repr := Markup.carriable_repr _
  have archives :
      (∀ v ∈ if c.archives.isEmpty then none else some (String.intercalate " " c.archives),
        Carriable v) ↔ ∀ s ∈ c.archives, Carriable s := by
    rw [← Markup.carriable_intercalate]
    cases c.archives with
    | nil => simp +decide
    | cons s rest => simp
  -- the settings of a fetch policy, last first: words, seconds and digits
  rw [objectAttributes,
    allBut_set?_of_carriable (by simp) (by decide) (forall_mem_fetch_setting seconds c.fetch),
    allBut_set?_of_carriable (by simp) (by decide) (forall_mem_fetch_setting seconds c.fetch),
    allBut_set?_of_carriable (by simp) (by decide)
      (forall_mem_fetch_setting carriable_designation c.fetch),
    allBut_set?_of_carriable (by simp) (by decide)
      (forall_mem_fetch_setting carriable_hint c.fetch)]
  have start : (Attributes.empty.set "name" "object").AllBut hidden CarriableEntry := by
    simp +decide [CarriableEntry]
  -- the settings of the object call, which may hold anything
  rw [allBut_set?_iff (by simp) (by decide), allBut_set?_iff (by simp) (by decide),
    allBut_set?_iff (by simp) (by decide), allBut_set?_iff (by simp) (by decide),
    allBut_set?_iff (by simp) (by decide), allBut_set?_iff (by simp) (by decide),
    and_iff_right start, archives, ObjectCall.attributeStrings]
  simp only [List.forall_mem_append, forall_named_iff, Option.mem_toList, Option.mem_def]

/-! ### Documents -/

/-- What an object call puts into the attributes of its object: the strings
that attempts do not replace, and the names under which these are written. -/
theorem carriable_object_iff (p : Platform) (c : ObjectCall) :
    CarriableTag "object" ((objectAttributes c).setAll (attemptEntries p c)) ↔
      ∀ s ∈ (c.attributeStrings.filter fun x => x.1 ∉ namesOf (attemptEntries p c)).map Prod.snd
        ++ namesOf (attemptEntries p c), Carriable s := by
  have name : Carriable "object" := by decide
  rw [CarriableTag, and_iff_right name,
    allBut_setAll (objectAttributes c) [] fun e he => carriable_of_mem_attemptEntries he,
    carriable_objectAttributes_iff, List.append_nil, List.forall_mem_append, and_comm]
  refine and_congr ?_ (by simp)
  rw [List.forall_mem_map]
  simp only [List.mem_filter, decide_eq_true_eq, and_imp]

theorem carriable_payload_iff (p : Platform) (payload : Payload) :
    PayloadEverywhere CarriableTag Carriable p payload
      ↔ ∀ s ∈ payloadStrings p payload, Carriable s := by
  have fixed : CarriableTag "block" .empty ∧ CarriableTag "filled" .empty ∧
      CarriableTag "prompt" .empty ∧
      CarriableTag "var" ((Attributes.empty.set "name" "object").set "expr" "dialog.object") ∧
      CarriableTag "catch" (Attributes.empty.set "event" "connection.disconnect.transfer") := by
    simp +decide [carriableTag_set, carriableTag_empty]
  obtain ⟨block, filled, spoken, result, caught⟩ := fixed
  cases payload with
  | message m =>
    simp only [PayloadEverywhere, payloadStrings, carriable_promptAttributes_iff,
      carriable_items_iff, List.forall_mem_append, block, true_and]
  | objectCall c =>
    have parameters : (∀ q ∈ c.parameters, CarriableTag "param" (param q).attributes)
        ↔ ∀ s ∈ c.parameters.flatMap Parameter.strings, Carriable s := by
      simp only [List.forall_mem_flatMap, carriable_param_iff]
    simp only [PayloadEverywhere, payloadStrings, carriable_object_iff, parameters,
      carriable_script_iff, List.forall_mem_append, List.forall_mem_singleton, Option.mem_toList,
      Option.mem_def, filled, result, true_and, and_assoc]
  | transfer t =>
    have reports : (t.style.isSupervised → BranchesEverywhere CarriableTag Carriable p) ↔
        ∀ s ∈ if t.style.isSupervised then p.transferStatusCall "transfer" ::
          Outcome.all.map fun o => p.transferStatusCall ("'" ++ o.code ++ "'") else [],
            Carriable s := by
      rw [carriable_branches_iff]
      cases t.style.isSupervised with
      | true => simp
      | false => simp
    simp only [PayloadEverywhere, payloadStrings, carriable_transferTag_iff, carriable_items_iff,
      List.forall_mem_append, List.forall_mem_cons, List.cons_append, reports, filled,
      spoken, caught, implies_true, true_and, and_assoc]

/-- A rendered document can be carried exactly if its strings can be. -/
theorem carriable_iff {p : Platform} {payload : Payload} {d : Document}
    (h : document p payload = .ok d) :
    d.root.Carriable ↔ ∀ s ∈ strings p payload, Carriable s := by
  have blank : Carriable " " := by decide
  rw [Element.Carriable, everywhere_document blank h, carriable_payload_iff, strings]
  simp +decide [rootAttributes, carriableTag_set, carriableTag_set?, carriableTag_empty, or_imp,
    forall_and, and_left_comm]

end Render

end VoiceDialogue
