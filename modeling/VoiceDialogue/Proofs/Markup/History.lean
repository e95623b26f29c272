/-
VoiceDialogue/Proofs/Markup/History.lean

Attributes and the history of their changes.

What the attributes of an element are is told by the changes that have been made,
without a word about the map that holds them.  A name has the value of its last
setting that no removal follows; it is there if it has been set since it was last
removed; and its place is that of the first such setting.  All three have one
form: some change of the history counts, and nothing later undoes it (`Since`).
So one lemma about a further change (`since_concat`) serves them all, and what
holds of the attributes is shown change by change, from the end.

An element need not start without attributes.  Those that it starts with count as
set, in their order (`Element.history`).
-/
import Mathlib.Data.List.Nodup
import VoiceDialogue.Proofs.Markup.Settings

namespace VoiceDialogue

/-- The value of a name is that of its pair. -/
theorem Attributes.get?_eq_some_iff (a : Attributes) (name value : String) :
    a.get? name = some value ↔ (name, value) ∈ a.entries := by
  rw [get?, Option.map_eq_some_iff]
  constructor
  · rintro ⟨x, found, rfl⟩
    have own : x.1 = name := by simpa using List.find?_some found
    exact own ▸ List.mem_of_find?_eq_some found
  · intro mem
    have known : (a.entries.find? (·.1 = name)).isSome := by
      rw [List.find?_isSome]
      exact ⟨_, mem, by simp⟩
    obtain ⟨x, found⟩ := Option.isSome_iff_exists.1 known
    have own : x.1 = name := by simpa using List.find?_some found
    have same : x = (name, value) :=
      List.inj_on_of_nodup_map a.nodup (List.mem_of_find?_eq_some found) mem own
    exact ⟨x, found, congrArg Prod.snd same⟩

/-! ### Changes -/

/-- A change of the attributes of an element. -/
inductive AttributeChange
  | set (name value : String)
  | set? (name : String) (value : Option String)
  | remove (name : String)
deriving DecidableEq

namespace AttributeChange

/-- The element after a change. -/
def make : AttributeChange → Element → Element
  | .set name value, e => e.setAttribute name value
  | .set? name value, e => e.setAttribute? name value
  | .remove name, e => (e.takeAttribute name).2

/-- The element after some changes. -/
def makeAll (changes : List AttributeChange) (e : Element) : Element :=
  changes.foldl (fun e c => c.make e) e

/-- The value that a change gives to a name. -/
def value? : AttributeChange → String → Option String
  | .set n v, name => if n = name then some v else none
  | .set? n v, name => if n = name then v else none
  | .remove _, _ => none

/-- The attributes after a change. -/
def apply : AttributeChange → Attributes → Attributes
  | .set name value, a => a.set name value
  | .set? name value, a => a.set? name value
  | .remove name, a => a.erase name

/-- The attributes after the changes of a history. -/
def applyAll (h : List AttributeChange) : Attributes := h.foldl (fun a c => c.apply a) .empty

theorem make_eq (c : AttributeChange) (e : Element) :
    c.make e = ⟨e.name, c.apply e.attributes, e.children⟩ := by
  obtain ⟨name, attributes, children⟩ := e
  cases c with
  | set n v => rfl
  | set? n v => cases v <;> rfl
  | remove n =>
    show Element.mk name (attributes.remove n).2 children = _
    rw [Attributes.remove_eq]
    rfl

/-- What a change can do: nothing, give one name a value, or take one name away. -/
theorem cases_effect (c : AttributeChange) :
    ((∀ a, c.apply a = a) ∧ (∀ m, c.value? m = none) ∧ ∀ m, c ≠ .remove m) ∨
    (∃ n v, (∀ a, c.apply a = a.set n v) ∧ (∀ m, c.value? m = if n = m then some v else none) ∧
      ∀ m, c ≠ .remove m) ∨
    (∃ n, (∀ a, c.apply a = a.erase n) ∧ (∀ m, c.value? m = none) ∧ c = .remove n) := by
  match c with
  | .set n v => exact .inr (.inl ⟨n, v, fun _ => rfl, fun _ => rfl, nofun⟩)
  | .set? n (some v) => exact .inr (.inl ⟨n, v, fun _ => rfl, fun _ => rfl, nofun⟩)
  | .set? n none => exact .inl ⟨fun _ => rfl, fun _ => ite_self _, nofun⟩
  | .remove n => exact .inr (.inr ⟨n, fun _ => rfl, fun _ => rfl, rfl⟩)

theorem makeAll_eq (changes : List AttributeChange) (e : Element) :
    makeAll changes e = ⟨e.name, changes.foldl (fun a c => c.apply a) e.attributes, e.children⟩ := by
  induction changes generalizing e with
  | nil => exact e.mk_fields.symm
  | cons c changes ih =>
    show makeAll changes (c.make e) = _
    rw [ih, make_eq]
    rfl

theorem applyAll_concat (h : List AttributeChange) (c : AttributeChange) :
    applyAll (h ++ [c]) = c.apply (applyAll h) :=
  List.foldl_append

end AttributeChange

/-! ### Histories -/

section

variable {α : Type}

/-- Some change of a history counts, and nothing later undoes it.  Whether it
counts can depend on what was before. -/
def Since (counts : List α → α → Prop) (undoes : α → Prop) (h : List α) : Prop :=
  ∃ earlier c later, h = earlier ++ c :: later ∧ counts earlier c ∧ ∀ d ∈ later, ¬ undoes d

variable {counts : List α → α → Prop} {undoes : α → Prop}

theorem not_since_nil : ¬ Since counts undoes [] := by
  rintro ⟨earlier, c, later, split, -⟩
  cases earlier <;> cases split

/-- A further change counts, or it leaves what counted. -/
theorem since_concat {h : List α} {c : α} :
    Since counts undoes (h ++ [c]) ↔ counts h c ∨ ¬ undoes c ∧ Since counts undoes h := by
  constructor
  · rintro ⟨earlier, d, later, split, own, kept⟩
    -- the change that counts is the last one, or the last one comes later
    rcases List.eq_nil_or_concat later with rfl | ⟨later, last, rfl⟩
    · obtain ⟨rfl, rfl⟩ := List.append_singleton_inj.1 split
      exact .inl own
    · rw [List.concat_eq_append, ← List.cons_append, ← List.append_assoc] at split
      obtain ⟨rfl, rfl⟩ := List.append_singleton_inj.1 split
      rw [List.concat_eq_append, List.forall_mem_append, List.forall_mem_singleton] at kept
      exact .inr ⟨kept.2, earlier, d, later, rfl, own, kept.1⟩
  · rintro (own | ⟨left, earlier, d, later, rfl, own, kept⟩)
    · exact ⟨h, c, [], rfl, own, nofun⟩
    · refine ⟨earlier, d, later ++ [c], by simp, own, ?_⟩
      rw [List.forall_mem_append, List.forall_mem_singleton]
      exact ⟨kept, left⟩

end

namespace AttributeChange

variable (h : List AttributeChange) (name : String)

/-- The last setting of a name gave this value, and no removal follows. -/
def Gives (value : String) : Prop :=
  Since (fun _ c => c.value? name = some value)
    (fun d => d.value? name ≠ none ∨ d = .remove name) h

/-- A name has been set since it was last removed. -/
def IsSet : Prop := Since (fun _ c => c.value? name ≠ none) (· = .remove name) h

/-- The first setting of a name since its last removal is the `i`-th change. -/
def SetAt (i : Nat) : Prop :=
  Since (fun earlier c => earlier.length = i ∧ c.value? name ≠ none ∧ ¬ IsSet earlier name)
    (· = .remove name) h

variable {h name} {c : AttributeChange}

theorem SetAt.lt {i : Nat} (first : SetAt h name i) : i < h.length := by
  obtain ⟨earlier, c, later, rfl, ⟨rfl, -⟩, -⟩ := first
  rw [List.length_append, List.length_cons]
  omega

theorem SetAt.isSet {i : Nat} (first : SetAt h name i) : IsSet h name := by
  obtain ⟨earlier, c, later, split, ⟨-, sets, -⟩, kept⟩ := first
  exact ⟨earlier, c, later, split, sets, kept⟩

/-- A name that is set has a first setting since its last removal. -/
theorem isSet_iff : IsSet h name ↔ ∃ i, SetAt h name i := by
  refine ⟨fun set => ?_, fun ⟨i, first⟩ => first.isSet⟩
  induction h using List.reverseRecOn with
  | nil => exact absurd set not_since_nil
  | append_singleton h c ih =>
    by_cases already : IsSet h name
    · have stays : c ≠ .remove name := by
        rintro rfl
        rcases since_concat.1 set with nothing | ⟨removed, -⟩
        · exact nothing rfl
        · exact removed rfl
      obtain ⟨i, first⟩ := ih already
      exact ⟨i, since_concat.2 (.inr ⟨stays, first⟩)⟩
    · rcases since_concat.1 set with now | ⟨-, before⟩
      · exact ⟨h.length, since_concat.2 (.inl ⟨rfl, now, already⟩)⟩
      · exact absurd before already

/-! ### The attributes that a history leaves -/

/-- A name has the value that the history gives it. -/
theorem get?_applyAll {value : String} :
    (applyAll h).get? name = some value ↔ Gives h name value := by
  induction h using List.reverseRecOn with
  | nil => exact ⟨nofun, fun given => absurd given not_since_nil⟩
  | append_singleton h c ih =>
    rw [applyAll_concat, Gives, since_concat, ← Gives, ← ih]
    obtain ⟨same, nothing, other⟩ | ⟨n, v, set, value, other⟩ | ⟨n, erase, nothing, rfl⟩ :=
      c.cases_effect
    · rw [same, nothing]
      simp [other]
    · rw [set, value, Attributes.get?_set]
      by_cases own : name = n
      · simp [own]
      · simp [own, Ne.symm own, other]
    · rw [erase, nothing, Attributes.get?_erase]
      by_cases own : name = n
      · simp [own]
      · simp [own, Ne.symm own]

/-- The names that are there are those that are set. -/
theorem mem_names_applyAll : name ∈ (applyAll h).names ↔ IsSet h name := by
  induction h using List.reverseRecOn with
  | nil => exact ⟨nofun, fun given => absurd given not_since_nil⟩
  | append_singleton h c ih =>
    rw [applyAll_concat, IsSet, since_concat, ← IsSet, ← ih]
    obtain ⟨same, nothing, other⟩ | ⟨n, v, set, value, other⟩ | ⟨n, erase, nothing, rfl⟩ :=
      c.cases_effect
    · rw [same, nothing]
      simp [other]
    · rw [set, value, Attributes.mem_names_set]
      by_cases own : name = n
      · simp [own]
      · simp [own, Ne.symm own, other]
    · rw [erase, nothing, Attributes.names_erase, List.mem_filter]
      by_cases own : name = n
      · simp [own]
      · simp [own, Ne.symm own]

/-- A further change is not the first setting of a name that is set. -/
theorem SetAt.of_concat {i : Nat} (already : IsSet h name) (first : SetAt (h ++ [c]) name i) :
    SetAt h name i := by
  rcases since_concat.1 first with ⟨-, -, new⟩ | ⟨-, before⟩
  · exact absurd already new
  · exact before

/-- Names stand in the order of their first settings. -/
theorem pairwise_names_applyAll (h : List AttributeChange) :
    (applyAll h).names.Pairwise fun m n => ∀ i j, SetAt h m i → SetAt h n j → i < j := by
  induction h using List.reverseRecOn with
  | nil => exact .nil
  | append_singleton h c ih =>
    rw [applyAll_concat]
    -- a name that is there keeps its first setting
    have kept : (applyAll h).names.Pairwise fun m n =>
        ∀ i j, SetAt (h ++ [c]) m i → SetAt (h ++ [c]) n j → i < j :=
      ih.imp_of_mem fun hm hn less i j first first' =>
        less i j (first.of_concat (mem_names_applyAll.1 hm))
          (first'.of_concat (mem_names_applyAll.1 hn))
    obtain ⟨same, -⟩ | ⟨n, v, set, -⟩ | ⟨n, erase, -⟩ := c.cases_effect
    · rw [same]
      exact kept
    · rw [set, Attributes.names_set]
      by_cases known : n ∈ (applyAll h).names
      · rw [if_pos known]
        exact kept
      · rw [if_neg known, List.pairwise_append]
        refine ⟨kept, List.pairwise_singleton _ n, fun m hm x hx i j first first' => ?_⟩
        obtain rfl := List.mem_singleton.1 hx
        have before := (first.of_concat (mem_names_applyAll.1 hm)).lt
        rcases since_concat.1 first' with ⟨rfl, -⟩ | ⟨-, earlier⟩
        · exact before
        · exact absurd (mem_names_applyAll.2 (SetAt.isSet earlier)) known
    · rw [erase, Attributes.names_erase]
      exact kept.filter _

end AttributeChange

/-! ### Main theorem -/

namespace Element

/-- The changes of the attributes of an element from the beginning, if the ones
that it has count as set. -/
def history (e : Element) (changes : List AttributeChange) : List AttributeChange :=
  e.attributes.entries.map (fun x => .set x.1 x.2) ++ changes

theorem applyAll_history (e : Element) (changes : List AttributeChange) :
    AttributeChange.applyAll (e.history changes) =
      (AttributeChange.makeAll changes e).attributes := by
  have start : AttributeChange.applyAll (e.attributes.entries.map fun x => .set x.1 x.2) =
      e.attributes := by
    rw [AttributeChange.applyAll, List.foldl_map]
    have same : (Attributes.ofList e.attributes.entries).entries = e.attributes.entries :=
      (Attributes.entries_ofList_iff _).2 e.attributes.nodup
    exact Attributes.mk.injEq .. ▸ same
  rw [AttributeChange.makeAll_eq, history, AttributeChange.applyAll, List.foldl_append,
    ← AttributeChange.applyAll, start]

/-- **The attributes of an element are a map that remembers in which order names
came in.**  After any changes names are distinct, and a name has the value of its
last setting that no removal follows.  The names that have been set since they
were last removed are listed in the order of the first of these settings.  To
take an attribute away gives the value that it had and leaves the other pairs in
their order; to set an attribute to no value leaves everything as it was; and no
change of the attributes touches the name or the children. -/
theorem attributes_of_history (e : Element) (changes : List AttributeChange) :
    let e' := AttributeChange.makeAll changes e
    let h := e.history changes
    e'.attributes.names.Nodup ∧
    (∀ n v, e'.attribute? n = some v ↔ AttributeChange.Gives h n v) ∧
    (∀ n v, (n, v) ∈ e'.attributes.entries ↔ e'.attribute? n = some v) ∧
    (∀ n, n ∈ e'.attributes.names ↔ ∃ i, AttributeChange.SetAt h n i) ∧
    (e'.attributes.names.Pairwise fun m n =>
      ∀ i j, AttributeChange.SetAt h m i → AttributeChange.SetAt h n j → i < j) ∧
    (∀ n, (e'.takeAttribute n).1 = e'.attribute? n ∧
      (e'.takeAttribute n).2.attributes.entries = e'.attributes.entries.filter (·.1 ≠ n)) ∧
    (∀ n, e'.setAttribute? n none = e') ∧
    e'.name = e.name ∧ e'.children = e.children := by
  intro e' h
  have reached : AttributeChange.applyAll h = e'.attributes := applyAll_history e changes
  refine ⟨e'.attributes.nodup, fun n v => ?_, fun n v => ?_, fun n => ?_, ?_, fun n => ?_,
    fun n => e'.mk_fields, ?_, ?_⟩
  · rw [attribute?, ← reached]
    exact AttributeChange.get?_applyAll
  · exact (e'.attributes.get?_eq_some_iff n v).symm
  · rw [← reached, AttributeChange.mem_names_applyAll]
    exact AttributeChange.isSet_iff
  · rw [← reached]
    exact AttributeChange.pairwise_names_applyAll h
  · rw [takeAttribute, Attributes.remove_eq]
    exact ⟨rfl, rfl⟩
  · exact (congrArg Element.name (AttributeChange.makeAll_eq changes e)).trans rfl
  · exact (congrArg Element.children (AttributeChange.makeAll_eq changes e)).trans rfl

end Element

end VoiceDialogue
