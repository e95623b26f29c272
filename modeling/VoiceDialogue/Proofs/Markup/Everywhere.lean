/-
VoiceDialogue/Proofs/Markup/Everywhere.lean

Properties that hold all over a tree.

`Element.Everywhere tag text` says that every tag of the tree, its name and
its attributes together, has the property `tag`, and every piece of text the
property `text`.  Trees are put together by a few steps, and for each step
there is a rule here that says what the property of the result comes down to;
so whoever knows how a tree is built need not look into the tree.

Setting an attribute may hide the value that the attribute had before.  The
rule for it therefore speaks of the attributes outside of a list of hidden
names (`Attributes.AllBut`), and each setting adds its name to the list.

`Element.LegallyNamed` is the instance for names.
-/
import VoiceDialogue.Markup.Element

namespace VoiceDialogue

/-! ### The property of a tree -/

section

variable (tag : String → Attributes → Prop) (text : String → Prop)

mutual

/-- Whether all tags and all pieces of text in a tree have their property. -/
def Element.Everywhere : Element → Prop
  | ⟨name, attributes, children⟩ => tag name attributes ∧ Node.AllEverywhere children

/-- Whether all tags and all pieces of text in some children have their
property. -/
def Node.AllEverywhere : List Node → Prop
  | [] => True
  | .element e :: rest => e.Everywhere ∧ Node.AllEverywhere rest
  | .text s :: rest => text s ∧ Node.AllEverywhere rest

end

end

variable {tag : String → Attributes → Prop} {text : String → Prop}

namespace Node

theorem allEverywhere_append (cs ds : List Node) :
    AllEverywhere tag text (cs ++ ds)
      ↔ AllEverywhere tag text cs ∧ AllEverywhere tag text ds := by
  induction cs with
  | nil => simp [AllEverywhere]
  | cons c cs ih =>
    cases c with
    | element e => simp [AllEverywhere, ih, and_assoc]
    | text s => simp [AllEverywhere, ih, and_assoc]

end Node

namespace Element

/-- An element is its parts. -/
theorem mk_fields : (e : Element) → ⟨e.name, e.attributes, e.children⟩ = e
  | ⟨_, _, _⟩ => rfl

theorem everywhere_iff (e : Element) :
    e.Everywhere tag text
      ↔ tag e.name e.attributes ∧ Node.AllEverywhere tag text e.children := by
  obtain ⟨name, attributes, children⟩ := e
  rw [Everywhere]

/-! ### Steps of building -/

@[simp] theorem name_setAttribute (e : Element) (n v : String) :
    (e.setAttribute n v).name = e.name := rfl

@[simp] theorem attributes_setAttribute (e : Element) (n v : String) :
    (e.setAttribute n v).attributes = e.attributes.set n v := rfl

@[simp] theorem children_setAttribute (e : Element) (n v : String) :
    (e.setAttribute n v).children = e.children := rfl

@[simp] theorem name_setAttribute? (e : Element) (n : String) (v : Option String) :
    (e.setAttribute? n v).name = e.name := rfl

@[simp] theorem attributes_setAttribute? (e : Element) (n : String) (v : Option String) :
    (e.setAttribute? n v).attributes = e.attributes.set? n v := rfl

@[simp] theorem children_setAttribute? (e : Element) (n : String) (v : Option String) :
    (e.setAttribute? n v).children = e.children := rfl

theorem everywhere_new (name : String) :
    (new name).Everywhere tag text ↔ tag name .empty := by
  simp [everywhere_iff, new, Node.AllEverywhere]

theorem everywhere_push (e : Element) (child : Node) :
    (e.push child).Everywhere tag text
      ↔ e.Everywhere tag text ∧ Node.AllEverywhere tag text [child] := by
  have children : Node.AllEverywhere tag text (e.children ++ [child])
      ↔ Node.AllEverywhere tag text e.children ∧ Node.AllEverywhere tag text [child] :=
    Node.allEverywhere_append e.children [child]
  rw [everywhere_iff e, everywhere_iff (e.push child), and_assoc, ← children]
  rfl

theorem everywhere_append (e child : Element) :
    (e.append child).Everywhere tag text
      ↔ e.Everywhere tag text ∧ child.Everywhere tag text := by
  rw [append, everywhere_push, Node.AllEverywhere, Node.AllEverywhere, and_true]

theorem everywhere_appendText (e : Element) (s : String) :
    (e.appendText s).Everywhere tag text ↔ e.Everywhere tag text ∧ (s ≠ "" → text s) := by
  by_cases h : s = ""
  · simp [appendText, h]
  · simp [appendText, h, everywhere_push, Node.AllEverywhere]

end Element

/-! ### Tags alone -/

mutual

/-- If texts do not matter, then all elements of the tree are to have the
property. -/
theorem Element.everywhere_tags_iff : (e : Element) →
    ((e.Everywhere tag fun _ => True) ↔ ∀ x ∈ e.descendants, tag x.name x.attributes)
  | ⟨name, attributes, children⟩ => by
    rw [Element.everywhere_iff, Element.descendants, List.forall_mem_cons,
      Node.allEverywhere_tags_iff children]

theorem Node.allEverywhere_tags_iff : (cs : List Node) →
    (Node.AllEverywhere tag (fun _ => True) cs ↔
      ∀ x ∈ Element.descendantsOf cs, tag x.name x.attributes)
  | [] => by simp [Node.AllEverywhere, Element.descendantsOf]
  | .element e :: rest => by
    rw [Node.AllEverywhere, Element.descendantsOf, List.forall_mem_append,
      Element.everywhere_tags_iff e, Node.allEverywhere_tags_iff rest]
  | .text _ :: rest => by
    rw [Node.AllEverywhere, Element.descendantsOf, Node.allEverywhere_tags_iff rest, true_and]

end

/-! ### Attributes -/

namespace Attributes

/-- What a setting leaves: the new pair, and the pairs of other names. -/
theorem mem_setEntry {name value : String} {entries : List (String × String)}
    (h : (namesOf entries).Nodup) (x : String × String) :
    x ∈ setEntry name value entries ↔ x = (name, value) ∨ x ∈ entries ∧ x.1 ≠ name := by
  induction entries with
  | nil => simp [setEntry]
  | cons e rest ih =>
    obtain ⟨n, v⟩ := e
    simp only [namesOf, List.map_cons, List.nodup_cons] at h ih
    obtain ⟨fresh, h⟩ := h
    by_cases hn : n = name
    · -- the pair is replaced, and no later one has its name
      subst hn
      have out : ∀ y ∈ rest, y.1 ≠ n := fun y hy e => fresh (e ▸ List.mem_map_of_mem hy)
      simp only [setEntry, if_true, List.mem_cons]
      constructor
      · rintro (rfl | hx)
        · exact .inl rfl
        · exact .inr ⟨.inr hx, out x hx⟩
      · rintro (rfl | ⟨rfl | hx, hne⟩)
        · exact .inl rfl
        · exact absurd rfl hne
        · exact .inr hx
    · -- the pair stays, whatever is done to the later ones
      rw [setEntry, if_neg hn, List.mem_cons, ih h, List.mem_cons]
      constructor
      · rintro (rfl | rfl | ⟨hx, hne⟩)
        · exact .inr ⟨.inl rfl, hn⟩
        · exact .inl rfl
        · exact .inr ⟨.inr hx, hne⟩
      · rintro (rfl | ⟨rfl | hx, hne⟩)
        · exact .inr (.inl rfl)
        · exact .inl rfl
        · exact .inr (.inr ⟨hx, hne⟩)

theorem setEntry_of_not_mem {name : String} (value : String) {entries : List (String × String)}
    (h : name ∉ namesOf entries) : setEntry name value entries = entries ++ [(name, value)] := by
  induction entries with
  | nil => rfl
  | cons e rest ih =>
    simp only [namesOf, List.map_cons, List.mem_cons, not_or] at h ih
    rw [setEntry, if_neg (Ne.symm h.1), ih h.2, List.cons_append]

/-- A new name goes to the end. -/
theorem entries_set_of_not_mem {a : Attributes} {name : String} (value : String)
    (h : name ∉ a.names) : (a.set name value).entries = a.entries ++ [(name, value)] :=
  setEntry_of_not_mem value h

/-- Whether all pairs have a property, those of some hidden names aside. -/
def AllBut (hidden : List String) (P : String → String → Prop) (a : Attributes) : Prop :=
  ∀ x ∈ a.entries, x.1 ∉ hidden → P x.1 x.2

variable {P : String → String → Prop} {hidden : List String}

@[simp] theorem allBut_empty : Attributes.empty.AllBut hidden P := by
  intro x hx
  cases hx

/-- A setting counts unless it is hidden, and hides earlier ones of its name. -/
@[simp] theorem allBut_set (a : Attributes) (name value : String) :
    (a.set name value).AllBut hidden P
      ↔ (name ∉ hidden → P name value) ∧ a.AllBut (name :: hidden) P := by
  simp only [AllBut, set, mem_setEntry a.nodup]
  constructor
  · intro h
    refine ⟨h (name, value) (.inl rfl), ?_⟩
    intro x hx hh
    rw [List.mem_cons, not_or] at hh
    exact h x (.inr ⟨hx, hh.1⟩) hh.2
  · rintro ⟨hnew, hold⟩ x (rfl | ⟨hx, hne⟩) hh
    · exact hnew hh
    · exact hold x hx (by simp [hne, hh])

@[simp] theorem allBut_set?_none (a : Attributes) (name : String) :
    (a.set? name none).AllBut hidden P ↔ a.AllBut hidden P := Iff.rfl

@[simp] theorem allBut_set?_some (a : Attributes) (name value : String) :
    (a.set? name (some value)).AllBut hidden P
      ↔ (name ∉ hidden → P name value) ∧ a.AllBut (name :: hidden) P :=
  allBut_set a name value

/-- A setting of a new name hides nothing. -/
theorem allBut_set_of_not_mem {a : Attributes} {name : String} (value : String)
    (h : name ∉ a.names) :
    (a.set name value).AllBut hidden P ↔ (name ∉ hidden → P name value) ∧ a.AllBut hidden P := by
  rw [allBut_set]
  apply and_congr_right
  intro _
  constructor
  · intro all x hx shown
    have other : x.1 ≠ name := by
      rintro rfl
      exact h (List.mem_map_of_mem hx)
    apply all x hx
    rw [List.mem_cons, not_or]
    exact ⟨other, shown⟩
  · intro all x hx shown
    apply all x hx
    intro m
    exact shown (List.mem_cons_of_mem name m)

theorem allBut_set?_of_not_mem {a : Attributes} {name : String} (value : Option String)
    (h : name ∉ a.names) :
    (a.set? name value).AllBut hidden P
      ↔ (name ∉ hidden → ∀ v ∈ value, P name v) ∧ a.AllBut hidden P := by
  cases value with
  | none => simp
  | some v => simpa using allBut_set_of_not_mem v h

end Attributes

/-! ### Names -/

namespace Attributes

@[simp] theorem names_empty : Attributes.empty.names = [] := rfl

/-- The names after a setting are those before it and the new one. -/
@[simp] theorem mem_names_set (a : Attributes) (name value n : String) :
    n ∈ (a.set name value).names ↔ n = name ∨ n ∈ a.names := by
  rw [names_set]
  split
  · next h =>
    constructor
    · exact .inr
    · rintro (rfl | hn)
      · exact h
      · exact hn
  · rw [List.mem_append, List.mem_singleton, or_comm]

@[simp] theorem mem_names_set? (a : Attributes) (name n : String) (value : Option String) :
    n ∈ (a.set? name value).names ↔ (n = name ∧ value.isSome) ∨ n ∈ a.names := by
  cases value with
  | none => simp [set?]
  | some v => simp [set?, mem_names_set]

/-- Erasing takes one name out and keeps the order of the others. -/
theorem names_erase (a : Attributes) (name : String) :
    (a.erase name).names = a.names.filter (· ≠ name) := by
  rw [names, names, namesOf, namesOf, List.filter_map]
  rfl

end Attributes

/-- Whether a tag has a legal name and legal names of attributes. -/
def LegalTag (name : String) (attributes : Attributes) : Prop :=
  Markup.isXmlName name.toList ∧ ∀ n ∈ attributes.names, Markup.isXmlName n.toList

/-- Whether the names of all elements and attributes are legal. -/
def Element.LegallyNamed (e : Element) : Prop := e.Everywhere LegalTag fun _ => True

end VoiceDialogue
