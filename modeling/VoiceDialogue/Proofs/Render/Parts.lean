/-
VoiceDialogue/Proofs/Render/Parts.lean

What the documents of turns are made of.

For every piece of the renderer there is a rule here that says when a property
of tags and texts holds everywhere in it.  The rules take trees apart, down to
the attributes of each tag, and never look at the property; so they serve for
names, for characters and for values alike.  The rule for whole documents is
`Render.everywhere_document`.

Every way through an item ends with the same jump, so the jump is kept apart
from the rest.  The blank between two pieces of speech is the only text that
neither the turn nor its platform contributes, and the rules take for granted
that it has the property.
-/
import VoiceDialogue.Proofs.Render.ObjectTag
import VoiceDialogue.Render.Document

namespace VoiceDialogue

/-! ### The parts -/

section

variable (tag : String → Attributes → Prop) (text : String → Prop)

/-- Whether the markup of an audio item has a property everywhere. -/
def AudioItem.Everywhere : AudioItem → Prop
  | .speech s => s ≠ "" → text s
  | .file location alternative =>
      tag "audio" (Attributes.empty.set "src" location)
        ∧ (alternative.getD "" ≠ "" → text (alternative.getD ""))
  | .pause duration => tag "break" (Attributes.empty.set "time" duration.designation)
  | .recording expression => tag "audio" (Attributes.empty.set "expr" expression)

namespace Render

/-- Whether a script has a property everywhere. -/
def ScriptEverywhere (code : String) : Prop := tag "script" .empty ∧ (code ≠ "" → text code)

/-- The attributes of a prompt. -/
def promptAttributes (m : Message) : Attributes :=
  (Attributes.empty.set? "xml:lang" m.language).set? "bargein"
    (m.bargeIn.map fun b => if b then "true" else "false")

/-- Whether the branches of a supervised transfer have a property everywhere,
the jumps aside. -/
def BranchesEverywhere (p : Platform) : Prop :=
  tag "if" (Attributes.empty.set "cond" (outcomeIs .noAnswer)) ∧
    (∀ o ∈ Outcome.all.tail, tag "elseif" (Attributes.empty.set "cond" (outcomeIs o))) ∧
    (∀ o ∈ Outcome.all, ScriptEverywhere tag text (p.transferStatusCall ("'" ++ o.code ++ "'"))) ∧
    tag "else" .empty ∧ ScriptEverywhere tag text (p.transferStatusCall "transfer")

/-- Whether the item of a payload has a property everywhere, the jumps aside. -/
def PayloadEverywhere (p : Platform) : Payload → Prop
  | .message m =>
      tag "block" .empty ∧ tag "prompt" (promptAttributes m) ∧
        ∀ i ∈ m.items, i.Everywhere tag text
  | .objectCall c =>
      tag "object" ((objectAttributes c).setAll (attemptEntries p c)) ∧
        (∀ q ∈ c.parameters, tag "param" (param q).attributes) ∧ tag "filled" .empty ∧
        tag "var" ((Attributes.empty.set "name" "object").set "expr" "dialog.object") ∧
        (∀ code ∈ c.script, ScriptEverywhere tag text code) ∧
        ScriptEverywhere tag text (p.valueResultCall "object")
  | .transfer t =>
      tag "transfer" (transferTag t).attributes ∧
        (t.items ≠ [] → tag "prompt" .empty) ∧ (∀ i ∈ t.items, i.Everywhere tag text) ∧
        (t.style.releasesCaller →
          tag "catch" (Attributes.empty.set "event" "connection.disconnect.transfer")) ∧
        tag "filled" .empty ∧ (t.style.isSupervised → BranchesEverywhere tag text p)

end Render

end

/-! ### The rules -/

namespace Render

variable {tag : String → Attributes → Prop} {text : String → Prop}

/-- An element without children is its tag. -/
theorem everywhere_of_children_eq_nil {e : Element} (h : e.children = []) :
    e.Everywhere tag text ↔ tag e.name e.attributes := by
  rw [Element.everywhere_iff, h, Node.AllEverywhere, and_true]

/-- An element with a single attribute. -/
theorem everywhere_new_setAttribute (name n v : String) :
    ((Element.new name).setAttribute n v).Everywhere tag text
      ↔ tag name (Attributes.empty.set n v) :=
  everywhere_of_children_eq_nil rfl

/-- Steps of building that each add something. -/
theorem everywhere_foldl {α : Type} {f : Element → α → Element} {added : α → Prop}
    (step : ∀ e a, (f e a).Everywhere tag text ↔ e.Everywhere tag text ∧ added a)
    (e : Element) (as : List α) :
    (as.foldl f e).Everywhere tag text ↔ e.Everywhere tag text ∧ ∀ a ∈ as, added a := by
  induction as generalizing e with
  | nil => simp
  | cons a as ih => rw [List.foldl_cons, ih, step, List.forall_mem_cons, and_assoc]

theorem everywhere_onward (p : Platform) :
    (onward p).Everywhere tag text ↔ tag "goto" (Attributes.empty.set "next" p.submitTarget) :=
  everywhere_new_setAttribute "goto" "next" p.submitTarget

theorem everywhere_script (code : String) :
    (script code).Everywhere tag text ↔ ScriptEverywhere tag text code := by
  rw [script, Element.everywhere_appendText, Element.everywhere_new]
  rfl

/-! ### Prompts -/

theorem everywhere_appendItem (blank : text " ") {e e' : Element} {i : AudioItem}
    (h : appendItem e i = .ok e') :
    e'.Everywhere tag text ↔ e.Everywhere tag text ∧ i.Everywhere tag text := by
  cases i with
  | speech s =>
    rw [appendItem] at h
    split at h
    · cases h
    split at h
    · -- speech after speech: a blank comes between
      obtain rfl := Except.ok.inj h
      rw [Element.everywhere_appendText, Element.everywhere_appendText]
      simp [blank, AudioItem.Everywhere]
    · obtain rfl := Except.ok.inj h
      exact Element.everywhere_appendText e s
  | file location alternative =>
    rw [appendItem] at h
    split at h
    · cases h
    obtain rfl := Except.ok.inj h
    rw [Element.everywhere_append, Element.everywhere_appendText, everywhere_new_setAttribute]
    rfl
  | pause duration =>
    rw [appendItem] at h
    obtain rfl := Except.ok.inj h
    rw [Element.everywhere_append, everywhere_new_setAttribute]
    rfl
  | recording expression =>
    rw [appendItem] at h
    split at h
    · cases h
    obtain rfl := Except.ok.inj h
    rw [Element.everywhere_append, everywhere_new_setAttribute]
    rfl

theorem everywhere_appendItems (blank : text " ") {e e' : Element} {is : List AudioItem}
    (h : appendItems e is = .ok e') :
    e'.Everywhere tag text ↔ e.Everywhere tag text ∧ ∀ i ∈ is, i.Everywhere tag text := by
  induction is generalizing e with
  | nil => simp [Except.ok.inj h]
  | cons i is ih =>
    rw [appendItems] at h
    cases hi : appendItem e i with
    | error o => rw [hi] at h; cases h
    | ok e₁ =>
      rw [hi] at h
      rw [ih h, everywhere_appendItem blank hi, List.forall_mem_cons, and_assoc]

/-! ### Items -/

section

variable {p : Platform}

theorem everywhere_messageItem (blank : text " ") {m : Message} {e : Element}
    (h : messageItem p m = .ok e) :
    e.Everywhere tag text
      ↔ (onward p).Everywhere tag text ∧ PayloadEverywhere tag text p (.message m) := by
  rw [messageItem] at h
  cases hm : messagePrompt m with
  | error o => rw [hm] at h; cases h
  | ok spoken =>
    rw [hm] at h
    obtain rfl := Except.ok.inj h
    have inPrompt : spoken.Everywhere tag text
        ↔ tag "prompt" (promptAttributes m) ∧ ∀ i ∈ m.items, i.Everywhere tag text := by
      rw [everywhere_appendItems blank hm, everywhere_of_children_eq_nil rfl]
      rfl
    rw [Element.everywhere_append, Element.everywhere_append, Element.everywhere_new, inPrompt,
      and_comm]
    rfl

theorem everywhere_objectFilled (c : ObjectCall) :
    (objectFilled p c).Everywhere tag text
      ↔ (onward p).Everywhere tag text ∧ tag "filled" .empty ∧
        tag "var" ((Attributes.empty.set "name" "object").set "expr" "dialog.object") ∧
        (∀ code ∈ c.script, ScriptEverywhere tag text code) ∧
        ScriptEverywhere tag text (p.valueResultCall "object") := by
  have result : (((Element.new "var").setAttribute "name" "object").setAttribute "expr"
      "dialog.object").Everywhere tag text
        ↔ tag "var" ((Attributes.empty.set "name" "object").set "expr" "dialog.object") :=
    everywhere_of_children_eq_nil rfl
  rw [objectFilled, Element.everywhere_append, Element.everywhere_append, everywhere_script,
    and_comm]
  cases c.script with
  | none => simp [Element.everywhere_append, Element.everywhere_new, result, and_assoc]
  | some code =>
    simp [Element.everywhere_append, Element.everywhere_new, everywhere_script, result, and_assoc]

theorem everywhere_objectItem {c : ObjectCall} {e : Element} (h : objectItem p c = .ok e) :
    e.Everywhere tag text
      ↔ (onward p).Everywhere tag text ∧ PayloadEverywhere tag text p (.objectCall c) := by
  rw [objectItem] at h
  split at h
  · cases h
  obtain rfl := Except.ok.inj h
  have parameter (e : Element) (q : Parameter) : (e.append (param q)).Everywhere tag text
      ↔ e.Everywhere tag text ∧ tag "param" (param q).attributes := by
    rw [Element.everywhere_append, everywhere_of_children_eq_nil (e := param q) rfl]
    rfl
  have start : (objectTag p c).Everywhere tag text
      ↔ tag "object" ((objectAttributes c).setAll (attemptEntries p c)) := by
    rw [objectTag_eq]
    exact everywhere_of_children_eq_nil rfl
  rw [Element.everywhere_append, everywhere_foldl parameter, start, everywhere_objectFilled,
    and_left_comm, and_assoc]
  rfl

theorem everywhere_appendReport (expression : String) (e : Element) :
    (appendReport p expression e).Everywhere tag text ↔ e.Everywhere tag text ∧
      ScriptEverywhere tag text (p.transferStatusCall expression) ∧
      (onward p).Everywhere tag text := by
  rw [appendReport, Element.everywhere_append, Element.everywhere_append, everywhere_script,
    and_assoc]

theorem everywhere_outcomeBranches :
    (outcomeBranches p).Everywhere tag text
      ↔ (onward p).Everywhere tag text ∧ BranchesEverywhere tag text p := by
  have further (e : Element) (o : Outcome) : (appendFurther p e o).Everywhere tag text
      ↔ e.Everywhere tag text ∧ tag "elseif" (Attributes.empty.set "cond" (outcomeIs o)) ∧
        ScriptEverywhere tag text (p.transferStatusCall ("'" ++ o.code ++ "'")) ∧
        (onward p).Everywhere tag text := by
    rw [appendFurther, appendOutcome, everywhere_appendReport, Element.everywhere_append,
      everywhere_new_setAttribute, and_assoc]
  rw [outcomeBranches, everywhere_appendReport, Element.everywhere_append, Element.everywhere_new]
  show ((List.foldl (appendFurther p) _ Outcome.all.tail).Everywhere tag text ∧ _) ∧ _ ↔ _
  rw [everywhere_foldl further, appendOutcome, everywhere_appendReport,
    everywhere_new_setAttribute, BranchesEverywhere]
  -- every branch ends with the jump, which is counted once
  constructor
  · rintro ⟨⟨⟨⟨first, report, -⟩, rest⟩, other⟩, last, jump⟩
    have conditions : ∀ o ∈ Outcome.all.tail,
        tag "elseif" (Attributes.empty.set "cond" (outcomeIs o)) := by
      intro o ho
      exact (rest o ho).1
    have reports : ∀ o ∈ Outcome.all,
        ScriptEverywhere tag text (p.transferStatusCall ("'" ++ o.code ++ "'")) := by
      have all : Outcome.all = .noAnswer :: Outcome.all.tail := rfl
      rw [all, List.forall_mem_cons]
      exact ⟨report, fun o ho => (rest o ho).2.1⟩
    exact ⟨jump, first, conditions, reports, other, last⟩
  · rintro ⟨jump, first, conditions, reports, other, last⟩
    obtain ⟨report, reports⟩ := List.forall_mem_cons.1 reports
    refine ⟨⟨⟨⟨first, report, jump⟩, ?_⟩, other⟩, last, jump⟩
    intro o ho
    exact ⟨conditions o ho, reports o ho, jump⟩

theorem everywhere_appendEnding (s : Transfer.Style) (e : Element) :
    (appendEnding p s e).Everywhere tag text
      ↔ (onward p).Everywhere tag text ∧ e.Everywhere tag text ∧
        (s.releasesCaller →
          tag "catch" (Attributes.empty.set "event" "connection.disconnect.transfer")) ∧
        tag "filled" .empty ∧ (s.isSupervised → BranchesEverywhere tag text p) := by
  have ending : (if s.isSupervised then outcomeBranches p else onward p).Everywhere tag text
      ↔ (onward p).Everywhere tag text ∧ (s.isSupervised → BranchesEverywhere tag text p) := by
    cases s.isSupervised with
    | true => simpa using everywhere_outcomeBranches
    | false => simp
  rw [appendEnding, Element.everywhere_append, Element.everywhere_append, Element.everywhere_new,
    ending]
  cases s.releasesCaller with
  | true =>
    -- the branch for a released caller has a jump of its own
    simp only [if_true, Element.everywhere_append, everywhere_new_setAttribute, forall_const]
    constructor
    · rintro ⟨⟨own, caught, jump⟩, filled, -, branches⟩
      exact ⟨jump, own, caught, filled, branches⟩
    · rintro ⟨jump, own, caught, filled, branches⟩
      exact ⟨⟨own, caught, jump⟩, filled, jump, branches⟩
  | false =>
    simp only [Bool.false_eq_true, if_false, false_imp_iff, true_and]
    constructor
    · rintro ⟨own, filled, jump, branches⟩
      exact ⟨jump, own, filled, branches⟩
    · rintro ⟨jump, own, filled, branches⟩
      exact ⟨own, filled, jump, branches⟩

theorem everywhere_transferItem (blank : text " ") {t : Transfer} {e : Element}
    (h : transferItem p t = .ok e) :
    e.Everywhere tag text
      ↔ (onward p).Everywhere tag text ∧ PayloadEverywhere tag text p (.transfer t) := by
  have start : (transferTag t).Everywhere tag text ↔ tag "transfer" (transferTag t).attributes :=
    everywhere_of_children_eq_nil rfl
  rw [transferItem] at h
  split at h
  · cases h
  split at h
  · next none =>
    obtain rfl := Except.ok.inj h
    rw [everywhere_appendEnding, start, PayloadEverywhere, List.isEmpty_iff.1 none]
    simp
  · next some =>
    cases ht : prompt t.items with
    | error o => rw [ht] at h; cases h
    | ok spoken =>
      rw [ht] at h
      obtain rfl := Except.ok.inj h
      have inPrompt : spoken.Everywhere tag text
          ↔ tag "prompt" .empty ∧ ∀ i ∈ t.items, i.Everywhere tag text := by
        rw [everywhere_appendItems blank ht, Element.everywhere_new]
      have nonempty : t.items ≠ [] := by
        intro none
        exact some (List.isEmpty_iff.2 none)
      rw [everywhere_appendEnding, Element.everywhere_append, start, inPrompt, PayloadEverywhere]
      simp [nonempty, and_assoc]

theorem everywhere_item (blank : text " ") {payload : Payload} {e : Element}
    (h : item p payload = .ok e) :
    e.Everywhere tag text
      ↔ (onward p).Everywhere tag text ∧ PayloadEverywhere tag text p payload := by
  cases payload with
  | message m => exact everywhere_messageItem blank h
  | objectCall c => exact everywhere_objectItem h
  | transfer t => exact everywhere_transferItem blank h

end

/-! ### Documents -/

/-- The attributes of a root. -/
def rootAttributes (p : Platform) : Attributes :=
  ((Attributes.empty.set "version" "2.1").set "xmlns" "http://www.w3.org/2001/vxml").set?
    "application" p.applicationRoot

/-- A rendered document has a property everywhere exactly if its root, its
form, the jump and the item of its payload have it. -/
theorem everywhere_document (blank : text " ") {p : Platform} {payload : Payload} {d : Document}
    (h : document p payload = .ok d) :
    d.root.Everywhere tag text ↔
      tag "vxml" (rootAttributes p) ∧ tag "form" (Attributes.empty.set "id" p.formId) ∧
        tag "goto" (Attributes.empty.set "next" p.submitTarget) ∧
        PayloadEverywhere tag text p payload := by
  rw [document] at h
  split at h
  · cases h
  cases hi : item p payload with
  | error o => rw [hi] at h; cases h
  | ok e =>
    rw [hi] at h
    obtain rfl := Except.ok.inj h
    have start : ((((Element.new "vxml").setAttribute "version" "2.1").setAttribute "xmlns"
        "http://www.w3.org/2001/vxml").setAttribute? "application" p.applicationRoot).Everywhere
          tag text ↔ tag "vxml" (rootAttributes p) := everywhere_of_children_eq_nil rfl
    show (root p (form p e)).Everywhere tag text ↔ _
    rw [root, Element.everywhere_append, start, form, Element.everywhere_append,
      everywhere_new_setAttribute, everywhere_item blank hi, everywhere_onward]

end Render

end VoiceDialogue
