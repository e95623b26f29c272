/-
VoiceDialogue/Proofs/Markup/Carriable.lean

Characters that a document can carry: in texts, in trees and in markup.

A tree is searched for a character that no document can carry without being
written first.  The search looks at names, values and texts one after the
other, while the writer escapes some characters, puts signs between them and
writes the name of an element twice.  Still both agree on the first such
character (`firstInvalid?_write`): an escape of a character that can be
carried is made of such characters, the signs are such characters, and a name
that could not be carried was found where it stands first.

So a tree passes the search exactly if all of its strings can be carried
(`Element.firstInvalid?_eq_none_iff`), and then so can its markup.
-/
import VoiceDialogue.Markup.Writer
import VoiceDialogue.Proofs.Markup.Everywhere

namespace VoiceDialogue

namespace Markup

/-! ### Texts -/

/-- Whether a document can carry all characters of a string. -/
def Carriable (s : String) : Prop := ∀ c ∈ s.toList, isXmlChar c

instance (s : String) : Decidable (Carriable s) :=
  decidable_of_iff (s.toList.all isXmlChar) List.all_eq_true

theorem firstInvalid?_eq_none_iff (cs : List Char) :
    firstInvalid? cs = none ↔ ∀ c ∈ cs, isXmlChar c := by
  simp [firstInvalid?]

theorem firstInvalid?_append (cs ds : List Char) :
    firstInvalid? (cs ++ ds) = (firstInvalid? cs).or (firstInvalid? ds) :=
  List.find?_append

theorem firstInvalid?_cons {c : Char} (h : isXmlChar c) (cs : List Char) :
    firstInvalid? (c :: cs) = firstInvalid? cs := by
  simp [firstInvalid?, h]

theorem carriable_append (s t : String) :
    Carriable (s ++ t) ↔ Carriable s ∧ Carriable t := by
  simp [Carriable, or_imp, forall_and]

/-- Strings with blanks between them can be carried if each of them can. -/
theorem carriable_intercalate (ss : List String) :
    Carriable (String.intercalate " " ss) ↔ ∀ s ∈ ss, Carriable s := by
  have blank : Carriable " " := by decide
  induction ss with
  | nil => exact ⟨by simp, fun _ => by decide⟩
  | cons s rest ih =>
    cases rest with
    | nil => simp
    | cons t rest =>
      have later : Carriable (String.intercalate " " (t :: rest))
          ↔ ∀ s ∈ t :: rest, Carriable s := ih
      rw [String.intercalate_cons_cons, carriable_append, carriable_append,
        List.forall_mem_cons, later]
      constructor
      · rintro ⟨⟨first, -⟩, others⟩
        exact ⟨first, others⟩
      · rintro ⟨first, others⟩
        exact ⟨⟨first, blank⟩, others⟩

theorem carriable_repr (n : Nat) : Carriable n.repr := by
  intro c hc
  rw [Nat.toList_repr] at hc
  have digit := Nat.isDigit_of_mem_toDigits (by decide) (by decide) hc
  -- digits lie in the first range of characters that markup allows
  simp only [Char.isDigit, Bool.and_eq_true, decide_eq_true_eq] at digit
  have low : 48 ≤ c.toNat := UInt32.le_iff_toNat_le.1 digit.1
  have high : c.toNat ≤ 57 := UInt32.le_iff_toNat_le.1 digit.2
  simp only [isXmlChar, Bool.or_eq_true, Bool.and_eq_true, decide_eq_true_eq]
  omega

/-! ### Escapes -/

theorem firstInvalid?_escapeInText (c : Char) :
    firstInvalid? (escapeInText c) = firstInvalid? [c] := by
  unfold escapeInText
  -- a sign with an escape can be carried, and so can all signs of the escape
  split
  · next h => subst h; rfl
  split
  · next h => subst h; rfl
  split
  · next h => subst h; rfl
  split
  · next h => subst h; rfl
  · rfl

theorem firstInvalid?_escapeInValue (c : Char) :
    firstInvalid? (escapeInValue c) = firstInvalid? [c] := by
  unfold escapeInValue
  split
  · next h => subst h; rfl
  split
  · next h => subst h; rfl
  split
  · next h => subst h; rfl
  · exact firstInvalid?_escapeInText c

theorem firstInvalid?_flatMap {escape : Char → List Char}
    (h : ∀ c, firstInvalid? (escape c) = firstInvalid? [c]) (cs : List Char) :
    firstInvalid? (cs.flatMap escape) = firstInvalid? cs := by
  induction cs with
  | nil => rfl
  | cons c cs ih =>
    calc firstInvalid? ((c :: cs).flatMap escape)
        = (firstInvalid? (escape c)).or (firstInvalid? (cs.flatMap escape)) := by
          rw [List.flatMap_cons, firstInvalid?_append]
      _ = (firstInvalid? [c]).or (firstInvalid? cs) := by rw [h, ih]
      _ = firstInvalid? (c :: cs) := (firstInvalid?_append [c] cs).symm

theorem firstInvalid?_writeText (s : String) :
    firstInvalid? (writeText s) = firstInvalid? s.toList :=
  firstInvalid?_flatMap firstInvalid?_escapeInText s.toList

theorem firstInvalid?_writeAttribute (a : String × String) :
    firstInvalid? (writeAttribute a)
      = (firstInvalid? a.1.toList).or (firstInvalid? a.2.toList) := by
  have sign : firstInvalid? ['"'] = none := rfl
  rw [writeAttribute, firstInvalid?_append, List.cons_append, firstInvalid?_cons rfl,
    firstInvalid?_append, firstInvalid?_cons rfl, firstInvalid?_cons rfl,
    firstInvalid?_flatMap firstInvalid?_escapeInValue, sign, Option.or_none]

end Markup

/-! ### Trees -/

/-- Whether a document can carry an attribute. -/
def CarriableEntry (n v : String) : Prop := Markup.Carriable n ∧ Markup.Carriable v

/-- Whether a document can carry a tag. -/
def CarriableTag (name : String) (a : Attributes) : Prop :=
  Markup.Carriable name ∧ a.AllBut [] CarriableEntry

namespace Element

/-- Whether a document can carry all strings of a tree. -/
def Carriable (e : Element) : Prop := e.Everywhere CarriableTag Markup.Carriable

/-- The search finds nothing exactly if every string can be carried. -/
theorem firstInvalidInTag?_eq_none_iff (e : Element) :
    e.firstInvalidInTag? = none ↔ CarriableTag e.name e.attributes := by
  simp [firstInvalidInTag?, Markup.firstInvalid?_eq_none_iff, CarriableTag, Attributes.AllBut,
    CarriableEntry, Markup.Carriable]

mutual

/-- The search of a tree finds nothing exactly if all strings can be carried. -/
theorem firstInvalid?_eq_none_iff : (e : Element) → (e.firstInvalid? = none ↔ e.Carriable)
  | ⟨name, attributes, children⟩ => by
    rw [firstInvalid?, Option.or_eq_none_iff, firstInvalidInTag?_eq_none_iff,
      firstInvalidIn?_eq_none_iff children, Carriable, Everywhere]

theorem firstInvalidIn?_eq_none_iff : (cs : List Node) →
    (firstInvalidIn? cs = none ↔ Node.AllEverywhere CarriableTag Markup.Carriable cs)
  | [] => by simp [firstInvalidIn?, Node.AllEverywhere]
  | .element e :: rest => by
    rw [firstInvalidIn?, Option.or_eq_none_iff, firstInvalid?_eq_none_iff e,
      firstInvalidIn?_eq_none_iff rest, Node.AllEverywhere, Carriable]
  | .text s :: rest => by
    rw [firstInvalidIn?, Option.or_eq_none_iff, Markup.firstInvalid?_eq_none_iff,
      firstInvalidIn?_eq_none_iff rest, Node.AllEverywhere, Markup.Carriable]

end

/-! ### Markup -/

theorem firstInvalid?_writeTag (name : String) (attributes : Attributes)
    (children : List Node) :
    Markup.firstInvalid? (writeTag name attributes)
      = firstInvalidInTag? ⟨name, attributes, children⟩ := by
  rw [writeTag, Markup.firstInvalid?_append, firstInvalidInTag?]
  congr 1
  rw [Markup.firstInvalid?, List.find?_flatMap]
  congr 1
  funext a
  exact Markup.firstInvalid?_writeAttribute a

mutual

/-- The markup of a tree and the tree have the same first character that no
document can carry. -/
theorem firstInvalid?_write : (e : Element) →
    Markup.firstInvalid? e.write = e.firstInvalid?
  | ⟨name, attributes, children⟩ => by
    have inTag := firstInvalid?_writeTag name attributes children
    have inChildren := firstInvalid?_writeAll children
    rw [write, firstInvalid?]
    split
    · -- one tag: there are no children to search
      next none =>
      obtain rfl := List.isEmpty_iff.1 none
      rw [List.cons_append, Markup.firstInvalid?_cons rfl, Markup.firstInvalid?_append, inTag]
      rfl
    · simp only [List.cons_append, List.append_assoc, Markup.firstInvalid?_append,
        Markup.firstInvalid?_cons (show Markup.isXmlChar '<' from rfl),
        Markup.firstInvalid?_cons (show Markup.isXmlChar '>' from rfl),
        Markup.firstInvalid?_cons (show Markup.isXmlChar '/' from rfl), inTag, inChildren]
      -- the name in the end tag was searched in the start tag
      rcases e : Markup.firstInvalid? name.toList with - | c
      · simp [Markup.firstInvalid?]
      · simp [firstInvalidInTag?, e]

theorem firstInvalid?_writeAll : (cs : List Node) →
    Markup.firstInvalid? (writeAll cs) = firstInvalidIn? cs
  | [] => rfl
  | .element e :: rest => by
    rw [writeAll, Markup.firstInvalid?_append, firstInvalid?_write e,
      firstInvalid?_writeAll rest, firstInvalidIn?]
  | .text s :: rest => by
    rw [writeAll, Markup.firstInvalid?_append, Markup.firstInvalid?_writeText,
      firstInvalid?_writeAll rest, firstInvalidIn?]

end

end Element

end VoiceDialogue
