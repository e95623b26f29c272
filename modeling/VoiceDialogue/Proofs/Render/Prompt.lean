/-
VoiceDialogue/Proofs/Render/Prompt.lean

The children of a prompt, written out, and what can be read back from them.

An item is one child (`AudioItem.node`), and a piece of speech that comes right
after another one has a blank before it (`AudioItem.nodes`).  Whether a blank is
due depends on nothing but the item before, so the children of a prompt can be
listed without building it (`itemNodes`, `appendItems_eq`).

Speech and blanks are both text, and a piece of speech may be a blank itself.
Even so the list can be cut into items in one way only: whoever knows what the
last child was knows whether the next text is a blank that was put in.  That is
the step `AudioItem.nodes_append_inj`, and `itemNodes_inj` is the run.  Two
items with the same child are the same, up to an alternative without text
(`AudioItem.plain`).
-/
import VoiceDialogue.Render.Prompt

namespace VoiceDialogue

/-! ### Time designations -/

theorem Duration.designation_injective : Function.Injective Duration.designation := by
  intro d e h
  have digits : d.millis.toNat.repr = e.millis.toNat.repr := (String.append_left_inj "ms").1 h
  have count : d.millis.toNat = e.millis.toNat := by
    have read (n : Nat) : Nat.ofDigitChars 10 n.repr.toList 0 = n := by
      rw [Nat.toList_repr, Nat.ofDigitChars_toDigits (by decide) (by decide)]
    rw [← read d.millis.toNat, digits, read]
  cases d
  cases e
  exact congrArg Duration.mk (UInt64.toNat_inj.1 count)

/-! ### Text that may be empty -/

/-- The children that a text becomes: none if it is empty. -/
def Node.texts (s : String) : List Node := if s = "" then [] else [.text s]

theorem Node.texts_inj {s t : String} : texts s = texts t ↔ s = t := by
  by_cases hs : s = "" <;> by_cases ht : t = "" <;> simp [texts, hs, ht, eq_comm]

theorem Node.texts_of_ne {s : String} (h : s ≠ "") : texts s = [.text s] := if_neg h

theorem Element.appendText_eq (e : Element) (s : String) :
    e.appendText s = ⟨e.name, e.attributes, e.children ++ Node.texts s⟩ := by
  obtain ⟨name, attributes, children⟩ := e
  rw [appendText, Node.texts]
  split
  · rw [List.append_nil]
  · rfl

/-! ### One attribute -/

theorem Attributes.set_empty_inj {n m v w : String} :
    Attributes.empty.set n v = Attributes.empty.set m w ↔ n = m ∧ v = w := by
  rw [Attributes.mk.injEq]
  show [(n, v)] = [(m, w)] ↔ _
  rw [List.singleton_inj, Prod.mk.injEq]

/-! ### Items -/

namespace AudioItem

/-- Whether an item is a piece of speech. -/
def isSpeech : AudioItem → Bool
  | .speech _ => true
  | _ => false

/-- The child that an item becomes. -/
def node : AudioItem → Node
  | .speech text => .text text
  | .file location alternative =>
      .element ⟨"audio", Attributes.empty.set "src" location, Node.texts (alternative.getD "")⟩
  | .pause duration => .element ⟨"break", Attributes.empty.set "time" duration.designation, []⟩
  | .recording expression => .element ⟨"audio", Attributes.empty.set "expr" expression, []⟩

/-- The children that an item adds after text or after something else. -/
def nodes (afterText : Bool) (i : AudioItem) : List Node :=
  if afterText && i.isSpeech then [.text " ", i.node] else [i.node]

theorem nodes_of_not_speech {afterText : Bool} {i : AudioItem} (h : i.isSpeech = false) :
    i.nodes afterText = [i.node] := by
  rw [nodes, h, Bool.and_false]
  rfl

/-- An alternative, where an empty one is none. -/
def played (alternative : Option String) : Option String :=
  if alternative = some "" then none else alternative

/-- An item, where an empty alternative is none. -/
def plain : AudioItem → AudioItem
  | .file location alternative => .file location (played alternative)
  | i => i

theorem isSpeech_plain (i : AudioItem) : i.plain.isSpeech = i.isSpeech := by
  cases i <;> rfl

/-- An item is text exactly if it is a piece of speech. -/
theorem isSome_text?_node (i : AudioItem) : i.node.text?.isSome = i.isSpeech := by
  cases i <;> rfl

/-- Alternatives are played in the same way exactly if they have the same
text. -/
theorem played_inj {x y : Option String} : played x = played y ↔ x.getD "" = y.getD "" := by
  have text (x : Option String) : (played x).getD "" = x.getD "" := by
    rcases x with - | s
    · rfl
    · by_cases h : s = "" <;> simp [played, h]
  have given (x : Option String) :
      played x = if x.getD "" = "" then none else some (x.getD "") := by
    rcases x with - | s
    · rfl
    · by_cases h : s = "" <;> simp [played, h]
  constructor
  · intro same
    rw [← text x, same, text]
  · intro same
    rw [given, given, same]

/-- A child tells which item it was. -/
theorem node_inj {i j : AudioItem} : i.node = j.node ↔ i.plain = j.plain := by
  cases i with
  | speech s => cases j <;> simp [node, plain]
  | file l a =>
    cases j <;> simp [node, plain, Attributes.set_empty_inj, Node.texts_inj, played_inj]
  | pause d =>
    cases j <;> simp [node, plain, Attributes.set_empty_inj, Duration.designation_injective.eq_iff]
  | recording c => cases j <;> simp [node, plain, Attributes.set_empty_inj]

/-- What an item adds starts with text exactly if it is a piece of speech. -/
theorem nodes_eq_cons (afterText : Bool) (i : AudioItem) :
    ∃ c cs, i.nodes afterText = c :: cs ∧ c.text?.isSome = i.isSpeech := by
  rw [nodes]
  split
  · next blank =>
    refine ⟨.text " ", [i.node], rfl, ?_⟩
    rw [(Bool.and_eq_true_iff.1 blank).2]
    rfl
  · exact ⟨i.node, [], rfl, i.isSome_text?_node⟩

/-- What an item adds can be cut off, and tells which item it was. -/
theorem nodes_append_inj {afterText : Bool} {i j : AudioItem} {cs ds : List Node}
    (h : i.nodes afterText ++ cs = j.nodes afterText ++ ds) :
    i.plain = j.plain ∧ cs = ds := by
  have kinds : i.isSpeech = j.isSpeech := by
    obtain ⟨c, cs', hi, hc⟩ := i.nodes_eq_cons afterText
    obtain ⟨d, ds', hj, hd⟩ := j.nodes_eq_cons afterText
    rw [hi, hj] at h
    rw [← hc, ← hd, (List.cons.inj h).1]
  rw [nodes, nodes, kinds] at h
  split at h
  · -- both start with the same blank
    obtain ⟨same, rest⟩ := List.cons.inj (List.cons.inj h).2
    exact ⟨node_inj.1 same, rest⟩
  · obtain ⟨same, rest⟩ := List.cons.inj h
    exact ⟨node_inj.1 same, rest⟩

end AudioItem

namespace Render

/-- The children that items add, in their order, after text or after
something else. -/
def itemNodes (afterText : Bool) : List AudioItem → List Node
  | [] => []
  | i :: is => i.nodes afterText ++ itemNodes i.isSpeech is

/-! ### Prompts -/

theorem appendItem_eq {e e' : Element} {i : AudioItem} (h : appendItem e i = .ok e') :
    e' = ⟨e.name, e.attributes, e.children ++ i.nodes (endsInText e)⟩ := by
  cases i with
  | speech s =>
    rw [appendItem] at h
    split at h
    · cases h
    next given =>
    rw [AudioItem.nodes, AudioItem.isSpeech, Bool.and_true]
    split at h
    · -- speech after text: a blank comes between
      next afterText =>
      obtain rfl := Except.ok.inj h
      rw [if_pos afterText, Element.appendText_eq, Element.appendText_eq,
        Node.texts_of_ne given, Node.texts_of_ne (show " " ≠ "" by decide), List.append_assoc]
      rfl
    · next afterOther =>
      obtain rfl := Except.ok.inj h
      rw [if_neg afterOther, Element.appendText_eq, Node.texts_of_ne given]
      rfl
  | file location alternative =>
    rw [appendItem] at h
    split at h
    · cases h
    obtain rfl := Except.ok.inj h
    rw [Element.appendText_eq, AudioItem.nodes_of_not_speech rfl]
    rfl
  | pause duration =>
    obtain rfl := Except.ok.inj h
    rw [AudioItem.nodes_of_not_speech rfl]
    rfl
  | recording expression =>
    rw [appendItem] at h
    split at h
    · cases h
    obtain rfl := Except.ok.inj h
    rw [AudioItem.nodes_of_not_speech rfl]
    rfl

theorem endsInText_appended (name : String) (attributes : Attributes) (cs : List Node)
    (b : Bool) (i : AudioItem) :
    endsInText ⟨name, attributes, cs ++ i.nodes b⟩ = i.isSpeech := by
  have last : (cs ++ i.nodes b).getLast? = some i.node := by
    rw [AudioItem.nodes]
    split <;> simp
  rw [endsInText, last, Option.any_some, i.isSome_text?_node]

theorem appendItems_eq {e e' : Element} {is : List AudioItem} (h : appendItems e is = .ok e') :
    e' = ⟨e.name, e.attributes, e.children ++ itemNodes (endsInText e) is⟩ := by
  induction is generalizing e with
  | nil =>
    obtain rfl := Except.ok.inj h
    obtain ⟨name, attributes, children⟩ := e
    rw [itemNodes, List.append_nil]
  | cons i is ih =>
    rw [appendItems] at h
    cases hi : appendItem e i with
    | error o => rw [hi] at h; cases h
    | ok e₁ =>
      rw [hi] at h
      rw [ih h, appendItem_eq hi, endsInText_appended, itemNodes, List.append_assoc]

theorem itemNodes_eq_nil_iff (afterText : Bool) (is : List AudioItem) :
    itemNodes afterText is = [] ↔ is = [] := by
  cases is with
  | nil => simp [itemNodes]
  | cons i is =>
    obtain ⟨c, cs, first, -⟩ := i.nodes_eq_cons afterText
    simp [itemNodes, first]

/-- Items can be read back from the children that they add. -/
theorem itemNodes_inj {afterText : Bool} {is js : List AudioItem}
    (h : itemNodes afterText is = itemNodes afterText js) :
    is.map AudioItem.plain = js.map AudioItem.plain := by
  induction is generalizing afterText js with
  | nil => rw [(itemNodes_eq_nil_iff afterText js).1 h.symm]
  | cons i is ih =>
    cases js with
    | nil => exact absurd ((itemNodes_eq_nil_iff afterText _).1 h) (List.cons_ne_nil i is)
    | cons j js =>
      rw [itemNodes, itemNodes] at h
      obtain ⟨same, rest⟩ := AudioItem.nodes_append_inj h
      -- the same item leaves the same question about the next blank
      have kinds : i.isSpeech = j.isSpeech := by rw [← i.isSpeech_plain, same, j.isSpeech_plain]
      rw [kinds] at rest
      rw [List.map_cons, List.map_cons, same, ih rest]

end Render

end VoiceDialogue
