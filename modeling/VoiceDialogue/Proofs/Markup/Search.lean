/-
VoiceDialogue/Proofs/Markup/Search.lean

Looking for the elements of a name.

A tree is searched in document order, and a list of children is searched child
by child (`Node.findAll`), so a search follows the way in which a tree is put
together: the root, if it has the name, and then what is below
(`Element.findAll_eq`).
-/
import VoiceDialogue.Markup.Element

namespace VoiceDialogue

namespace Node

/-- The elements of a name among some children and below, in document order. -/
def findAll (cs : List Node) (n : String) : List Element :=
  (Element.descendantsOf cs).filter (·.name = n)

theorem findAll_nil (n : String) : findAll [] n = [] := by
  rw [findAll, Element.descendantsOf, List.filter_nil]

theorem findAll_element (e : Element) (rest : List Node) (n : String) :
    findAll (.element e :: rest) n = e.findAll n ++ findAll rest n := by
  rw [findAll, Element.descendantsOf, List.filter_append]
  rfl

theorem findAll_text (s : String) (rest : List Node) (n : String) :
    findAll (.text s :: rest) n = findAll rest n := by
  rw [findAll, Element.descendantsOf, findAll]

theorem findAll_append (cs ds : List Node) (n : String) :
    findAll (cs ++ ds) n = findAll cs n ++ findAll ds n := by
  induction cs with
  | nil => rw [findAll_nil, List.nil_append, List.nil_append]
  | cons c cs ih =>
    cases c with
    | element e => rw [List.cons_append, findAll_element, findAll_element, ih, List.append_assoc]
    | text s => rw [List.cons_append, findAll_text, findAll_text, ih]

theorem findAll_flatMap {α : Type} (f : α → List Node) (as : List α) (n : String) :
    findAll (as.flatMap f) n = as.flatMap fun a => findAll (f a) n := by
  induction as with
  | nil => exact findAll_nil n
  | cons a as ih => rw [List.flatMap_cons, findAll_append, ih, List.flatMap_cons]

end Node

namespace Element

/-- A search finds the root, if it has the name, and then what is below. -/
theorem findAll_eq (e : Element) (n : String) :
    e.findAll n = (if e.name = n then [e] else []) ++ Node.findAll e.children n := by
  obtain ⟨name, attributes, children⟩ := e
  by_cases h : name = n
  · simp [findAll, Node.findAll, descendants, h]
  · simp [findAll, Node.findAll, descendants, h]

theorem findAll_of_name_ne {e : Element} {n : String} (h : n ≠ e.name) :
    e.findAll n = Node.findAll e.children n := by
  rw [findAll_eq, if_neg (Ne.symm h), List.nil_append]

theorem findAll_of_name_eq {e : Element} {n : String} (h : e.name = n) :
    e.findAll n = e :: Node.findAll e.children n := by
  rw [findAll_eq, if_pos h, List.singleton_append]

end Element

/-- Children of which none has anything to be found. -/
theorem Node.findAll_eq_nil {cs : List Node} {n : String}
    (h : ∀ e, .element e ∈ cs → e.findAll n = []) : findAll cs n = [] := by
  induction cs with
  | nil => exact findAll_nil n
  | cons c cs ih =>
    have later : findAll cs n = [] := ih fun e he => h e (List.mem_cons_of_mem c he)
    cases c with
    | element e => rw [findAll_element, h e List.mem_cons_self, later, List.append_nil]
    | text s => rw [findAll_text, later]

end VoiceDialogue
