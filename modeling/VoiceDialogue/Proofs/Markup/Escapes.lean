/-
VoiceDialogue/Proofs/Markup/Escapes.lean

Escapes and references.

Every escape expands to the character that it stands for, whatever follows
it, so escaped text expands to the text.  And no escape leaves a sign that
would end a value, open a tag or be settled as a line end or a blank.
-/
import VoiceDialogue.Markup.Reader

namespace VoiceDialogue

namespace Markup

/-! ### Expanding -/

theorem expand_escapeInText (c : Char) (rest : List Char) :
    expand (escapeInText c ++ rest) = (expand rest).map (c :: ·) := by
  by_cases amp : c = '&'
  · subst amp; rfl
  by_cases lt : c = '<'
  · subst lt; rfl
  by_cases gt : c = '>'
  · subst gt; rfl
  by_cases cr : c = '\r'
  · subst cr; rfl
  simp [escapeInText, amp, lt, gt, cr, expand]

theorem expand_escapeInValue (c : Char) (rest : List Char) :
    expand (escapeInValue c ++ rest) = (expand rest).map (c :: ·) := by
  by_cases quote : c = '"'
  · subst quote; rfl
  by_cases lf : c = '\n'
  · subst lf; rfl
  by_cases tab : c = '\t'
  · subst tab; rfl
  rw [escapeInValue, if_neg quote, if_neg lf, if_neg tab, expand_escapeInText]

/-- Escaped characters expand to what they were. -/
theorem expand_flatMap {escape : Char → List Char}
    (h : ∀ c rest, expand (escape c ++ rest) = (expand rest).map (c :: ·)) (cs : List Char) :
    expand (cs.flatMap escape) = some cs := by
  induction cs with
  | nil => rfl
  | cons c cs ih => rw [List.flatMap_cons, h, ih, Option.map_some]

/-! ### What escapes leave out -/

/-- A property of the characters of a text, checked one after the other. -/
theorem of_mem_of_all {P : Char → Prop} [DecidablePred P] {cs : List Char} {d : Char}
    (h : d ∈ cs) (checked : cs.all fun c => P c) : P d :=
  of_decide_eq_true (List.all_eq_true.1 checked d h)

/-- Signs that no escape leaves in character data. -/
theorem escapeInText_plain {c d : Char} (h : d ∈ escapeInText c) :
    d ≠ '<' ∧ d ≠ '>' ∧ d ≠ '\r' := by
  unfold escapeInText at h
  split at h
  · apply of_mem_of_all h
    rfl
  split at h
  · apply of_mem_of_all h
    rfl
  split at h
  · apply of_mem_of_all h
    rfl
  split at h
  · apply of_mem_of_all h
    rfl
  · -- the character itself, which is none of the signs that have an escape
    rw [List.mem_singleton] at h
    subst h
    exact ⟨‹_›, ‹_›, ‹_›⟩

/-- Signs that no escape leaves in a value. -/
theorem escapeInValue_plain {c d : Char} (h : d ∈ escapeInValue c) :
    d ≠ '<' ∧ d ≠ '"' ∧ d ≠ '\r' ∧ plainInValue d = d := by
  unfold escapeInValue at h
  split at h
  · apply of_mem_of_all h
    rfl
  split at h
  · apply of_mem_of_all h
    rfl
  split at h
  · apply of_mem_of_all h
    rfl
  · next quote lf tab =>
    unfold escapeInText at h
    split at h
    · apply of_mem_of_all h
      rfl
    split at h
    · apply of_mem_of_all h
      rfl
    split at h
    · apply of_mem_of_all h
      rfl
    split at h
    · apply of_mem_of_all h
      rfl
    · -- the character itself, which is no blank that would be settled
      next lt _ cr =>
      rw [List.mem_singleton] at h
      subst h
      refine ⟨lt, quote, cr, ?_⟩
      simp only [plainInValue, isSpace, tab, lf, cr, decide_false, Bool.or_false,
        decide_eq_true_eq, ite_eq_right_iff]
      exact Eq.symm

/-! ### Character data -/

theorem not_mem_writeText (s : String) :
    '<' ∉ writeText s ∧ '>' ∉ writeText s ∧ '\r' ∉ writeText s := by
  refine ⟨?_, ?_, ?_⟩ <;> intro h <;> obtain ⟨c, -, h⟩ := List.mem_flatMap.1 h
  · exact (escapeInText_plain h).1 rfl
  · exact (escapeInText_plain h).2.1 rfl
  · exact (escapeInText_plain h).2.2 rfl

theorem writeText_empty : writeText "" = [] := rfl

theorem writeText_eq_nil_iff (s : String) : writeText s = [] ↔ s = "" := by
  constructor
  · intro h
    -- what escaped text expands to is the text
    have back := expand_flatMap expand_escapeInText s.toList
    rw [← writeText, h, expand, Option.some.injEq] at back
    exact String.toList_eq_nil_iff.1 back.symm
  · rintro rfl
    exact writeText_empty

theorem writeText_append (s t : String) : writeText (s ++ t) = writeText s ++ writeText t := by
  rw [writeText, String.toList_append, List.flatMap_append, writeText, writeText]

theorem holdsSectionEnd_eq_false {cs : List Char} (h : '>' ∉ cs) : holdsSectionEnd cs = false := by
  fun_induction holdsSectionEnd cs with
  | case1 => rfl
  | case2 => simp at h
  | case3 c rest _ ih => exact ih fun hr => h (List.mem_cons_of_mem c hr)

end Markup

end VoiceDialogue
