/-
VoiceDialogue/Proofs/Json/Canonical.lean

The canonical form of any JSON value.

Sorting takes any members, and of two with one name it keeps the later one.  So a
canonical value has sorted members all over and holds no number that the value did
not hold (`regular_canonical`), and where the members of a value are sorted to
begin with, there is nothing to do (`canonical_of_ordered`).  Read as JSON, the text
of a canonical value is that value again, so it tells which value it was
(`text_canonical_inj`).
-/
import Mathlib.Data.List.Induction
import VoiceDialogue.Proofs.Json.Writing

namespace VoiceDialogue

namespace Json

/-! ### Sorting any members -/

theorem sortMembers_concat (members : List (String × Json)) (m : String × Json) :
    sortMembers (members ++ [m]) = insertMember m.1 m.2 (sortMembers members) :=
  List.foldl_append

theorem sorted_sortMembers (members : List (String × Json)) : Sorted (sortMembers members) := by
  induction members using List.reverseRecOn with
  | nil => exact List.Pairwise.nil
  | append_singleton members m ih =>
    rw [sortMembers_concat]
    exact sorted_insertMember m.1 m.2 ih

/-- Sorting adds no member, whether names come twice or not. -/
theorem mem_of_mem_sortMembers {members : List (String × Json)} {m : String × Json}
    (h : m ∈ sortMembers members) : m ∈ members := by
  induction members using List.reverseRecOn with
  | nil => exact h
  | append_singleton members last ih =>
    rw [sortMembers_concat, mem_insertMember (sorted_sortMembers members)] at h
    rcases h with rfl | ⟨earlier, -⟩
    · exact List.mem_append_right members List.mem_cons_self
    · exact List.mem_append_left [last] (ih earlier)

/-- The greatest name comes last. -/
theorem insertMember_of_greater {name : String} (value : Json) {members : List (String × Json)}
    (h : ∀ n ∈ memberNames members, n < name) :
    insertMember name value members = members ++ [(name, value)] := by
  induction members with
  | nil => rfl
  | cons m rest ih =>
    obtain ⟨less, later⟩ := List.forall_mem_cons.1 h
    have before : ¬ name < m.1 := fun other => String.lt_irrefl _ (String.lt_trans less other)
    have same : name ≠ m.1 := fun eq => String.lt_irrefl _ (eq ▸ less)
    rw [insertMember, if_neg before, if_neg same, ih later, List.cons_append]

theorem sortMembers_of_sorted {members : List (String × Json)} (h : Sorted members) :
    sortMembers members = members := by
  induction members using List.reverseRecOn with
  | nil => rfl
  | append_singleton members m ih =>
    rw [Sorted, memberNames, List.map_append, List.pairwise_append] at h
    obtain ⟨before, -, less⟩ := h
    have greatest : ∀ n ∈ memberNames members, n < m.1 := fun n hn => less n hn _ List.mem_cons_self
    rw [sortMembers_concat, ih before, insertMember_of_greater m.2 greatest]

/-! ### Canonical values -/

mutual

/-- A canonical value has sorted members, and no numbers of its own. -/
theorem regular_canonical : (v : Json) → v.InWords → v.canonical.Regular
  | .null, words | .bool _, words | .int _, words | .float _, words | .str _, words =>
    ⟨words, trivial⟩
  | .arr items, words => ⟨⟨trivial, trivial⟩, regularIn_canonicalItems items words.2⟩
  | .obj members, words => by
    refine (everywhere_obj_iff _).2 ⟨⟨trivial, sorted_sortMembers _⟩, fun m hm => ?_⟩
    exact (everywhereOf_iff _).1 (regularOf_canonicalMembers members words.2) m
      (mem_of_mem_sortMembers hm)

theorem regularIn_canonicalItems : (items : List Json) → EverywhereIn FitsWord items →
    EverywhereIn (fun w => w.FitsWord ∧ w.SortedHere) (canonicalItems items)
  | [], _ => trivial
  | v :: rest, words => ⟨regular_canonical v words.1, regularIn_canonicalItems rest words.2⟩

theorem regularOf_canonicalMembers : (members : List (String × Json)) →
    EverywhereOf FitsWord members →
      EverywhereOf (fun w => w.FitsWord ∧ w.SortedHere) (canonicalMembers members)
  | [], _ => trivial
  | (_, v) :: rest, words => ⟨regular_canonical v words.1, regularOf_canonicalMembers rest words.2⟩

end

mutual

/-- A value whose members are sorted is canonical. -/
theorem canonical_of_ordered : (v : Json) → v.Ordered → v.canonical = v
  | .null, _ | .bool _, _ | .int _, _ | .float _, _ | .str _, _ => rfl
  | .arr items, ordered => by rw [canonical, canonicalItems_of_ordered items ordered.2]
  | .obj members, ordered => by
    rw [canonical, canonicalMembers_of_ordered members ordered.2, sortMembers_of_sorted ordered.1]

theorem canonicalItems_of_ordered : (items : List Json) → EverywhereIn SortedHere items →
    canonicalItems items = items
  | [], _ => rfl
  | v :: rest, ordered => by
    rw [canonicalItems, canonical_of_ordered v ordered.1, canonicalItems_of_ordered rest ordered.2]

theorem canonicalMembers_of_ordered : (members : List (String × Json)) →
    EverywhereOf SortedHere members → canonicalMembers members = members
  | [], _ => rfl
  | (n, v) :: rest, ordered => by
    rw [canonicalMembers, canonical_of_ordered v ordered.1,
      canonicalMembers_of_ordered rest ordered.2]

end

/-! ### Texts -/

theorem read_text_canonical {v : Json} (words : v.InWords) :
    read v.canonical.text = .ok v.canonical :=
  read_text_self (regular_canonical v words).inWords

/-- Values with different canonical forms have different texts. -/
theorem text_canonical_inj {v w : Json} (words : v.InWords) (words' : w.InWords) :
    v.canonical.text = w.canonical.text ↔ v.canonical = w.canonical := by
  constructor
  · intro same
    have back := read_text_canonical words
    rw [same, read_text_canonical words'] at back
    exact (Except.ok.inj back).symm
  · exact congrArg text

end Json

end VoiceDialogue
