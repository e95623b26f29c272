/-
VoiceDialogue/Proofs/Turn/Outcome.lean

Outcomes and their codes.

Documents branch on the codes of the eight outcomes (`Outcome.all`), and
whoever receives a code asks for the outcome that it stands for
(`Outcome.ofCode`).  The two tables agree: a code of the list stands for the
outcome it was taken from (`ofCode_code`), any other code is remembered
(`ofCode_of_not_mem`), and no code is in the list twice (`find?_all`).
-/
import VoiceDialogue.Turn.Outcome

namespace VoiceDialogue

namespace Outcome

/-- The outcome of a code of the list is the one that has the code. -/
theorem ofCode_code {o : Outcome} (h : o ∈ all) : ofCode o.code = o := by
  simp only [all, List.mem_cons, List.not_mem_nil, or_false] at h
  rcases h with rfl | rfl | rfl | rfl | rfl | rfl | rfl | rfl <;> rfl

/-- Any other code is remembered. -/
theorem ofCode_of_not_mem {reported : String} (h : reported ∉ all.map code) :
    ofCode reported = .unknown (some reported) := by
  simp only [all, List.map_cons, List.map_nil, code, List.mem_cons, List.not_mem_nil, or_false,
    not_or] at h
  simp only [ofCode, h, if_false]

theorem code_mem_codes (o : Outcome) : o.code ∈ all.map code := by
  cases o <;> simp [all, code]

/-- The codes of the outcomes are those that nothing has to remember. -/
theorem mem_codes_iff (reported : String) :
    reported ∈ all.map code ↔ (ofCode reported).raw? = none := by
  constructor
  · intro known
    obtain ⟨o, ho, rfl⟩ := List.mem_map.1 known
    rw [ofCode_code ho]
    simp only [all, List.mem_cons, List.not_mem_nil, or_false] at ho
    rcases ho with rfl | rfl | rfl | rfl | rfl | rfl | rfl | rfl <;> rfl
  · intro forgotten
    apply Decidable.byContradiction
    intro other
    rw [ofCode_of_not_mem other] at forgotten
    cases forgotten

/-- Looking a code up among the outcomes gives what it stands for, or nothing
if no outcome has it. -/
theorem find?_all (reported : String) :
    all.find? (fun o => o.code = reported) =
      if reported ∈ all.map code then some (ofCode reported) else none := by
  split
  · next known =>
    obtain ⟨o, ho, rfl⟩ := List.mem_map.1 known
    cases found : all.find? (fun x => x.code = o.code) with
    | none =>
      have missed := List.find?_eq_none.1 found o ho
      simp at missed
    | some x =>
      -- both stand for their code, and the code is the same
      have same : x.code = o.code := by simpa using List.find?_some found
      rw [← same, ofCode_code (List.mem_of_find?_eq_some found)]
  · next other =>
    rw [List.find?_eq_none]
    intro o ho has
    have same : o.code = reported := by simpa using has
    exact other (same ▸ List.mem_map_of_mem ho)

end Outcome

end VoiceDialogue
