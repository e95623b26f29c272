/-
VoiceDialogue/Proofs/Turn/OutcomeClasses.lean

Outcomes that are equal, and how they are still told apart.

Equal outcomes are those with the same code, so there are eight classes, one
for each outcome of `Outcome.all` (`existsUnique_class`).  Seven of them have
one reported code each, and all other codes fall into the last one
(`ofCode_beq_iff`).  Hashes follow the comparison, so a hash set keeps one
outcome of each class at most (`size_ofList_le`).

The text of an outcome does not collapse: it is the reported code itself or, if
the outcome has to remember it, a text with brackets around it
(`description_ofCode`).  No code of the list has a bracket, so the reported code
can be read off the text (`description_ofCode_inj`).
-/
import Mathlib.Data.List.Nodup
import Mathlib.Data.List.Perm.Subperm
import VoiceDialogue.Proofs.Turn.Outcome

namespace VoiceDialogue

namespace Outcome

/-! ### Comparing -/

/-- Outcomes are compared by their codes. -/
theorem beq_iff {a b : Outcome} : (a == b) = true ↔ a.code = b.code := by
  show decide (a.code = b.code) = true ↔ _
  exact decide_eq_true_iff

instance : EquivBEq Outcome where
  rfl := beq_iff.2 rfl
  symm same := beq_iff.2 (beq_iff.1 same).symm
  trans first second := beq_iff.2 ((beq_iff.1 first).trans (beq_iff.1 second))

/-- Equal outcomes put the same into a hash, however it is computed, and
different ones do not. -/
theorem beq_iff_feed {a b : Outcome} :
    (a == b) = true ↔
      ∀ (η : Type) (write : η → String → η) (h : η), a.feed write h = b.feed write h := by
  rw [beq_iff]
  constructor
  · intro same η write h
    rw [feed, feed, same]
  · intro same
    -- a hash that keeps what was written last
    exact same String (fun _ text => text) ""

instance : LawfulHashable Outcome where
  hash_eq _ _ same := beq_iff_feed.1 same _ _ _

/-! ### Classes -/

/-- The codes of the outcomes other than the unknown one. -/
def knownCodes : List String :=
  ["noanswer", "near_end_disconnect", "far_end_disconnect", "network_disconnect",
    "maxtime_disconnect", "busy", "network_busy"]

theorem codes_eq : all.map code = knownCodes ++ ["unknown"] := rfl

theorem mem_codes_iff_known {reported : String} :
    reported ∈ all.map code ↔ reported ∈ knownCodes ∨ reported = "unknown" := by
  rw [codes_eq, List.mem_append, List.mem_singleton]

/-- The code of what a code stands for: the code itself, or that of the unknown
outcome. -/
theorem code_ofCode (reported : String) :
    (ofCode reported).code = if reported ∈ all.map code then reported else "unknown" := by
  split
  · next listed =>
    obtain ⟨o, ho, rfl⟩ := List.mem_map.1 listed
    rw [ofCode_code ho]
  · next other => rw [ofCode_of_not_mem other, code]

/-- The unknown outcome is where the code of the list and all other codes meet. -/
theorem code_ofCode_eq_ite (reported : String) :
    (ofCode reported).code = if reported ∈ knownCodes then reported else "unknown" := by
  rw [code_ofCode]
  by_cases known : reported ∈ knownCodes
  · rw [if_pos known, if_pos (mem_codes_iff_known.2 (.inl known))]
  · rw [if_neg known]
    split
    · next listed => exact (mem_codes_iff_known.1 listed).resolve_left known
    · rfl

/-- Two codes stand for the same if they are the same known code, or none of
them is known. -/
theorem ofCode_beq_iff (c d : String) :
    (ofCode c == ofCode d) = true ↔
      c ∈ knownCodes ∧ c = d ∨ c ∉ knownCodes ∧ d ∉ knownCodes := by
  have apart : "unknown" ∉ knownCodes := by decide
  rw [beq_iff, code_ofCode_eq_ite, code_ofCode_eq_ite]
  by_cases hc : c ∈ knownCodes
  · rw [if_pos hc]
    by_cases hd : d ∈ knownCodes
    · rw [if_pos hd]
      simp [hc]
    · rw [if_neg hd]
      have ne : c ≠ d := fun same => hd (same ▸ hc)
      have ne' : c ≠ "unknown" := fun same => apart (same ▸ hc)
      simp [hc, ne, ne']
  · rw [if_neg hc]
    by_cases hd : d ∈ knownCodes
    · rw [if_pos hd]
      have ne : "unknown" ≠ d := fun same => apart (same ▸ hd)
      simp [hc, hd, ne]
    · rw [if_neg hd]
      simp [hc, hd]

/-- The outcomes of the list are of different classes. -/
theorem nodup_codes : (all.map code).Nodup := by decide

/-- Every outcome is equal to exactly one outcome of the list. -/
theorem existsUnique_class (o : Outcome) : ∃! x, x ∈ all ∧ (o == x) = true := by
  obtain ⟨x, hx, same⟩ := List.mem_map.1 o.code_mem_codes
  refine ⟨x, ⟨hx, beq_iff.2 same.symm⟩, ?_⟩
  rintro y ⟨hy, equal⟩
  exact List.inj_on_of_nodup_map nodup_codes hy hx ((beq_iff.1 equal).symm.trans same.symm)

/-- A set of outcomes has at most one of each class. -/
theorem size_ofList_le (os : List Outcome) : (Std.HashSet.ofList os).size ≤ 8 := by
  have distinct : ((Std.HashSet.ofList os).toList.map code).Nodup := by
    rw [List.Nodup, List.pairwise_map]
    refine Std.HashSet.distinct_toList.imp ?_
    intro a b differ same
    rw [beq_iff.2 same] at differ
    cases differ
  have listed : (Std.HashSet.ofList os).toList.map code ⊆ all.map code := by
    intro c hc
    obtain ⟨o, -, rfl⟩ := List.mem_map.1 hc
    exact o.code_mem_codes
  have length := (List.subperm_of_subset distinct listed).length_le
  rw [List.length_map, Std.HashSet.length_toList] at length
  exact length

/-! ### Texts -/

/-- What a log shows for a reported code: the code itself, in brackets if it had
to be remembered. -/
theorem description_ofCode (reported : String) :
    (ofCode reported).description =
      if reported ∈ all.map code then reported else "unknown (" ++ reported ++ ")" := by
  split
  · next listed =>
    have nothing : (ofCode reported).raw? = none := (mem_codes_iff reported).1 listed
    rw [description, nothing]
    exact (code_ofCode reported).trans (if_pos listed)
  · next other => rw [ofCode_of_not_mem other, description, raw?]

/-- No code of the list has a bracket. -/
theorem bracket_not_mem_code {reported : String} (listed : reported ∈ all.map code) :
    '(' ∉ reported.toList := by
  revert reported
  decide

/-- The reported code can be read off the text. -/
theorem description_ofCode_inj (c d : String) :
    (ofCode c).description = (ofCode d).description ↔ c = d := by
  have bracket (reported : String) : '(' ∈ ("unknown (" ++ reported ++ ")").toList := by
    simp [String.toList_append]
  refine ⟨fun same => ?_, congrArg fun reported => (ofCode reported).description⟩
  rw [description_ofCode, description_ofCode] at same
  split at same
  · next hc =>
    split at same
    · exact same
    · exact absurd (same ▸ bracket d) (bracket_not_mem_code hc)
  · next hc =>
    split at same
    · next hd => exact absurd (same ▸ bracket c) (bracket_not_mem_code hd)
    · have inner := congrArg String.toList same
      simp only [String.toList_append, List.append_left_inj, List.append_right_inj] at inner
      exact String.toList_inj.1 inner

/-! ### Together -/

/-- **Reported codes collapse into eight outcomes and stay legible.**  Two codes
stand for equal outcomes exactly if they are the same known code or both are
not known.  Equality is an equivalence and agrees with that of codes, of JSON
and of what is hashed, so a set of outcomes has at most eight members, each
equal to exactly one of the list.  A code of the list is the code of what it
stands for, and no other is; but the text of an outcome tells the reported code,
whichever it was. -/
theorem codes_collapse_legibly :
    (∀ c d : String, (ofCode c == ofCode d) = true ↔
      c ∈ knownCodes ∧ c = d ∨ c ∉ knownCodes ∧ d ∉ knownCodes) ∧
    Equivalence (fun a b : Outcome => (a == b) = true) ∧
    (∀ a b : Outcome, ((a == b) = true ↔ a.code = b.code) ∧
      ((a == b) = true ↔ a.toJson = b.toJson) ∧
      ((a == b) = true ↔
        ∀ (η : Type) (write : η → String → η) (h : η), a.feed write h = b.feed write h)) ∧
    (∀ codes : List String, (Std.HashSet.ofList (codes.map ofCode)).size ≤ 8 ∧
      ∀ o ∈ Std.HashSet.ofList (codes.map ofCode), ∃! x, x ∈ all ∧ (o == x) = true) ∧
    (∀ o : Outcome, (ofCode o.code == o) = true) ∧
    (∀ c : String, (ofCode c).code = c ↔ c ∈ all.map code) ∧
    (∀ c d : String, (ofCode c).description = (ofCode d).description ↔ c = d) ∧
    ∀ c : String, (ofCode c).raw? = some c ↔ c ∉ all.map code := by
  refine ⟨ofCode_beq_iff, ?_, ?_, ?_, ?_, ?_, description_ofCode_inj, ?_⟩
  · exact ⟨BEq.refl, fun same => BEq.symm same, fun first second => BEq.trans first second⟩
  · intro a b
    refine ⟨beq_iff, ?_, beq_iff_feed⟩
    rw [beq_iff, toJson, toJson, Json.str.injEq]
  · intro codes
    exact ⟨size_ofList_le _, fun o _ => existsUnique_class o⟩
  · intro o
    rw [beq_iff, code_ofCode, if_pos o.code_mem_codes]
  · intro c
    rw [code_ofCode]
    split
    · next listed => exact iff_of_true rfl listed
    · next other =>
      refine iff_of_false ?_ other
      rintro rfl
      exact other (by decide)
  · intro c
    constructor
    · intro remembered listed
      rw [(mem_codes_iff c).1 listed] at remembered
      cases remembered
    · intro other
      rw [ofCode_of_not_mem other, raw?]

/-- A set of all sorts of reports, with all codes of the list among them. -/
theorem collapse_of_reports :
    let reports := all.map code ++ ["BUSY", "unknown (BUSY)", ""]
    (ofCode "BUSY" == ofCode "unknown (BUSY)") = true ∧
      (ofCode "BUSY").description ≠ (ofCode "unknown (BUSY)").description ∧
      ofCode "" ∈ Std.HashSet.ofList (reports.map ofCode) ∧
      ∃! x, x ∈ all ∧ (ofCode "" == x) = true := by
  obtain ⟨same, -, -, sets, -, -, legible, -⟩ := codes_collapse_legibly
  have member : ofCode "" ∈
      Std.HashSet.ofList ((all.map code ++ ["BUSY", "unknown (BUSY)", ""]).map ofCode) :=
    Std.HashSet.mem_ofList.2 (by decide)
  refine ⟨(same _ _).2 (by decide), ?_, member, (sets _).2 _ member⟩
  rw [Ne, legible]
  decide

end Outcome

end VoiceDialogue
