/-
VoiceDialogue/Proofs/Conventions/Saved.lean

Saved configurations.

Conventions are saved as an object in which each of them has a member, null
where there is no name.  So nothing is left to the defaults, and whatever text
that object is written as, decoding it gives the conventions back
(`decode_saved`), valid or not.  Validation then finds what it would have
found before, and settled conventions are loaded as they were
(`saved_loads_back`).
-/
import VoiceDialogue.Proofs.Conventions.Overrides

namespace VoiceDialogue

namespace Conventions

open Json (IsText)

/-- The members that conventions are saved as. -/
def members (names : Conventions) : List (String × Json) :=
  Convention.all.map fun c => (c.key, Json.ofOption .str (names.get c))

theorem toJson_eq (names : Conventions) : names.toJson = .obj names.members := rfl

theorem distinct_members (names : Conventions) : (Json.memberNames names.members).Nodup := by
  have keys : Json.memberNames names.members = Convention.all.map Convention.key := by
    rw [Json.memberNames, members, List.map_map]
    rfl
  rw [keys]
  decide

theorem inWords_toJson (names : Conventions) : names.toJson.InWords := by
  rw [toJson_eq, Json.InWords, Json.everywhere_obj_iff]
  refine ⟨trivial, ?_⟩
  intro m hm
  obtain ⟨c, -, rfl⟩ := List.mem_map.1 hm
  cases names.get c with
  | none => exact trivial
  | some s => exact trivial

/-- Conventions can be read as they are saved. -/
theorem accepted_members (names : Conventions) : Accepted Convention.all names.members := by
  refine ⟨names.distinct_members, ?_⟩
  intro m hm
  obtain ⟨c, hc, rfl⟩ := List.mem_map.1 hm
  refine ⟨c, hc, rfl, ?_⟩
  cases given : names.get c with
  | some s => exact .inl ⟨s, rfl⟩
  | none =>
    cases required : c.isOptional with
    | true => exact .inr ⟨required, rfl⟩
    | false =>
      -- a required name is never null
      have present := isSome_get required names
      rw [given] at present
      cases present

/-- Every convention is configured by its own member, and no default counts. -/
theorem configured_members (names : Conventions) (c : Convention) :
    configured {} names.members c = names.get c := by
  have saved : (c.key, Json.ofOption .str (names.get c)) ∈ names.members :=
    List.mem_map_of_mem (Convention.mem_all c)
  rw [configured, Json.lookup_of_mem names.distinct_members saved]
  cases names.get c with
  | none => rfl
  | some s => rfl

/-- However the saved object is written, it is decoded to what was saved. -/
theorem decode_saved {names : Conventions} {text : String} (h : IsText text names.toJson) :
    decode text = .ok names := by
  obtain ⟨names', decoded, answers⟩ := decode_of_accepted h names.accepted_members
  have same : names' = names := eq_of_get fun c => (answers c).trans (names.configured_members c)
  rw [decoded, same]

/-- **Saved configurations load back.**  The text that conventions are saved
as stands for their members, and whatever text does is decoded to them, valid
or not.  Loading such a text ends as settling the conventions at once does: if
they validate they are loaded, and otherwise the same error is reported.  So
settled conventions are loaded as they were. -/
theorem saved_loads_back (names : Conventions) :
    IsText names.toJson.text names.toJson ∧
      ∀ text, IsText text names.toJson →
        decode text = .ok names ∧
          load text = (SettledConventions.ofConventions names).mapError .invalid ∧
          (∀ valid : names.validate = .ok (), load text = .ok ⟨names, valid⟩) ∧
          (∀ e, names.validate = .error e → load text = .error (.invalid e)) ∧
          ∀ s : SettledConventions, s.names = names → load text = .ok s := by
  refine ⟨Json.isText_text names.inWords_toJson, ?_⟩
  intro text h
  have decoded : decode text = .ok names := decode_saved h
  refine ⟨decoded, ?_, load_of_valid decoded, fun e => load_of_invalid decoded, ?_⟩
  · cases outcome : names.validate with
    | ok _ =>
      rw [load_of_valid decoded outcome, SettledConventions.ofConventions_of_ok outcome]
      rfl
    | error e =>
      rw [load_of_invalid decoded outcome, SettledConventions.ofConventions_of_error outcome]
      rfl
  · rintro s rfl
    exact load_of_valid decoded s.valid

end Conventions

end VoiceDialogue
