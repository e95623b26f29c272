/-
VoiceDialogue/Proofs/Conventions/Overrides.lean

Partial configurations.

A configuration may name some of the conventions and leave the others at their
defaults.  Loading one ends in one of three ways (`load_cases`): its members
are not accepted and the text is unreadable; they are accepted, but a name is
empty; or the conventions are settled, each with the name that the members
give it or with its default.  Which of the three, and which empty name is
reported, is a matter of the members as a set and not of their order in the
text (`load_overrides_exactly`).
-/
import VoiceDialogue.Proofs.Conventions.Reading
import VoiceDialogue.Proofs.Json.Writing

namespace VoiceDialogue

namespace Conventions

open Json (IsText)

/-! ### From decoded to settled -/

section

variable {text : String} {names : Conventions}

theorem load_of_valid (decoded : decode text = .ok names) (valid : names.validate = .ok ()) :
    load text = .ok ⟨names, valid⟩ := by
  rw [load, decoded]
  simp only [SettledConventions.ofConventions_of_ok valid]

theorem load_of_invalid (decoded : decode text = .ok names) {e : ConventionError}
    (invalid : names.validate = .error e) : load text = .error (.invalid e) := by
  rw [load, decoded]
  simp only [SettledConventions.ofConventions_of_error invalid]

theorem load_of_unreadable {f : Json.Fault} (unreadable : decode text = .error f) :
    load text = .error (.unreadable f) := by
  rw [load, unreadable]

end

/-! ### Objects -/

variable {text : String} {members : List (String × Json)}

/-- The three ways in which loading the text of an object can end. -/
theorem load_cases (h : IsText text (.obj members)) :
    (¬ Accepted Convention.all members ∧ ∃ f, load text = .error (.unreadable f)) ∨
      (Accepted Convention.all members ∧
        ∃ s, load text = .ok s ∧ ∀ c, s.names.get c = configured {} members c) ∨
      (Accepted Convention.all members ∧
        ∃ c, load text = .error (.invalid (.empty c)) ∧
          Convention.byImportance.find? (fun d => configured {} members d = some "") = some c) := by
  by_cases accepted : Accepted Convention.all members
  · obtain ⟨names, decoded, answers⟩ := decode_of_accepted h accepted
    rcases outcome : names.validate with ⟨⟨c⟩⟩ | ⟨⟩
    · refine .inr (.inr ⟨accepted, c, load_of_invalid decoded outcome, ?_⟩)
      rw [← (validate_eq_error_iff names c).1 outcome]
      simp only [answers]
    · exact .inr (.inl ⟨accepted, _, load_of_valid decoded outcome, answers⟩)
  · obtain ⟨f, unreadable⟩ := decode_of_refused h accepted
    exact .inl ⟨accepted, f, load_of_unreadable unreadable⟩

/-- The order of accepted members does not matter. -/
theorem load_perm (h : IsText text (.obj members)) (accepted : Accepted Convention.all members)
    {text' : String} {members' : List (String × Json)} (h' : IsText text' (.obj members'))
    (same : members'.Perm members) : load text' = load text := by
  obtain ⟨names, decoded, answers⟩ := decode_of_accepted h accepted
  obtain ⟨names', decoded', answers'⟩ := decode_of_accepted h' (accepted.perm same)
  have equal : names' = names := by
    apply eq_of_get
    intro c
    rw [answers', answers, configured_perm {} accepted.distinct same]
  rw [load, load, decoded', decoded, equal]

/-- **A partial configuration overrides exactly what it names.**  The text of
an object is loaded if its members are accepted and no name that results is
empty, and every convention then has the name of its member, or the default
if it has none.  Members that are not accepted make the text unreadable.  If
they are and some name is empty, the first one is reported, in an order that
does not depend on the text; nor does it matter for the result in which order
accepted members stand. -/
theorem load_overrides_exactly (h : IsText text (.obj members)) :
    ((∃ s, load text = .ok s) ↔
        Accepted Convention.all members ∧ ∀ c, configured {} members c ≠ some "") ∧
      (∀ s, load text = .ok s → ∀ c, s.names.get c = configured {} members c) ∧
      ((∃ f, load text = .error (.unreadable f)) ↔ ¬ Accepted Convention.all members) ∧
      (∀ c, load text = .error (.invalid (.empty c)) ↔
        Accepted Convention.all members ∧
          [.scopeObject, .valueResultFunction, .transferStatusFunction, .submitTarget, .formId,
            .applicationRoot, .fetchAttemptsAttribute, .fetchAttemptTimeoutAttribute].find?
              (fun d => configured {} members d = some "") = some c) ∧
      ∀ text' members', IsText text' (.obj members') → members'.Perm members →
        Accepted Convention.all members → load text' = load text := by
  have order : [.scopeObject, .valueResultFunction, .transferStatusFunction, .submitTarget,
      .formId, .applicationRoot, .fetchAttemptsAttribute, .fetchAttemptTimeoutAttribute] =
        Convention.byImportance := rfl
  rw [order]
  -- each part is now read off the way in which loading ends
  rcases load_cases h with ⟨refused, f, loaded⟩ | ⟨accepted, s, loaded, answers⟩ |
    ⟨accepted, c, loaded, found⟩
  · simp [loaded, refused]
  · -- what was loaded is settled, so no name in it is empty
    have filled : ∀ c, configured {} members c ≠ some "" := by
      intro c
      rw [← answers c]
      exact (validate_eq_ok_iff s.names).1 s.valid c
    have none_empty : Convention.byImportance.find? (fun d => configured {} members d = some "")
        = none := by
      simpa using fun c _ => filled c
    refine ⟨?_, ?_, ?_, ?_, fun _ _ h' same _ => load_perm h accepted h' same⟩
    · simpa [loaded, accepted] using filled
    · intro s' loaded'
      rw [loaded] at loaded'
      obtain rfl := Except.ok.inj loaded'
      exact answers
    · simp [loaded, accepted]
    · simp [loaded, none_empty]
  · have empty : configured {} members c = some "" := by simpa using List.find?_some found
    refine ⟨?_, ?_, ?_, ?_, fun _ _ h' same _ => load_perm h accepted h' same⟩
    · simpa [loaded, accepted] using ⟨c, empty⟩
    · simp [loaded]
    · simp [loaded, accepted]
    · simp [loaded, accepted, found]

/-- A configuration that renames the form and does without a root document. -/
theorem load_rootless :
    ∃ s, load "\x7b\"formId\":\"main\",\"applicationRoot\":null\x7d" = .ok s ∧
      s.names = { formId := "main", applicationRoot := none } := by
  have written : IsText "\x7b\"formId\":\"main\",\"applicationRoot\":null\x7d"
      (.obj [("formId", .str "main"), ("applicationRoot", .null)]) :=
    Json.isText_text (v := .obj [("formId", .str "main"), ("applicationRoot", .null)])
      ⟨trivial, trivial, trivial, trivial⟩
  have accepted :
      Accepted Convention.all [("formId", .str "main"), ("applicationRoot", .null)] := by
    refine ⟨by decide, List.forall_mem_cons.2 ⟨?_, List.forall_mem_singleton.2 ?_⟩⟩
    · exact ⟨.formId, by decide, rfl, .inl ⟨"main", rfl⟩⟩
    · exact ⟨.applicationRoot, by decide, rfl, .inr ⟨rfl, rfl⟩⟩
  obtain ⟨loads, answers, -⟩ := load_overrides_exactly written
  obtain ⟨s, loaded⟩ := loads.2 ⟨accepted, fun c => by cases c <;> decide⟩
  refine ⟨s, loaded, eq_of_get fun c => ?_⟩
  rw [answers s loaded]
  cases c <;> rfl

end Conventions

end VoiceDialogue
