/-
VoiceDialogue/Proofs/Conventions/Names.lean

The eight names of a platform, one by one.

Conventions are known by what they answer for each of the eight
(`Conventions.eq_of_get`), and a replaced name changes one answer and no other.
Validation looks at the answers only, and at all of them: it passes exactly if
none is empty (`validate_eq_ok_iff`), and otherwise it reports the first empty
one in the order of importance (`validate_eq_error_iff`).
-/
import VoiceDialogue.Conventions.Basic

namespace VoiceDialogue

namespace Convention

theorem mem_all (c : Convention) : c ∈ all := by
  cases c <;> decide

theorem mem_byImportance (c : Convention) : c ∈ byImportance := by
  cases c <;> decide

theorem key_injective {c d : Convention} (h : c.key = d.key) : c = d := by
  cases c <;> cases d <;> simp [key] at h ⊢

/-- Every convention is found by its key. -/
theorem find?_key (c : Convention) : all.find? (·.key = c.key) = some c := by
  cases c <;> decide

end Convention

namespace Conventions

/-! ### Answers -/

/-- Conventions are known by their answers. -/
theorem eq_of_get {a b : Conventions} (h : ∀ c, a.get c = b.get c) : a = b := by
  have scopeObject : a.scopeObject = b.scopeObject := Option.some.inj (h .scopeObject)
  have valueResultFunction : a.valueResultFunction = b.valueResultFunction :=
    Option.some.inj (h .valueResultFunction)
  have transferStatusFunction : a.transferStatusFunction = b.transferStatusFunction :=
    Option.some.inj (h .transferStatusFunction)
  have submitTarget : a.submitTarget = b.submitTarget := Option.some.inj (h .submitTarget)
  have applicationRoot : a.applicationRoot = b.applicationRoot := h .applicationRoot
  have formId : a.formId = b.formId := Option.some.inj (h .formId)
  have attempts : a.fetchAttemptsAttribute = b.fetchAttemptsAttribute :=
    h .fetchAttemptsAttribute
  have attemptTimeout : a.fetchAttemptTimeoutAttribute = b.fetchAttemptTimeoutAttribute :=
    h .fetchAttemptTimeoutAttribute
  cases a
  cases b
  simp_all

/-- A required name always has an answer. -/
theorem isSome_get {c : Convention} (required : c.isOptional = false) (names : Conventions) :
    (names.get c).isSome := by
  cases c with
  | applicationRoot => cases required
  | fetchAttemptsAttribute => cases required
  | fetchAttemptTimeoutAttribute => cases required
  | _ => rfl

theorem get_set_self (names : Conventions) {c : Convention} {x : Option String}
    (h : c.isOptional ∨ x.isSome) : (names.set c x).get c = x := by
  cases x with
  | some s => cases c <;> rfl
  | none =>
    cases c with
    | applicationRoot => rfl
    | fetchAttemptsAttribute => rfl
    | fetchAttemptTimeoutAttribute => rfl
    | _ => simp [Convention.isOptional] at h

theorem get_set_of_ne (names : Conventions) {c d : Convention} (x : Option String) (h : d ≠ c) :
    (names.set c x).get d = names.get d := by
  cases c <;> cases d <;> first | rfl | exact absurd rfl h

/-! ### Validation -/

theorem validate_eq_error_iff (names : Conventions) (c : Convention) :
    names.validate = .error (.empty c)
      ↔ Convention.byImportance.find? (fun d => names.get d = some "") = some c := by
  rw [validate]
  cases Convention.byImportance.find? (fun d => names.get d = some "") with
  | none => simp
  | some d => simp

theorem validate_eq_ok_iff (names : Conventions) :
    names.validate = .ok () ↔ ∀ c, names.get c ≠ some "" := by
  have none_found : Convention.byImportance.find? (fun d => names.get d = some "") = none
      ↔ ∀ c, names.get c ≠ some "" := by
    simp [List.find?_eq_none, Convention.mem_byImportance]
  rw [validate, ← none_found]
  cases Convention.byImportance.find? (fun d => names.get d = some "") with
  | none => simp
  | some d => simp

end Conventions

namespace SettledConventions

theorem ofConventions_of_ok {names : Conventions} (h : names.validate = .ok ()) :
    ofConventions names = .ok ⟨names, h⟩ := by
  rw [ofConventions]
  split
  · next e h' =>
    rw [h] at h'
    cases h'
  · rfl

theorem ofConventions_of_error {names : Conventions} {e : ConventionError}
    (h : names.validate = .error e) : ofConventions names = .error e := by
  rw [ofConventions]
  split
  · next e' h' =>
    rw [h] at h'
    rw [Except.error.inj h']
  · next h' =>
    rw [h] at h'
    cases h'

end SettledConventions

end VoiceDialogue
