/-
VoiceDialogue/Proofs/Compile/EmptyNames.lean

Empty names, seen by validation and by compiling.

Names are checked in two places: conventions when they are settled, and the
answers of a platform when a turn is compiled.  A platform need not come from
settled conventions; it can be anything that answers for the eight names.  Both
checks go through the names in the order of importance
(`Platform.firstEmpty?_eq`), so on the same names they agree
(`Platform.Answers.firstEmpty?_eq_some_iff`).

No other obstacle is an empty name, and the check of the names comes before
all others.  So a turn is refused for an empty name exactly if validation
reports that name, with whatever adapters (`names_checked_alike`).
-/
import VoiceDialogue.Proofs.Compile.OwnLog
import VoiceDialogue.Proofs.Compile.ValidTurns
import VoiceDialogue.Proofs.Conventions.Names

namespace VoiceDialogue

variable {σ : Type}

/-! ### Answers of platforms -/

/-- In words and as a key, a name differs in blanks and capitals only. -/
theorem Convention.phrase_eq_key (c : Convention) :
    c.phrase.toList.filter (· ≠ ' ') = c.key.toList.map Char.toLower := by
  cases c <;> decide

namespace Platform

/-- What a platform answers for a convention. -/
def get (p : Platform) : Convention → Option String
  | .scopeObject => some p.scopeObject
  | .valueResultFunction => some p.valueResultFunction
  | .transferStatusFunction => some p.transferStatusFunction
  | .submitTarget => some p.submitTarget
  | .applicationRoot => p.applicationRoot
  | .formId => some p.formId
  | .fetchAttemptsAttribute => p.fetchAttemptsAttribute
  | .fetchAttemptTimeoutAttribute => p.fetchAttemptTimeoutAttribute

/-- Whether a platform answers with the names of some conventions.  It may
report results in any way. -/
def Answers (p : Platform) (names : Conventions) : Prop := ∀ c, p.get c = names.get c

theorem answers_ofConventions (names : Conventions) : (ofConventions names).Answers names := by
  intro c
  cases c <;> rfl

/-- The first empty name in the order of importance. -/
theorem firstEmpty?_eq (p : Platform) :
    p.firstEmpty? = Convention.byImportance.find? (fun c => p.get c = some "") := by
  have order : Convention.byImportance = [.scopeObject, .valueResultFunction,
      .transferStatusFunction, .submitTarget, .formId, .applicationRoot, .fetchAttemptsAttribute,
      .fetchAttemptTimeoutAttribute] := rfl
  rw [order, firstEmpty?]
  simp only [List.find?_cons, List.find?_nil, get, Option.some.injEq]
  -- both sides ask the same eight questions, in the same order
  grind

namespace Answers

variable {p : Platform} {names : Conventions}

theorem firstEmpty?_eq_some_iff (h : p.Answers names) (c : Convention) :
    p.firstEmpty? = some c ↔ names.validate = .error (.empty c) := by
  rw [firstEmpty?_eq, Conventions.validate_eq_error_iff]
  simp only [h _]

theorem firstEmpty?_eq_none_iff (h : p.Answers names) :
    p.firstEmpty? = none ↔ names.validate = .ok () := by
  rw [firstEmpty?_eq, Conventions.validate_eq_ok_iff, List.find?_eq_none]
  simp [h _, Convention.mem_byImportance]

end Answers

end Platform

/-! ### Empty names among the obstacles -/

/-- A payload is refused for an empty name exactly if the platform gives one. -/
theorem Render.document_eq_emptyName_iff (p : Platform) (payload : Payload) (c : Convention) :
    document p payload = .error (.emptyName c) ↔ p.firstEmpty? = some c := by
  have other : payload.obstacle? ≠ some (.emptyName c) := fun own =>
    absurd (Payload.mem_of_obstacle? own) (by simp)
  rw [document_eq_error_iff, Option.or_eq_some_iff]
  simp [other]

/-- Only empty names are worded as empty names. -/
theorem Obstacle.exists_emptyName_of_reason {o : Obstacle} {what : String}
    (h : o.reason = "rendering context has an empty " ++ what) : ∃ c, o = .emptyName c := by
  -- three characters are enough to tell it from a recording without an expression
  have front : o.reason.toList.take 3 = ['r', 'e', 'n'] := by
    rw [h, String.toList_append]
    rfl
  cases o with
  | emptyName c => exact ⟨c, rfl⟩
  | forbidden c => exact absurd h (reason_forbidden_ne c _ (by simp))
  | _ => exact absurd front (by decide)

/-! ### Compiling -/

/-- A turn that cannot be rendered is refused at once. -/
theorem compile_of_error {p : Platform} {t : Turn σ} {o : Obstacle} (s : σ)
    (h : Render.document p t.payload = .error o) :
    compile p t s =
      ⟨.error ⟨t.name, .obstacle o⟩, s,
        [.renderStart t.name t.payload.typeName t.adapters.length, .renderFailed t.name o]⟩ := by
  rw [compile, h]
  rfl

/-- A compiler does nothing more for a turn that is refused. -/
theorem Compiler.compile_of_error {c : Compiler σ} {t : Turn σ} {s : σ} {e : CompileError}
    (h : (VoiceDialogue.compile c.platform t s).result = .error e) :
    c.compile t s = VoiceDialogue.compile c.platform t s := by
  simp only [Compiler.compile, h]

/-- A turn is refused for an empty name exactly if the platform gives one. -/
theorem result_compile_eq_emptyName_iff (p : Platform) (t : Turn σ) (s : σ) (n : String)
    (c : Convention) :
    (compile p t s).result = .error ⟨n, .obstacle (.emptyName c)⟩ ↔
      n = t.name ∧ p.firstEmpty? = some c := by
  constructor
  · intro refused
    rcases obstacle_of_compile refused with met | ⟨x, other⟩
    · -- the error names the turn, whoever looks for it
      rw [result_compile_of_error s met] at refused
      exact ⟨(CompileError.mk.inj (Except.error.inj refused)).1.symm,
        (Render.document_eq_emptyName_iff p t.payload c).1 met⟩
    · cases other
  · rintro ⟨rfl, found⟩
    exact result_compile_of_error s ((Render.document_eq_emptyName_iff p t.payload c).2 found)

/-- The adapters of a compiler change nothing about that. -/
theorem Compiler.result_compile_eq_emptyName_iff (c : Compiler σ) (t : Turn σ) (s : σ) (n : String)
    (k : Convention) :
    (c.compile t s).result = .error ⟨n, .obstacle (.emptyName k)⟩ ↔
      n = t.name ∧ c.platform.firstEmpty? = some k := by
  rw [← VoiceDialogue.result_compile_eq_emptyName_iff c.platform t s n k]
  constructor
  · intro refused
    rcases Compiler.obstacle_of_compile refused with met | ⟨x, other⟩
    · rwa [Compiler.compile_of_error (VoiceDialogue.result_compile_of_error s met)] at refused
    · cases other
  · intro refused
    rw [Compiler.compile_of_error refused, refused]

/-- A compilation that is refused for an empty name calls no adapter. -/
theorem calls_of_emptyName {c : Compiler σ} {k : Convention}
    (found : c.platform.firstEmpty? = some k) (t : Turn σ) (s : σ) :
    t.calls c.platform s = [] ∧ (c.watched.compile t.watched ⟨s, []⟩).state.calls = [] := by
  have refused : Render.document c.platform t.payload = .error (.emptyName k) :=
    (Render.document_eq_emptyName_iff c.platform t.payload k).2 found
  have watched : compile c.platform t.watched ⟨s, []⟩ = ⟨_, ⟨s, []⟩, _⟩ :=
    compile_of_error (t := t.watched) ⟨s, []⟩ refused
  refine ⟨t.calls_of_error s refused, ?_⟩
  rw [Compiler.compile_of_error (c := c.watched) (congrArg Compilation.result watched)]
  exact congrArg (fun r => r.state.calls) watched

/-! ### Together -/

/-- **Names are checked alike.**  Let a platform answer with some names, valid
or not.  It passes the check of a compilation exactly if validation accepts the
names, and otherwise both report the same name.  A turn of any kind, with any
adapters, is refused for an empty name exactly if validation reports that name,
and then nothing was done: no adapter was called, neither the turn's nor the
compiler's, and the state is as it was.  So with settled conventions no turn is
ever refused in the words for an empty name. -/
theorem names_checked_alike :
    (∀ (names : Conventions) (p : Platform), p.Answers names →
      (p.firstEmpty? = none ↔ names.validate = .ok ()) ∧
      (∀ k, p.firstEmpty? = some k ↔ names.validate = .error (.empty k)) ∧
      ∀ (c : Compiler σ) (t : Turn σ) (s : σ), c.platform = p →
        (∀ n k, (compile p t s).result = .error ⟨n, .obstacle (.emptyName k)⟩ ↔
          n = t.name ∧ names.validate = .error (.empty k)) ∧
        (∀ n k, (c.compile t s).result = .error ⟨n, .obstacle (.emptyName k)⟩ ↔
          n = t.name ∧ names.validate = .error (.empty k)) ∧
        ∀ k, names.validate = .error (.empty k) →
          compile p t s =
            ⟨.error ⟨t.name, .obstacle (.emptyName k)⟩, s,
              [.renderStart t.name t.payload.typeName t.adapters.length,
                .renderFailed t.name (.emptyName k)]⟩ ∧
          c.compile t s = compile p t s ∧ t.calls p s = [] ∧
          (c.watched.compile t.watched ⟨s, []⟩).state.calls = []) ∧
    (∀ k : Convention, (ConventionError.empty k).message =
        "render configuration: " ++ k.key ++ " must not be empty" ∧
      (Obstacle.emptyName k).reason = "rendering context has an empty " ++ k.phrase ∧
      k.phrase.toList.filter (· ≠ ' ') = k.key.toList.map Char.toLower) ∧
    ∀ (settled : SettledConventions), settled.platform.Answers settled.names ∧
      ∀ (c : Compiler σ) (t : Turn σ) (s : σ) (n : String) (o : Obstacle) (what : String),
        c.platform = settled.platform →
        (compile settled.platform t s).result = .error ⟨n, .obstacle o⟩ ∨
          (c.compile t s).result = .error ⟨n, .obstacle o⟩ →
        o.reason ≠ "rendering context has an empty " ++ what := by
  refine ⟨?_, fun k => ⟨rfl, rfl, k.phrase_eq_key⟩, ?_⟩
  · intro names p answers
    refine ⟨answers.firstEmpty?_eq_none_iff, answers.firstEmpty?_eq_some_iff, ?_⟩
    rintro c t s rfl
    refine ⟨?_, ?_, ?_⟩
    · intro n k
      rw [result_compile_eq_emptyName_iff, answers.firstEmpty?_eq_some_iff]
    · intro n k
      rw [Compiler.result_compile_eq_emptyName_iff, answers.firstEmpty?_eq_some_iff]
    · intro k invalid
      have found : c.platform.firstEmpty? = some k := (answers.firstEmpty?_eq_some_iff k).2 invalid
      have refused := compile_of_error s
        ((Render.document_eq_emptyName_iff c.platform t.payload k).2 found)
      exact ⟨refused, Compiler.compile_of_error (congrArg Compilation.result refused),
        calls_of_emptyName found t s⟩
  · -- the words give away the obstacle, and settled names do not have it
    intro settled
    have answers : settled.platform.Answers settled.names :=
      Platform.answers_ofConventions settled.names
    have passed : settled.platform.firstEmpty? = none :=
      answers.firstEmpty?_eq_none_iff.2 settled.valid
    refine ⟨answers, ?_⟩
    intro c t s n o what platform refused worded
    obtain ⟨k, rfl⟩ := Obstacle.exists_emptyName_of_reason worded
    have found : settled.platform.firstEmpty? = some k := by
      rcases refused with refused | refused
      · exact ((result_compile_eq_emptyName_iff settled.platform t s n k).1 refused).2
      · rw [← platform]
        exact ((c.result_compile_eq_emptyName_iff t s n k).1 refused).2
    rw [passed] at found
    cases found

end VoiceDialogue
