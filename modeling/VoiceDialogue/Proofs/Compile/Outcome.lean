/-
VoiceDialogue/Proofs/Compile/Outcome.lean

What a compilation comes to, its log aside: a result and a state.

Compiling has two parts.  Rendering gives a document or an obstacle and needs
neither adapters nor state.  Then adapters run, and what they leave is judged:
a failure counts first, and then the search for a character that markup cannot
carry (`Passage.verdict`).  A compiler repeats the second part with its own
adapters.
-/
import VoiceDialogue.Compile
import VoiceDialogue.Proofs.Adapter.Sequence

namespace VoiceDialogue

variable {σ : Type}

/-! ### Verdicts -/

/-- The result and the state of a compilation. -/
def Compilation.outcome (c : Compilation σ) : Except CompileError Document × σ :=
  (c.result, c.state)

/-- What a run of adapters means for the turn. -/
def Passage.verdict (turn : String) (r : Passage σ) : Except CompileError Document :=
  match r.failure with
  | some e => .error ⟨turn, .adapter e⟩
  | none =>
      match r.document.firstInvalid? with
      | some c => .error ⟨turn, .obstacle (.forbidden c)⟩
      | none => .ok r.document

/-- The verdict on a run, and the state that the run left. -/
def Passage.outcome (turn : String) (r : Passage σ) : Except CompileError Document × σ :=
  (r.verdict turn, r.state)

namespace Passage

theorem verdict_of_failure {turn : String} {r : Passage σ} {e : AdapterError}
    (h : r.failure = some e) : r.verdict turn = .error ⟨turn, .adapter e⟩ := by
  rw [verdict, h]

theorem verdict_of_forbidden {turn : String} {r : Passage σ} {c : Char}
    (h : r.failure = none) (hc : r.document.firstInvalid? = some c) :
    r.verdict turn = .error ⟨turn, .obstacle (.forbidden c)⟩ := by
  rw [verdict, h]
  simp only [hc]

theorem verdict_of_carriable {turn : String} {r : Passage σ}
    (h : r.failure = none) (hc : r.document.firstInvalid? = none) :
    r.verdict turn = .ok r.document := by
  rw [verdict, h]
  simp only [hc]

/-- A run that is accepted did not fail, and left a document that can be
written. -/
theorem verdict_eq_ok_iff {turn : String} {r : Passage σ} {d : Document} :
    r.verdict turn = .ok d
      ↔ r.failure = none ∧ r.document.firstInvalid? = none ∧ r.document = d := by
  cases hf : r.failure with
  | some e => simp [verdict_of_failure hf]
  | none =>
    cases hc : r.document.firstInvalid? with
    | some c => simp [verdict_of_forbidden hf hc]
    | none => simp [verdict_of_carriable hf hc]

/-- A run is blamed on an adapter exactly if it failed, and with its error. -/
theorem verdict_eq_adapter_iff {turn n : String} {r : Passage σ} {e : AdapterError} :
    r.verdict turn = .error ⟨n, .adapter e⟩ ↔ n = turn ∧ r.failure = some e := by
  cases hf : r.failure with
  | some e' => simp [verdict_of_failure hf, eq_comm]
  | none =>
    cases hc : r.document.firstInvalid? with
    | some c => simp [verdict_of_forbidden hf hc]
    | none => simp [verdict_of_carriable hf hc]

end Passage

/-! ### Compiling -/

/-- A turn that cannot be rendered. -/
theorem outcome_compile_of_error {p : Platform} {t : Turn σ} {o : Obstacle} (s : σ)
    (h : Render.document p t.payload = .error o) :
    (compile p t s).outcome = (.error ⟨t.name, .obstacle o⟩, s) := by
  simp only [compile, h]
  rfl

/-- A turn that can be rendered: its adapters run, and a verdict follows. -/
theorem outcome_compile_of_ok {p : Platform} {t : Turn σ} {d : Document} (s : σ)
    (h : Render.document p t.payload = .ok d) :
    (compile p t s).outcome = (Pipeline.runAll t.adapters d s).outcome t.name := by
  simp only [compile, h, Passage.outcome]
  generalize Pipeline.runAll t.adapters d s = r
  cases hf : r.failure with
  | some e => rw [Passage.verdict_of_failure hf]; rfl
  | none =>
    cases hc : r.document.firstInvalid? with
    | some c => rw [Passage.verdict_of_forbidden hf hc]; rfl
    | none => rw [Passage.verdict_of_carriable hf hc]; rfl

/-- The obstacle is the result. -/
theorem result_compile_of_error {p : Platform} {t : Turn σ} {o : Obstacle} (s : σ)
    (h : Render.document p t.payload = .error o) :
    (compile p t s).result = .error ⟨t.name, .obstacle o⟩ :=
  congrArg Prod.fst (outcome_compile_of_error s h)

/-- The verdict is the result. -/
theorem result_compile_of_ok {p : Platform} {t : Turn σ} {d : Document} (s : σ)
    (h : Render.document p t.payload = .ok d) :
    (compile p t s).result = (Pipeline.runAll t.adapters d s).verdict t.name :=
  congrArg Prod.fst (outcome_compile_of_ok s h)

/-- A turn without adapters compiles to the document that is rendered, if all
characters in it can be written. -/
theorem result_compile_eq_ok_iff {t : Turn σ} (p : Platform) (s : σ) (d : Document)
    (own : t.adapters = []) :
    (compile p t s).result = .ok d
      ↔ Render.document p t.payload = .ok d ∧ d.firstInvalid? = none := by
  cases h : Render.document p t.payload with
  | error o =>
    rw [result_compile_of_error s h]
    simp
  | ok e =>
    rw [result_compile_of_ok s h, own, Passage.verdict_eq_ok_iff]
    -- no adapters: the run leaves what was rendered
    show none = none ∧ e.firstInvalid? = none ∧ e = d ↔ _
    constructor
    · rintro ⟨-, fine, rfl⟩
      exact ⟨rfl, fine⟩
    · rintro ⟨same, fine⟩
      obtain rfl := Except.ok.inj same
      exact ⟨rfl, fine, rfl⟩

namespace Compiler

/-- A compiler does nothing with a turn that does not compile. -/
theorem outcome_compile_of_error {c : Compiler σ} {t : Turn σ} {s : σ} {e : CompileError}
    (h : (VoiceDialogue.compile c.platform t s).result = .error e) :
    (c.compile t s).outcome = (VoiceDialogue.compile c.platform t s).outcome := by
  simp only [compile, h]

/-- A compiler's adapters run over a document that compiles, and a verdict
follows. -/
theorem outcome_compile_of_ok {c : Compiler σ} {t : Turn σ} {s : σ} {d : Document}
    (h : (VoiceDialogue.compile c.platform t s).result = .ok d) :
    (c.compile t s).outcome =
      (c.pipeline.run d (VoiceDialogue.compile c.platform t s).state).outcome t.name := by
  simp only [compile, h, Passage.outcome]
  generalize c.pipeline.run d (VoiceDialogue.compile c.platform t s).state = r
  cases hf : r.failure with
  | some e => rw [Passage.verdict_of_failure hf]; rfl
  | none =>
    cases hc : r.document.firstInvalid? with
    | some x => rw [Passage.verdict_of_forbidden hf hc]; rfl
    | none => rw [Passage.verdict_of_carriable hf hc]; rfl

/-- A compiler hands on the error of a turn that does not compile. -/
theorem result_compile_of_error {c : Compiler σ} {t : Turn σ} {s : σ} {e : CompileError}
    (h : (VoiceDialogue.compile c.platform t s).result = .error e) :
    (c.compile t s).result = .error e :=
  (congrArg Prod.fst (outcome_compile_of_error h)).trans h

/-- Otherwise the verdict on the run of its own adapters counts. -/
theorem result_compile_of_ok {c : Compiler σ} {t : Turn σ} {s : σ} {d : Document}
    (h : (VoiceDialogue.compile c.platform t s).result = .ok d) :
    (c.compile t s).result =
      (c.pipeline.run d (VoiceDialogue.compile c.platform t s).state).verdict t.name :=
  congrArg Prod.fst (outcome_compile_of_ok h)

end Compiler

end VoiceDialogue
