/-
VoiceDialogue/Proofs/Compile/OwnLog.lean

What a compilation logs itself.

Adapters log what they like, and it is told from what the compilation logs by
muting them (`Turn.muted`, `Compiler.ownLog`).  Muting changes neither the
result nor the state (`Compiler.outcome_compile_muted`) and leaves a part of the
log (`Compiler.sublist_ownLog`).

A turn logs its start, its calls, its failure if there is one, and otherwise
that it is complete (`log_compile_muted`).  A compiler takes over what a turn
logs; if the turn compiles, it adds its calls and its failure if there is one,
and never a completion (`Compiler.ownLog_eq`).
-/
import VoiceDialogue.Proofs.Adapter.Muted
import VoiceDialogue.Proofs.Compile.Outcome

namespace VoiceDialogue

variable {σ : Type}

/-! ### Muting -/

/-- A turn whose adapters log nothing. -/
def Turn.muted (t : Turn σ) : Turn σ := { t with adapters := t.adapters.map Handle.muted }

/-- A compiler whose adapters log nothing. -/
def Compiler.muted (c : Compiler σ) : Compiler σ where
  platform := c.platform
  pipeline := .ofList (c.pipeline.handles.map Handle.muted)

/-- What a compiler logs itself when it compiles a turn. -/
def Compiler.ownLog (c : Compiler σ) (t : Turn σ) (s : σ) : List Event :=
  (c.muted.compile t.muted s).log

/-- A run of muted adapters comes to the same. -/
theorem Pipeline.outcome_runAll_muted (turn : String) (hs : List (Handle σ)) (d : Document)
    (s : σ) : (runAll (hs.map Handle.muted) d s).outcome turn = (runAll hs d s).outcome turn := by
  -- a verdict does not look at the log
  show (runAll (hs.map Handle.muted) d s).silent.outcome turn = (runAll hs d s).silent.outcome turn
  rw [runAll, runAll, silent_runFrom_muted]

/-- A compilation with muted adapters comes to the same. -/
theorem outcome_compile_muted (p : Platform) (t : Turn σ) (s : σ) :
    (compile p t.muted s).outcome = (compile p t s).outcome := by
  cases h : Render.document p t.payload with
  | error o =>
    rw [outcome_compile_of_error s h, outcome_compile_of_error (t := t.muted) s h]
    rfl
  | ok d =>
    rw [outcome_compile_of_ok s h, outcome_compile_of_ok (t := t.muted) s h]
    exact Pipeline.outcome_runAll_muted t.name t.adapters d s

theorem result_compile_muted (p : Platform) (t : Turn σ) (s : σ) :
    (compile p t.muted s).result = (compile p t s).result :=
  congrArg Prod.fst (outcome_compile_muted p t s)

theorem state_compile_muted (p : Platform) (t : Turn σ) (s : σ) :
    (compile p t.muted s).state = (compile p t s).state :=
  congrArg Prod.snd (outcome_compile_muted p t s)

theorem Compiler.outcome_compile_muted (c : Compiler σ) (t : Turn σ) (s : σ) :
    (c.muted.compile t.muted s).outcome = (c.compile t s).outcome := by
  have own : (VoiceDialogue.compile c.muted.platform t.muted s).result =
      (VoiceDialogue.compile c.platform t s).result := result_compile_muted c.platform t s
  cases h : (VoiceDialogue.compile c.platform t s).result with
  | error e =>
    rw [outcome_compile_of_error h, outcome_compile_of_error (own.trans h)]
    exact VoiceDialogue.outcome_compile_muted c.platform t s
  | ok d =>
    have state : (VoiceDialogue.compile c.muted.platform t.muted s).state =
      (VoiceDialogue.compile c.platform t s).state := state_compile_muted c.platform t s
    rw [outcome_compile_of_ok h, outcome_compile_of_ok (own.trans h), state]
    exact Pipeline.outcome_runAll_muted t.name c.pipeline.handles d _

/-! ### Logs -/

namespace Event

/-- What is logged of a result that blames the document. -/
def objection : Except CompileError Document → List Event
  | .error ⟨turn, .obstacle o⟩ => [.renderFailed turn o]
  | _ => []

/-- What is logged of a result that is a document. -/
def completion (turn : String) : Except CompileError Document → List Event
  | .ok d => [.renderComplete turn d.root.descendants.length]
  | .error _ => []

end Event

section

variable {p : Platform} {t : Turn σ}

/-- A turn that cannot be rendered starts and fails. -/
theorem log_compile_of_error {o : Obstacle} (s : σ) (h : Render.document p t.payload = .error o) :
    (compile p t s).log =
      [.renderStart t.name t.payload.typeName t.adapters.length, .renderFailed t.name o] := by
  simp only [compile, h]
  rfl

/-- A turn that can be rendered starts, its adapters run, and the result is
told unless an adapter failed, which the run has told. -/
theorem log_compile_of_ok {d : Document} (s : σ) (h : Render.document p t.payload = .ok d) :
    (compile p t s).log =
      .renderStart t.name t.payload.typeName t.adapters.length ::
        ((Pipeline.runAll t.adapters d s).log ++ Event.objection (compile p t s).result) ++
        Event.completion t.name (compile p t s).result := by
  rw [result_compile_of_ok s h]
  simp only [compile, h]
  -- a failure, an objection and a document each have an end of their own
  generalize Pipeline.runAll t.adapters d s = r
  cases hf : r.failure with
  | some e =>
    rw [Passage.verdict_of_failure hf]
    simp [Compilation.abandoned, Event.objection, Event.completion]
  | none =>
    cases hc : r.document.firstInvalid? with
    | some x =>
      rw [Passage.verdict_of_forbidden hf hc]
      simp [Compilation.obstructed, Event.objection, Event.completion]
    | none =>
      rw [Passage.verdict_of_carriable hf hc]
      simp [Event.objection, Event.completion, Element.size]

namespace Compiler

variable {c : Compiler σ} {s : σ}

/-- Of a turn that does not compile, a compiler logs nothing more. -/
theorem log_compile_of_error {e : CompileError}
    (h : (VoiceDialogue.compile c.platform t s).result = .error e) :
    (c.compile t s).log = (VoiceDialogue.compile c.platform t s).log := by
  simp only [compile, h]

/-- Otherwise its own adapters run, and of the result an objection is told. -/
theorem log_compile_of_ok {d : Document}
    (h : (VoiceDialogue.compile c.platform t s).result = .ok d) :
    (c.compile t s).log = (VoiceDialogue.compile c.platform t s).log ++
      ((c.pipeline.run d (VoiceDialogue.compile c.platform t s).state).log ++
        Event.objection (c.compile t s).result) := by
  rw [result_compile_of_ok h]
  simp only [compile, h]
  generalize c.pipeline.run d (VoiceDialogue.compile c.platform t s).state = r
  cases hf : r.failure with
  | some e =>
    rw [Passage.verdict_of_failure hf]
    simp [Compilation.abandoned, Event.objection]
  | none =>
    cases hc : r.document.firstInvalid? with
    | some x =>
      rw [Passage.verdict_of_forbidden hf hc]
      simp [Compilation.obstructed, Event.objection]
    | none =>
      rw [Passage.verdict_of_carriable hf hc]
      simp [Event.objection]

end Compiler

end

/-! ### Own logs -/

section

variable {c : Compiler σ} {p : Platform} {t : Turn σ} {s : σ}

/-- A turn that can be rendered, with its adapters muted. -/
theorem log_compile_muted_of_ok {d : Document} (s : σ)
    (h : Render.document p t.payload = .ok d) :
    (compile p t.muted s).log =
      .renderStart t.name t.payload.typeName t.adapters.length ::
        ((Pipeline.runAll (t.adapters.map Handle.muted) d s).log ++
          Event.objection (compile p t s).result) ++
        Event.completion t.name (compile p t s).result := by
  have log := log_compile_of_ok (t := t.muted) s h
  rw [result_compile_muted, Turn.muted, List.length_map] at log
  exact log

/-- A turn that cannot be rendered has no adapter to mute. -/
theorem log_compile_muted_of_error {o : Obstacle} (s : σ)
    (h : Render.document p t.payload = .error o) :
    (compile p t.muted s).log = (compile p t s).log := by
  have log := log_compile_of_error (t := t.muted) s h
  rw [Turn.muted, List.length_map] at log
  exact log.trans (log_compile_of_error s h).symm

/-- A turn that does not compile leaves the log to itself. -/
theorem Compiler.ownLog_of_error {e : CompileError}
    (h : (VoiceDialogue.compile c.platform t s).result = .error e) :
    c.ownLog t s = (VoiceDialogue.compile c.platform t.muted s).log :=
  log_compile_of_error (c := c.muted) ((result_compile_muted c.platform t s).trans h)

/-- Otherwise the compiler adds its calls and its objection. -/
theorem Compiler.ownLog_of_ok {d : Document}
    (h : (VoiceDialogue.compile c.platform t s).result = .ok d) :
    c.ownLog t s = (VoiceDialogue.compile c.platform t.muted s).log ++
      ((Pipeline.runAll (c.pipeline.handles.map Handle.muted) d
          (VoiceDialogue.compile c.platform t s).state).log ++
        Event.objection (c.compile t s).result) := by
  have log := log_compile_of_ok (c := c.muted) ((result_compile_muted c.platform t s).trans h)
  -- the run starts from the same state, and the objection is to the same result
  have state : (VoiceDialogue.compile c.muted.platform t.muted s).state =
    (VoiceDialogue.compile c.platform t s).state := state_compile_muted c.platform t s
  have result : (c.muted.compile t.muted s).result = (c.compile t s).result :=
    congrArg Prod.fst (c.outcome_compile_muted t s)
  rw [state, result] at log
  exact log

end

/-- What a turn logs itself is part of its log. -/
theorem sublist_log_compile_muted (p : Platform) (t : Turn σ) (s : σ) :
    (compile p t.muted s).log.Sublist (compile p t s).log := by
  cases h : Render.document p t.payload with
  | error o =>
    have same := log_compile_muted_of_error s h
    exact same ▸ List.Sublist.refl _
  | ok d =>
    rw [log_compile_muted_of_ok s h, log_compile_of_ok s h]
    have run := Pipeline.sublist_log_muted 0 t.adapters d s
    exact ((run.append_right _).cons_cons _).append_right _

/-- What a compiler logs itself is part of its log. -/
theorem Compiler.sublist_ownLog (c : Compiler σ) (t : Turn σ) (s : σ) :
    (c.ownLog t s).Sublist (c.compile t s).log := by
  have turn := sublist_log_compile_muted c.platform t s
  cases h : (VoiceDialogue.compile c.platform t s).result with
  | error e =>
    rw [ownLog_of_error h, log_compile_of_error h]
    exact turn
  | ok d =>
    rw [ownLog_of_ok h, log_compile_of_ok h]
    have run := Pipeline.sublist_log_muted 0 c.pipeline.handles d
      (VoiceDialogue.compile c.platform t s).state
    exact turn.append (run.append_right _)

/-! ### Failures -/

/-- How a failure is told: by one event, of an adapter or of the turn.  Of a
document nothing is told. -/
inductive TellsFailure (turn : String) : Except CompileError Document → List Event → Prop
  | document (d : Document) : TellsFailure turn (.ok d) []
  | adapter (e : AdapterError) (a : String) (i : Nat) :
      TellsFailure turn (.error ⟨turn, .adapter e⟩) [.adapterFailed a i e]
  | obstacle (o : Obstacle) :
      TellsFailure turn (.error ⟨turn, .obstacle o⟩) [.renderFailed turn o]

/-- A run and the objection to its verdict tell why that is an error. -/
theorem Passage.tellsFailure {turn : String} {r : Passage σ} {closing : List Event}
    (h : Pipeline.ClosesRun r.failure closing) :
    TellsFailure turn (r.verdict turn) (closing ++ Event.objection (r.verdict turn)) := by
  cases hf : r.failure with
  | some e =>
    rw [hf] at h
    obtain ⟨a, i, rfl⟩ := h
    -- the run has told it, and there is no objection
    rw [verdict_of_failure hf]
    exact .adapter e a i
  | none =>
    rw [hf] at h
    -- the run has told nothing, so an objection is all there is
    obtain rfl : closing = [] := h
    cases hc : r.document.firstInvalid? with
    | some x =>
      rw [verdict_of_forbidden hf hc]
      exact .obstacle _
    | none =>
      rw [verdict_of_carriable hf hc]
      exact .document _

/-- What a run of muted adapters and the objection add to a log: calls, and the
failure. -/
theorem Pipeline.log_runAll_muted (turn : String) (hs : List (Handle σ)) (d : Document) (s : σ) :
    ∃ calls failure,
      (runAll (hs.map Handle.muted) d s).log ++ Event.objection ((runAll hs d s).verdict turn) =
        calls ++ failure ∧
      (∀ x ∈ calls, IsCall x) ∧ (calls = [] ↔ hs = []) ∧
      TellsFailure turn ((runAll hs d s).verdict turn) failure := by
  obtain ⟨calls, closing, log, call, none_iff, closes⟩ := log_muted 0 hs d s
  refine ⟨calls, closing ++ _, ?_, call, none_iff, Passage.tellsFailure closes⟩
  rw [runAll, log, List.append_assoc]

/-- A turn logs itself its start, its calls, its failure, and its completion. -/
theorem log_compile_muted (p : Platform) (t : Turn σ) (s : σ) :
    ∃ calls failure, (compile p t.muted s).log =
        .renderStart t.name t.payload.typeName t.adapters.length :: (calls ++ failure) ++
          Event.completion t.name (compile p t s).result ∧
      (∀ x ∈ calls, Pipeline.IsCall x) ∧
      TellsFailure t.name (compile p t s).result failure := by
  cases h : Render.document p t.payload with
  | error o =>
    rw [log_compile_muted_of_error s h, log_compile_of_error s h, result_compile_of_error s h]
    exact ⟨[], _, rfl, nofun, .obstacle o⟩
  | ok d =>
    obtain ⟨calls, failure, log, call, -, tells⟩ :=
      Pipeline.log_runAll_muted t.name t.adapters d s
    rw [← result_compile_of_ok s h] at log tells
    refine ⟨calls, failure, ?_, call, tells⟩
    rw [log_compile_muted_of_ok s h, log]

/-- A compiler adds to the log of a turn that compiles its calls and its
failure, but no completion. -/
theorem Compiler.ownLog_eq {c : Compiler σ} {t : Turn σ} {s : σ} {d : Document}
    (h : (VoiceDialogue.compile c.platform t s).result = .ok d) :
    ∃ calls failure, c.ownLog t s =
        (VoiceDialogue.compile c.platform t.muted s).log ++ (calls ++ failure) ∧
      (∀ x ∈ calls, Pipeline.IsCall x) ∧ (calls = [] ↔ c.pipeline.handles = []) ∧
      TellsFailure t.name (c.compile t s).result failure := by
  have result : (c.compile t s).result = (Pipeline.runAll c.pipeline.handles d
      (VoiceDialogue.compile c.platform t s).state).verdict t.name := result_compile_of_ok h
  obtain ⟨calls, failure, log, call, none_iff, tells⟩ :=
    Pipeline.log_runAll_muted t.name c.pipeline.handles d
      (VoiceDialogue.compile c.platform t s).state
  rw [← result] at log tells
  refine ⟨calls, failure, ?_, call, none_iff, tells⟩
  rw [ownLog_of_ok h, log]

end VoiceDialogue
