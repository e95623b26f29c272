/-
VoiceDialogue/Proofs/Compile/Completion.lean

When a compiler reports completion, and whether that is true.

A log fits a result if it reports completion exactly for a document, once, with
its number of elements and after all calls, and a failure for every error
(`Fits`).  The log of a turn always fits (`fits_compile_muted`), because
completion is reported last.

A compiler compiles the turn first and takes over what that logs.  Then its own
adapters run, and nothing more is reported if they succeed.  So it reports every
failure (`Compiler.reports_failure_iff`), but completion where the turn compiles
on its own (`Compiler.completions_ownLog`): before its adapters are called, with
the number of elements of the document that they get, and also if one of them
fails.  Its log fits exactly if it has no adapters or the turn does not compile
(`completion_fits_iff`).
-/
import VoiceDialogue.Adapter.Standard
import VoiceDialogue.Proofs.Compile.CompilerAdapters
import VoiceDialogue.Proofs.Compile.OwnLog

namespace VoiceDialogue

variable {σ : Type}

/-! ### Reports -/

/-- Whether an event reports completion. -/
def Event.isCompletion (x : Event) : Bool := x.name = "vxml.render.complete"

/-- Whether an event reports a failure. -/
def Event.isFailure (x : Event) : Bool :=
  x.name = "vxml.render.failed" || x.name = "vxml.adapter.failed"

/-- A log that tells whether a turn became a document.  Completion is reported
exactly if it did, once, with the number of elements, and no call comes after
it; and a failure is reported if it did not. -/
structure Fits (turn : String) (r : Except CompileError Document) (log : List Event) : Prop where
  completions : log.filter Event.isCompletion = Event.completion turn r
  after_calls : ∀ n k a i, ¬ [.renderComplete n k, .adapterApply a i].Sublist log
  failures : ∀ e, r = .error e → ∃ x ∈ log, x.isFailure

/-- Calls are neither. -/
theorem Pipeline.IsCall.reports_nothing {x : Event} (h : IsCall x) :
    x.isCompletion = false ∧ x.isFailure = false := by
  obtain ⟨a, i, rfl⟩ := h
  exact ⟨rfl, rfl⟩

namespace TellsFailure

variable {turn : String} {r : Except CompileError Document} {calls failure : List Event}

/-- Calls and a failure hold no completion. -/
theorem filter_isCompletion (tells : TellsFailure turn r failure)
    (call : ∀ x ∈ calls, Pipeline.IsCall x) :
    (calls ++ failure).filter Event.isCompletion = [] := by
  have none : calls.filter Event.isCompletion = [] := by
    rw [List.filter_eq_nil_iff]
    intro x hx
    rw [(call x hx).reports_nothing.1]
    exact Bool.false_ne_true
  rw [List.filter_append, none]
  cases tells <;> rfl

/-- Calls and a failure hold a failure exactly if the result is an error. -/
theorem exists_isFailure_iff (tells : TellsFailure turn r failure)
    (call : ∀ x ∈ calls, Pipeline.IsCall x) :
    (∃ x ∈ calls ++ failure, x.isFailure) ↔ ∃ e, r = .error e := by
  constructor
  · rintro ⟨x, hx, fails⟩
    rcases List.mem_append.1 hx with before | after
    · rw [(call x before).reports_nothing.2] at fails
      cases fails
    · cases tells with
      | document d => cases after
      | adapter e a i => exact ⟨_, rfl⟩
      | obstacle o => exact ⟨_, rfl⟩
  · rintro ⟨e, rfl⟩
    cases tells with
    | adapter e a i => exact ⟨_, List.mem_append_right calls List.mem_cons_self, rfl⟩
    | obstacle o => exact ⟨_, List.mem_append_right calls List.mem_cons_self, rfl⟩

end TellsFailure

section

variable (p : Platform) (t : Turn σ) (s : σ)

theorem Event.filter_completion (turn : String) (r : Except CompileError Document) :
    (completion turn r).filter isCompletion = completion turn r := by
  cases r <;> rfl

/-- A turn reports completion exactly for a document. -/
theorem completions_compile_muted :
    (compile p t.muted s).log.filter Event.isCompletion =
      Event.completion t.name (compile p t s).result := by
  obtain ⟨calls, failure, log, call, tells⟩ := log_compile_muted p t s
  rw [log, List.cons_append, List.filter_cons_of_neg Bool.false_ne_true, List.filter_append,
    tells.filter_isCompletion call, Event.filter_completion, List.nil_append]

/-- A turn reports a failure exactly for an error. -/
theorem reports_failure_compile_muted_iff :
    (∃ x ∈ (compile p t.muted s).log, x.isFailure) ↔ ∃ e, (compile p t s).result = .error e := by
  obtain ⟨calls, failure, log, call, tells⟩ := log_compile_muted p t s
  rw [log, ← tells.exists_isFailure_iff call]
  constructor
  · rintro ⟨x, hx, fails⟩
    rcases List.mem_append.1 hx with before | after
    · rcases List.mem_cons.1 before with rfl | inside
      · cases fails
      · exact ⟨x, inside, fails⟩
    · cases h : (compile p t s).result with
      | error e => rw [h] at after; cases after
      | ok d =>
        rw [h] at after
        obtain rfl := List.mem_singleton.1 after
        cases fails
  · rintro ⟨x, inside, fails⟩
    exact ⟨x, List.mem_append_left _ (List.mem_cons_of_mem _ inside), fails⟩

/-- The log of a turn fits its result. -/
theorem fits_compile_muted : Fits t.name (compile p t s).result (compile p t.muted s).log where
  completions := completions_compile_muted p t s
  after_calls := by
    intro n k a i there
    obtain ⟨calls, failure, log, call, tells⟩ := log_compile_muted p t s
    rw [log, List.sublist_append_iff] at there
    obtain ⟨early, late, both, before, after⟩ := there
    cases early with
    | nil =>
      -- the call would be part of what is said of the result
      obtain rfl : _ = late := both
      have told : .adapterApply a i ∈ Event.completion t.name (compile p t s).result :=
        after.subset (List.mem_cons_of_mem _ List.mem_cons_self)
      cases h : (compile p t s).result with
      | error e => rw [h] at told; cases told
      | ok d => rw [h] at told; cases List.mem_singleton.1 told
    | cons x rest =>
      -- completion would be reported among the calls or the failure
      obtain ⟨rfl, -⟩ := List.cons.inj both
      rcases List.mem_cons.1 (before.subset List.mem_cons_self) with same | inside
      · cases same
      · exact List.filter_eq_nil_iff.1 (tells.filter_isCompletion call) _ inside rfl
  failures := by
    intro e h
    exact (reports_failure_compile_muted_iff p t s).2 ⟨e, h⟩

end

namespace Compiler

variable (c : Compiler σ) (t : Turn σ) (s : σ)

/-- A compiler reports completion where the turn compiles on its own. -/
theorem completions_ownLog :
    (c.ownLog t s).filter Event.isCompletion =
      Event.completion t.name (VoiceDialogue.compile c.platform t s).result := by
  rw [← completions_compile_muted]
  cases h : (VoiceDialogue.compile c.platform t s).result with
  | error e => rw [ownLog_of_error h]
  | ok d =>
    obtain ⟨calls, failure, log, call, -, tells⟩ := ownLog_eq h
    rw [log, List.filter_append, tells.filter_isCompletion call, List.append_nil]

/-- A compiler reports a failure exactly for an error. -/
theorem reports_failure_iff :
    (∃ x ∈ c.ownLog t s, x.isFailure) ↔ ∃ e, (c.compile t s).result = .error e := by
  have turn := reports_failure_compile_muted_iff c.platform t s
  cases h : (VoiceDialogue.compile c.platform t s).result with
  | error e =>
    rw [ownLog_of_error h, result_compile_of_error h, ← h]
    exact turn
  | ok d =>
    obtain ⟨calls, failure, log, call, -, tells⟩ := ownLog_eq h
    rw [log, ← tells.exists_isFailure_iff call]
    constructor
    · rintro ⟨x, hx, fails⟩
      rcases List.mem_append.1 hx with own | added
      · -- the turn compiled, so its part of the log has no failure
        obtain ⟨e, error⟩ := turn.1 ⟨x, own, fails⟩
        rw [h] at error
        cases error
      · exact ⟨x, added, fails⟩
    · rintro ⟨x, added, fails⟩
      exact ⟨x, List.mem_append_right _ added, fails⟩

/-- If nothing comes after the turn, the log is that of the turn, and so is the
result. -/
theorem ownLog_of_idle
    (idle : c.pipeline.handles = [] ∨ ∀ d, (VoiceDialogue.compile c.platform t s).result ≠ .ok d) :
    c.ownLog t s = (VoiceDialogue.compile c.platform t.muted s).log ∧
      (c.compile t s).result = (VoiceDialogue.compile c.platform t s).result := by
  cases h : (VoiceDialogue.compile c.platform t s).result with
  | error e =>
    exact ⟨ownLog_of_error h, result_compile_of_error h⟩
  | ok d =>
    have nothing : c.pipeline.handles = [] := by
      rcases idle with nothing | fails
      · exact nothing
      · exact absurd h (fails d)
    have result : (c.compile t s).result = .ok d :=
      (congrArg Prod.fst (outcome_compile_of_nil t s nothing)).trans h
    obtain ⟨calls, failure, log, -, none_iff, tells⟩ := ownLog_eq h
    rw [result] at tells
    cases tells
    rw [log, none_iff.2 nothing, List.append_nil, List.append_nil]
    exact ⟨rfl, result⟩

end Compiler

/-- A compiler does not say whether a turn became a document.

Muting the adapters changes nothing but the log, and leaves a part of it: what
the compiler says itself.  It reports completion, once and with the number of
elements, for the document that the turn compiles to on its own, and a failure
exactly if its own result is an error.  This fits the result exactly if the
compiler has no adapters or the turn does not compile on its own. -/
theorem completion_fits_iff (c : Compiler σ) (t : Turn σ) (s : σ) :
    (c.muted.compile t.muted s).outcome = (c.compile t s).outcome ∧
    (c.ownLog t s).Sublist (c.compile t s).log ∧
    (c.ownLog t s).filter Event.isCompletion =
      Event.completion t.name (compile c.platform t s).result ∧
    ((∃ x ∈ c.ownLog t s, x.isFailure) ↔ ∃ e, (c.compile t s).result = .error e) ∧
    (Fits t.name (c.compile t s).result (c.ownLog t s) ↔
      c.pipeline.handles = [] ∨ ∀ d, (compile c.platform t s).result ≠ .ok d) := by
  refine ⟨c.outcome_compile_muted t s, c.sublist_ownLog t s, c.completions_ownLog t s,
    c.reports_failure_iff t s, ?_⟩
  constructor
  · intro fits
    by_cases nothing : c.pipeline.handles = []
    · exact .inl nothing
    right
    intro d h
    obtain ⟨calls, failure, log, call, none_iff, -⟩ := Compiler.ownLog_eq h
    -- the turn has reported completion, and now the first adapter is called
    have reported : .renderComplete t.name d.root.descendants.length ∈
        (compile c.platform t.muted s).log := by
      have completions := completions_compile_muted c.platform t s
      rw [h] at completions
      have one : .renderComplete t.name d.root.descendants.length ∈
          (compile c.platform t.muted s).log.filter Event.isCompletion := by
        rw [completions]
        exact List.mem_singleton_self _
      exact (List.mem_filter.1 one).1
    obtain ⟨x, rest, rfl⟩ := List.exists_cons_of_ne_nil (mt none_iff.1 nothing)
    obtain ⟨a, i, rfl⟩ := call x List.mem_cons_self
    apply fits.after_calls t.name d.root.descendants.length a i
    rw [log]
    exact (List.singleton_sublist.2 reported).append
      (List.singleton_sublist.2 List.mem_cons_self)
  · intro idle
    obtain ⟨log, result⟩ := c.ownLog_of_idle t s idle
    rw [log, result]
    exact fits_compile_muted c.platform t s

/-- A greeting that compiles, for a compiler whose only adapter gives up: it is
reported as complete, and the result is an error. -/
theorem completion_before_failure :
    let refusing : Compiler Unit :=
      { platform := SettledConventions.default.platform
        pipeline := .ofList [⟨0, .failing "boom"⟩] }
    ∃ t : Turn Unit, Turn.message "greeting" [.speech "Welcome"] = .ok t ∧
      (refusing.compile t ()).result = .error ⟨"greeting", .adapter (.failed "boom")⟩ ∧
      (refusing.compile t ()).log =
        [.renderStart "greeting" "message" 0, .renderComplete "greeting" 5,
          .adapterApply "failing" 0, .adapterFailed "failing" 0 (.failed "boom")] ∧
      refusing.ownLog t () = (refusing.compile t ()).log ∧
      ¬ Fits "greeting" (refusing.compile t ()).result (refusing.ownLog t ()) := by
  refine ⟨_, rfl, rfl, rfl, rfl, ?_⟩
  intro fits
  exact absurd fits.completions nofun

end VoiceDialogue
