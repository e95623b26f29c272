/-
VoiceDialogue/Proofs/Compile/Log.lean

The log of a compilation, and what it says about the result.

A compilation logs its start, then every call of an adapter with its position
and with what the adapter logs itself, and then one event that closes the log
(`log_compile`).  The closing event fits the result (`Closes`): a document, an
adapter's error and an obstacle each have an event of their own, so the event
can be read off the result and the result off the event.

An adapter may log anything, even what a compilation logs, since it may compile
turns of its own.  Therefore events are counted by their place: what an adapter
logs stands behind its call, and the closing event is the last one.
-/
import VoiceDialogue.Proofs.Compile.Calls

namespace VoiceDialogue

variable {σ : Type}

/-! ### The closing event -/

/-- The event that closes the log of a compilation with a result, after some
calls: an adapter's error is logged with the position of the last call. -/
inductive Closes (turn : String) (cs : List (Invocation σ)) :
    Except CompileError Document → Event → Prop
  | complete (d : Document) : Closes turn cs (.ok d) (.renderComplete turn d.root.size)
  | adapterFailed {earlier c e} :
      cs = earlier ++ [c] → c.passage.failure = some e →
      Closes turn cs (.error ⟨turn, .adapter e⟩)
        (.adapterFailed c.handle.name earlier.length e)
  | renderFailed (o : Obstacle) :
      Closes turn cs (.error ⟨turn, .obstacle o⟩) (.renderFailed turn o)

namespace Closes

variable {turn : String} {cs : List (Invocation σ)} {r : Except CompileError Document}
  {last : Event}

/-- No log that tells the course of a compilation leaves its end out. -/
theorem admits_debug (h : Closes turn cs r last) : Level.debug.admits last.level = true := by
  cases h <;> rfl

/-- The log is closed as complete exactly if there is a document, and with its
number of elements. -/
theorem eq_renderComplete_iff (h : Closes turn cs r last) {n : String} {k : Nat} :
    last = .renderComplete n k ↔
      n = turn ∧ ∃ d, r = .ok d ∧ k = d.root.descendants.length := by
  cases h with
  | complete d =>
    rw [Event.renderComplete.injEq]
    constructor
    · rintro ⟨rfl, rfl⟩
      exact ⟨rfl, d, rfl, rfl⟩
    · rintro ⟨rfl, _, same, rfl⟩
      obtain rfl := Except.ok.inj same
      exact ⟨rfl, rfl⟩
  | adapterFailed _ _ => simp
  | renderFailed o => simp

/-- The log is closed by an adapter's failure exactly if its error is the
result, and the position is that of the last call. -/
theorem eq_adapterFailed_iff (h : Closes turn cs r last) {a : String} {k : Nat}
    {e : AdapterError} :
    last = .adapterFailed a k e ↔
      r = .error ⟨turn, .adapter e⟩ ∧
        ∃ earlier c, cs = earlier ++ [c] ∧ c.handle.name = a ∧ earlier.length = k := by
  cases h with
  | complete d => simp
  | @adapterFailed earlier c e' calls failed =>
    rw [Event.adapterFailed.injEq]
    constructor
    · rintro ⟨rfl, rfl, rfl⟩
      exact ⟨rfl, earlier, c, calls, rfl, rfl⟩
    · rintro ⟨same, earlier', c', calls', rfl, rfl⟩
      -- there is only one last call
      obtain ⟨rfl, one⟩ := List.append_inj' (calls.symm.trans calls') rfl
      obtain rfl := (List.cons.inj one).1
      exact ⟨rfl, rfl, Cause.adapter.inj (CompileError.mk.inj (Except.error.inj same)).2⟩
  | renderFailed o => simp

/-- The log is closed by a failure of the turn exactly if the result is an
obstacle. -/
theorem eq_renderFailed_iff (h : Closes turn cs r last) {n : String} {o : Obstacle} :
    last = .renderFailed n o ↔ n = turn ∧ r = .error ⟨n, .obstacle o⟩ := by
  cases h with
  | complete d => simp
  | adapterFailed _ _ => simp
  | renderFailed o' =>
    rw [Event.renderFailed.injEq]
    constructor
    · rintro ⟨rfl, rfl⟩
      exact ⟨rfl, rfl⟩
    · rintro ⟨rfl, same⟩
      exact ⟨rfl, Cause.obstacle.inj (CompileError.mk.inj (Except.error.inj same)).2⟩

end Closes

/-! ### The whole log -/

/-- A log starts, has an entry for each call, and is closed by an event that
fits the result. -/
theorem log_compile (p : Platform) (t : Turn σ) (s : σ) :
    ∃ last, Closes t.name (t.invocations p s) (compile p t s).result last ∧
      (compile p t s).log =
        .renderStart t.name t.payload.typeName t.adapters.length ::
          Pipeline.entries 0 (t.invocations p s) ++ [last] := by
  cases h : Render.document p t.payload with
  | error o =>
    refine ⟨.renderFailed t.name o, ?_⟩
    simp only [compile, h, t.invocations_of_error s h]
    exact ⟨.renderFailed o, rfl⟩
  | ok d =>
    rw [t.invocations_of_ok s h]
    cases hf : (Pipeline.runAll t.adapters d s).failure with
    | some e =>
      obtain ⟨earlier, c, calls, failed, log⟩ := Pipeline.log_runFrom_of_failure hf
      refine ⟨.adapterFailed c.handle.name earlier.length e, ?_⟩
      simp only [compile, h, hf]
      refine ⟨.adapterFailed calls failed, ?_⟩
      show _ :: (Pipeline.runFrom 0 t.adapters d s).log = _
      rw [log, Nat.zero_add, List.cons_append]
    | none =>
      obtain ⟨log, -⟩ := Pipeline.log_runFrom_of_success hf
      have log : (Pipeline.runAll t.adapters d s).log = _ := log
      cases hc : (Pipeline.runAll t.adapters d s).document.firstInvalid? with
      | some c =>
        refine ⟨.renderFailed t.name (.forbidden c), ?_⟩
        simp only [compile, h, hf, hc, log]
        exact ⟨.renderFailed _, rfl⟩
      | none =>
        refine ⟨.renderComplete t.name (Pipeline.runAll t.adapters d s).document.root.size, ?_⟩
        simp only [compile, h, hf, hc, log, and_true]
        exact .complete _

/-- What a log of the level `debug` holds of calls: that they are made, and of
the adapters' own events those that the level admits. -/
theorem Level.filter_debug_entries (index : Nat) (cs : List (Invocation σ)) :
    Level.debug.filter (Pipeline.entries index cs) =
      (cs.zipIdx index).flatMap fun c =>
        .adapterApply c.1.handle.name c.2 :: Level.debug.filter c.1.passage.log := by
  rw [Pipeline.entries, Level.filter, List.filter_flatMap]
  rfl

/-! ### Obstacles -/

/-- A compilation meets an obstacle in two places: the turn cannot be rendered,
and then no adapter is called, or all adapters have been called and a character
is left that markup cannot carry. -/
theorem result_compile_eq_obstacle_iff {p : Platform} {t : Turn σ} {s : σ} {n : String}
    {o : Obstacle} :
    (compile p t s).result = .error ⟨n, .obstacle o⟩ ↔
      n = t.name ∧
        (Render.document p t.payload = .error o ∧ t.calls p s = [] ∨
          ∃ d c, Render.document p t.payload = .ok d ∧
            (t.calls p s).length = t.adapters.length ∧
            (Pipeline.runAll t.adapters d s).failure = none ∧
            (Pipeline.runAll t.adapters d s).document.firstInvalid? = some c ∧
            o = .forbidden c) := by
  cases h : Render.document p t.payload with
  | error o' =>
    rw [result_compile_of_error s h, t.calls_of_error s h]
    constructor
    · intro same
      obtain ⟨rfl, cause⟩ := CompileError.mk.inj (Except.error.inj same)
      exact ⟨rfl, .inl ⟨congrArg Except.error (Cause.obstacle.inj cause), rfl⟩⟩
    · rintro ⟨rfl, ⟨same, -⟩ | ⟨_, _, rendered, -⟩⟩
      · rw [Except.error.inj same]
      · cases rendered
  | ok d =>
    rw [result_compile_of_ok s h]
    cases hf : (Pipeline.runAll t.adapters d s).failure with
    | some e => simp [Passage.verdict_of_failure hf, hf]
    | none =>
      obtain ⟨-, all⟩ := Pipeline.log_runFrom_of_success hf
      have all : (t.calls p s).length = t.adapters.length := by
        rw [← t.map_call_invocations, List.length_map, t.invocations_of_ok s h, all]
      cases hc : (Pipeline.runAll t.adapters d s).document.firstInvalid? with
      | some c =>
        rw [Passage.verdict_of_forbidden hf hc]
        constructor
        · intro same
          obtain ⟨rfl, cause⟩ := CompileError.mk.inj (Except.error.inj same)
          exact ⟨rfl, .inr ⟨d, c, rfl, all, hf, hc, (Cause.obstacle.inj cause).symm⟩⟩
        · rintro ⟨rfl, ⟨refused, -⟩ | ⟨d', c', rendered, -, -, first, rfl⟩⟩
          · cases refused
          · obtain rfl := Except.ok.inj rendered
            obtain rfl := Option.some.inj (hc.symm.trans first)
            rfl
      | none => simp [Passage.verdict_of_carriable hf hc, hc]

/-! ### Together -/

/-- The log of a compilation matches its result.

There is a start, which tells the number of adapters; then for each call, in
order and counted from zero, that it is made and what the adapter logs; then
one closing event.  It reports completion, with the number of elements, exactly
if the result is a document; the failure of the last adapter that was called
exactly if its error is the result; and a failure of the turn exactly if the
result is an obstacle, before any adapter was called or after all were. -/
theorem log_matches_result (p : Platform) (t : Turn σ) (s : σ) :
    ∃ last : Event,
      Level.debug.filter (compile p t s).log =
        .renderStart t.name t.payload.typeName t.adapters.length ::
          ((t.invocations p s).zipIdx.flatMap fun c =>
            .adapterApply c.1.handle.name c.2 :: Level.debug.filter c.1.passage.log) ++ [last] ∧
      (t.invocations p s).map Invocation.call = t.calls p s ∧
      (∀ n k, last = .renderComplete n k ↔
        n = t.name ∧ ∃ d, (compile p t s).result = .ok d ∧ k = d.root.descendants.length) ∧
      (∀ a k e, last = .adapterFailed a k e ↔
        (compile p t s).result = .error ⟨t.name, .adapter e⟩ ∧
          ∃ earlier c, t.invocations p s = earlier ++ [c] ∧ c.handle.name = a ∧
            earlier.length = k) ∧
      (∀ n o, last = .renderFailed n o ↔
        n = t.name ∧ (compile p t s).result = .error ⟨n, .obstacle o⟩) ∧
      ∀ n o, (compile p t s).result = .error ⟨n, .obstacle o⟩ ↔
        n = t.name ∧
          (Render.document p t.payload = .error o ∧ t.calls p s = [] ∨
            ∃ d c, Render.document p t.payload = .ok d ∧
              (t.calls p s).length = t.adapters.length ∧
              (Pipeline.runAll t.adapters d s).failure = none ∧
              (Pipeline.runAll t.adapters d s).document.firstInvalid? = some c ∧
              o = .forbidden c) := by
  obtain ⟨last, closes, log⟩ := log_compile p t s
  have closing : Level.debug.filter [last] = [last] := List.filter_cons_of_pos closes.admits_debug
  refine ⟨last, ?_, t.map_call_invocations p s, ?_, ?_, ?_, ?_⟩
  · rw [log, ← Level.filter_debug_entries]
    refine (List.filter_append _ [last]).trans ?_
    show _ ++ Level.debug.filter [last] = _
    rw [closing]
    rfl
  · intro n k
    exact closes.eq_renderComplete_iff
  · intro a k e
    exact closes.eq_adapterFailed_iff
  · intro n o
    exact closes.eq_renderFailed_iff
  · intro n o
    exact result_compile_eq_obstacle_iff

end VoiceDialogue
