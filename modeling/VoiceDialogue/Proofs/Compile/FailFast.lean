/-
VoiceDialogue/Proofs/Compile/FailFast.lean

Adapters run one after the other, and the first failure is the last word.

A run over two lists is a run over the first one and, only if that succeeded, a
run over the second one on what is left (`Pipeline.runAll_append`).  A position
is called once if everything before it succeeded, and not at all otherwise; a
failing adapter ends the run with its own error and with what it made of the
document.  It does not matter how the pipeline was put together, and a
compilation passes the error on, together with the name of the turn.

Nothing is assumed about adapters.  They may change a document and then fail,
keep a state of any kind, and stand in a list more than once.
-/
import VoiceDialogue.Proofs.Compile.Calls
import VoiceDialogue.Proofs.Compile.Characters

namespace VoiceDialogue

variable {σ ρ : Type}

/-! ### Two lists -/

/-- What a run leaves if more adapters are waiting: they run only if it
succeeded, on the document and the state that it left. -/
def Passage.andThen (r : Passage σ) (hs : List (Handle σ)) : Passage σ :=
  match r.failure with
  | some _ => r
  | none => Pipeline.runAll hs r.document r.state

/-- A run over two lists is a run over the first one and then one over the
second, the positions in the log aside. -/
theorem Pipeline.runAll_append (xs ys : List (Handle σ)) (d : Document) (s : σ) :
    (runAll (xs ++ ys) d s).silent = ((runAll xs d s).andThen ys).silent := by
  cases hf : (runAll xs d s).failure with
  | some e =>
    rw [Passage.andThen, hf]
    exact congrArg Passage.silent (runFrom_append_of_failure ys hf)
  | none =>
    rw [Passage.andThen, hf]
    have more : runAll (xs ++ ys) d s = _ := runFrom_append ys hf
    rw [more]
    exact silent_runFrom _ 0 ys _ _

/-! ### Putting pipelines together -/

/-- The ways to put a pipeline together: from nothing or from a list, then one
adapter after the other, by a handle that others may share or by one of its
own, or several at once. -/
inductive Assembly (σ : Type)
  | empty
  | collect (hs : List (Handle σ))
  | add (a : Assembly σ) (h : Handle σ)
  | own (a : Assembly σ) (identity : Nat) (adapter : Adapter σ)
  | extend (a : Assembly σ) (hs : List (Handle σ))

namespace Assembly

/-- The pipeline that comes out. -/
def pipeline : Assembly σ → Pipeline σ
  | .empty => {}
  | .collect hs => .ofList hs
  | .add a h => a.pipeline.add h
  | .own a identity adapter => a.pipeline.add ⟨identity, adapter⟩
  | .extend a hs => a.pipeline.extend hs

/-- Everything that was put in, in the order in which it came. -/
def handles : Assembly σ → List (Handle σ)
  | .empty => []
  | .collect hs => hs
  | .add a h => a.handles ++ [h]
  | .own a identity adapter => a.handles ++ [⟨identity, adapter⟩]
  | .extend a hs => a.handles ++ hs

/-- A pipeline has what was put into it. -/
theorem handles_pipeline (a : Assembly σ) : a.pipeline.handles = a.handles := by
  induction a with
  | empty => rfl
  | collect hs => rfl
  | add a h ih => rw [handles, ← ih]; rfl
  | own a identity adapter ih => rw [handles, ← ih]; rfl
  | extend a hs ih => rw [handles, ← ih]; rfl

end Assembly

/-! ### Compilations -/

/-- A compilation is blamed on an adapter exactly if the turn was rendered and
the run of its adapters failed, and with the error of the run. -/
theorem result_compile_eq_adapter_iff {p : Platform} {t : Turn σ} {s : σ} {n : String}
    {e : AdapterError} :
    (compile p t s).result = .error ⟨n, .adapter e⟩ ↔
      n = t.name ∧ ∃ d, Render.document p t.payload = .ok d ∧
        (Pipeline.runAll t.adapters d s).failure = some e := by
  cases h : Render.document p t.payload with
  | error o =>
    rw [result_compile_of_error s h]
    simp
  | ok d =>
    rw [result_compile_of_ok s h, Passage.verdict_eq_adapter_iff]
    simp

/-- A compiler adds the run of its own pipeline. -/
theorem Compiler.result_compile_eq_adapter_iff {c : Compiler σ} {t : Turn σ} {s : σ} {n : String}
    {e : AdapterError} :
    (c.compile t s).result = .error ⟨n, .adapter e⟩ ↔
      (VoiceDialogue.compile c.platform t s).result = .error ⟨n, .adapter e⟩ ∨
        n = t.name ∧ ∃ d, (VoiceDialogue.compile c.platform t s).result = .ok d ∧
          (c.pipeline.run d (VoiceDialogue.compile c.platform t s).state).failure = some e := by
  cases own : (VoiceDialogue.compile c.platform t s).result with
  | error e' => rw [result_compile_of_error own]; simp
  | ok d =>
    rw [result_compile_of_ok own, Passage.verdict_eq_adapter_iff]
    simp

/-! ### Together -/

/-- Adapters are a sequence that stops at the first failure.

A run over two lists goes on with the second one only if the first one
succeeded.  A position is called exactly if it is reached, on the document that
is there, and the run ends behind the last position or with the first failure.
A pipeline runs what was put into it, in order, and a compilation that fails in
this way names the turn and the adapter's own error.  Whatever was done in a
studio, a tape has one recording for each call of its recorders, in order. -/
theorem adapters_run_until_failure :
    (∀ (xs ys : List (Handle σ)) (d : Document) (s : σ),
      (Pipeline.runAll (xs ++ ys) d s).silent = ((Pipeline.runAll xs d s).andThen ys).silent) ∧
    (∀ (hs : List (Handle σ)) (d : Document) (s : σ),
      (∀ i c, (Pipeline.calls hs d s)[i]? = some c ↔
        hs[i]? = some c.handle ∧ ∃ s', Pipeline.Reaches hs d s i c.document s') ∧
      ∀ n d' s' f, Pipeline.Ends hs d s n d' s' f ↔
        n = (Pipeline.calls hs d s).length ∧ d' = (Pipeline.runAll hs d s).document ∧
          s' = (Pipeline.runAll hs d s).state ∧ f = (Pipeline.runAll hs d s).failure) ∧
    (∀ (a : Assembly σ) (d : Document) (s : σ),
      a.pipeline.run d s = Pipeline.runAll a.handles d s) ∧
    (∀ (p : Platform) (t : Turn σ) (s : σ) (n : String) (e : AdapterError),
      (compile p t s).result = .error ⟨n, .adapter e⟩ ↔
        n = t.name ∧ ∃ d, Render.document p t.payload = .ok d ∧
          (Pipeline.runAll t.adapters d s).failure = some e) ∧
    (∀ (c : Compiler σ) (t : Turn σ) (s : σ) (n : String) (e : AdapterError),
      (c.compile t s).result = .error ⟨n, .adapter e⟩ ↔
        (compile c.platform t s).result = .error ⟨n, .adapter e⟩ ∨
          n = t.name ∧ ∃ d, (compile c.platform t s).result = .ok d ∧
            (c.pipeline.run d (compile c.platform t s).state).failure = some e) ∧
    ∀ (tape : Nat) (s : Studio ρ) (js : List (Job ρ)),
      (Job.afterAll s js).tapes.recordings tape =
        s.tapes.recordings tape ++ Job.recordedAll tape s js := by
  refine ⟨Pipeline.runAll_append, ?_, ?_, ?_, ?_, Job.recordings_afterAll⟩
  · intro hs d s
    refine ⟨fun i c => Pipeline.getElem?_calls, ?_⟩
    intro n d' s' f
    rw [Pipeline.calls_eq, List.length_map]
    exact Pipeline.ends_iff 0
  · intro a d s
    rw [Pipeline.run, a.handles_pipeline]
  · intro p t s n e
    exact result_compile_eq_adapter_iff
  · intro c t s n e
    exact Compiler.result_compile_eq_adapter_iff

end VoiceDialogue
