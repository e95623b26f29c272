/-
VoiceDialogue/Proofs/Compile/Calls.lean

What the adapters of a turn see and keep while the turn is compiled.

A turn that cannot be rendered calls no adapter and leaves the state as it is.
Otherwise its adapters run over the document that was rendered, and their calls
and their state are those of the run (`Turn.calls_of_ok`, `state_compile_of_ok`).
So a compilation is a run as far as adapters are concerned, and a recording
adapter cannot tell the two apart.  A compiler adds the calls of a second run
(`Compiler.calls_eq`).

A recorder may take part in many jobs, runs and compilations, and in each of
them more than once.  `Job.recordings_afterAll` says what is on a tape in the
end: one recording for each call of a recorder of the tape, on the document of
the call, in the order in which the calls were made.
-/
import VoiceDialogue.Proofs.Adapter.Recording
import VoiceDialogue.Proofs.Compile.CompilerAdapters

namespace VoiceDialogue

variable {σ ρ : Type}

/-! ### Compiling -/

section

variable {p : Platform} {t : Turn σ}

theorem state_compile_of_error {o : Obstacle} (s : σ)
    (h : Render.document p t.payload = .error o) : (compile p t s).state = s :=
  congrArg Prod.snd (outcome_compile_of_error s h)

theorem state_compile_of_ok {d : Document} (s : σ) (h : Render.document p t.payload = .ok d) :
    (compile p t s).state = (Pipeline.runAll t.adapters d s).state :=
  congrArg Prod.snd (outcome_compile_of_ok s h)

end

/-- Watching changes nothing else in the state. -/
theorem state_compile_watched (p : Platform) (t : Turn σ) (w : Watched σ) :
    (compile p t.watched w).state.state = (compile p t w.state).state := by
  cases h : Render.document p t.payload with
  | error o => rw [state_compile_of_error w.state h, state_compile_of_error (t := t.watched) w h]
  | ok d =>
    rw [state_compile_of_ok w.state h, state_compile_of_ok (t := t.watched) w h]
    exact congrArg Passage.state (Pipeline.runFrom_watched 0 t.adapters d w)

namespace Turn

variable {p : Platform} {t : Turn σ}

/-- The calls of a compilation, as watched adapters write them down. -/
def calls (p : Platform) (t : Turn σ) (s : σ) : List (Call σ) :=
  (compile p t.watched ⟨s, []⟩).state.calls

/-- A turn that cannot be rendered calls no adapter. -/
theorem calls_of_error {o : Obstacle} (s : σ) (h : Render.document p t.payload = .error o) :
    t.calls p s = [] := by
  rw [calls, state_compile_of_error (t := t.watched) _ h]

/-- Otherwise its adapters run over what was rendered. -/
theorem calls_of_ok {d : Document} (s : σ) (h : Render.document p t.payload = .ok d) :
    t.calls p s = Pipeline.calls t.adapters d s := by
  rw [calls, state_compile_of_ok (t := t.watched) _ h]
  rfl

/-- The calls of a compilation with the states that they are made in. -/
def invocations (p : Platform) (t : Turn σ) (s : σ) : List (Invocation σ) :=
  match Render.document p t.payload with
  | .error _ => []
  | .ok d => Pipeline.invocations t.adapters d s

theorem invocations_of_error {o : Obstacle} (s : σ) (h : Render.document p t.payload = .error o) :
    t.invocations p s = [] := by
  rw [invocations, h]

theorem invocations_of_ok {d : Document} (s : σ) (h : Render.document p t.payload = .ok d) :
    t.invocations p s = Pipeline.invocations t.adapters d s := by
  rw [invocations, h]

/-- They are the calls that watched adapters write down. -/
theorem map_call_invocations (p : Platform) (t : Turn σ) (s : σ) :
    (t.invocations p s).map Invocation.call = t.calls p s := by
  cases h : Render.document p t.payload with
  | error o => rw [invocations_of_error s h, calls_of_error s h, List.map_nil]
  | ok d => rw [invocations_of_ok s h, calls_of_ok s h, Pipeline.calls_eq]

end Turn

namespace Compiler

variable {c : Compiler σ} {t : Turn σ} {s : σ}

/-- The calls of a compilation with a compiler, as watched adapters write them
down: those of the turn and those of the compiler. -/
def calls (c : Compiler σ) (t : Turn σ) (s : σ) : List (Call σ) :=
  (c.watched.compile t.watched ⟨s, []⟩).state.calls

/-- The calls that a compiler makes on its own, with the states that they are
made in. -/
def invocations (c : Compiler σ) (t : Turn σ) (s : σ) : List (Invocation σ) :=
  match (VoiceDialogue.compile c.platform t s).result with
  | .error _ => []
  | .ok d => Pipeline.invocations c.pipeline.handles d (VoiceDialogue.compile c.platform t s).state

theorem invocations_of_error {e : CompileError}
    (h : (VoiceDialogue.compile c.platform t s).result = .error e) : c.invocations t s = [] := by
  rw [invocations, h]

theorem invocations_of_ok {d : Document}
    (h : (VoiceDialogue.compile c.platform t s).result = .ok d) :
    c.invocations t s =
      Pipeline.invocations c.pipeline.handles d (VoiceDialogue.compile c.platform t s).state := by
  rw [invocations, h]

/-- They come after those of the turn. -/
theorem calls_eq (c : Compiler σ) (t : Turn σ) (s : σ) :
    c.calls t s = t.calls c.platform s ++ (c.invocations t s).map Invocation.call := by
  have own : (VoiceDialogue.compile c.platform t.watched ⟨s, []⟩).result =
      (VoiceDialogue.compile c.platform t s).result := result_compile_watched c.platform t ⟨s, []⟩
  cases h : (VoiceDialogue.compile c.platform t s).result with
  | error e =>
    have idle : (c.watched.compile t.watched ⟨s, []⟩).outcome = _ :=
      outcome_compile_of_error (own.trans h)
    rw [invocations_of_error h, List.map_nil, List.append_nil]
    exact congrArg (·.2.calls) idle
  | ok d =>
    have run : (c.watched.compile t.watched ⟨s, []⟩).outcome = _ :=
      outcome_compile_of_ok (own.trans h)
    have calls := Pipeline.calls_runFrom_watched 0 c.pipeline.handles d
      (VoiceDialogue.compile c.platform t.watched ⟨s, []⟩).state
    rw [state_compile_watched] at calls
    rw [invocations_of_ok h]
    exact (congrArg (·.2.calls) run).trans calls

end Compiler

/-! ### Jobs -/

/-- Something that is done in a studio: performers run over a document, or a
turn that has them for its adapters is compiled. -/
inductive Job (ρ : Type)
  | run (ps : List (Performer ρ)) (d : Document)
  | compile (p : Platform) (name : String) (payload : Payload) (ps : List (Performer ρ))

namespace Job

/-- The performers of a job, in the order in which they are called. -/
def performers : Job ρ → List (Performer ρ)
  | .run ps _ => ps
  | .compile _ _ _ ps => ps

/-- The state that a job leaves. -/
def after (s : Studio ρ) : Job ρ → Studio ρ
  | .run ps d => (Pipeline.runAll (ps.map Performer.handle) d s).state
  | .compile p name payload ps =>
      (VoiceDialogue.compile p ⟨name, payload, ps.map Performer.handle⟩ s).state

/-- The calls of a job. -/
def calls (s : Studio ρ) : Job ρ → List (Call (Studio ρ))
  | .run ps d => Pipeline.calls (ps.map Performer.handle) d s
  | .compile p name payload ps => Turn.calls p ⟨name, payload, ps.map Performer.handle⟩ s

/-- The recordings that are made in a job: the first call is that of the first
performer, and so on. -/
def recorded (tape : Nat) (s : Studio ρ) (j : Job ρ) : List Recording :=
  Performer.recorded tape j.performers ((j.calls s).map Call.document)

/-- The state that jobs leave, one after the other. -/
def afterAll (s : Studio ρ) : List (Job ρ) → Studio ρ
  | [] => s
  | j :: js => afterAll (j.after s) js

/-- The recordings that are made in jobs, one after the other. -/
def recordedAll (tape : Nat) (s : Studio ρ) : List (Job ρ) → List Recording
  | [] => []
  | j :: js => j.recorded tape s ++ recordedAll tape (j.after s) js

/-- A run adds what its recorders were called on. -/
theorem recordings_runAll (tape : Nat) (ps : List (Performer ρ)) (d : Document) (s : Studio ρ) :
    (Pipeline.runAll (ps.map Performer.handle) d s).state.tapes.recordings tape =
      s.tapes.recordings tape ++ Performer.recorded tape ps
        ((Pipeline.calls (ps.map Performer.handle) d s).map Call.document) := by
  rw [Pipeline.calls_eq, List.map_map]
  exact Performer.recordings_runFrom 0 tape ps d s

/-- A job adds what its recorders were called on. -/
theorem recordings_after (tape : Nat) (s : Studio ρ) (j : Job ρ) :
    (j.after s).tapes.recordings tape = s.tapes.recordings tape ++ j.recorded tape s := by
  cases j with
  | run ps d => exact recordings_runAll tape ps d s
  | compile p name payload ps =>
    rw [after, recorded, performers, calls]
    cases h : Render.document p payload with
    | error o =>
      rw [state_compile_of_error s h, Turn.calls_of_error s h, List.map_nil, Performer.recorded,
        List.zip_nil_right, List.filterMap_nil, List.append_nil]
    | ok d =>
      rw [state_compile_of_ok s h, Turn.calls_of_ok s h]
      exact recordings_runAll tape ps d s

/-- After any jobs, a tape has what it had and then what its recorders were
called on. -/
theorem recordings_afterAll (tape : Nat) (s : Studio ρ) (js : List (Job ρ)) :
    (afterAll s js).tapes.recordings tape =
      s.tapes.recordings tape ++ recordedAll tape s js := by
  induction js generalizing s with
  | nil => exact (List.append_nil _).symm
  | cons j js ih => rw [afterAll, ih, recordings_after, recordedAll, List.append_assoc]

end Job

end VoiceDialogue
