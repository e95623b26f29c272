/-
VoiceDialogue/Proofs/Compile/Transparent.lean

Compiling with observers.

Observers may be put in among the adapters of a turn (`Turn.observed`) and among
those of a compiler (`Compiler.observed`).  A verdict looks at a document and a
failure, and a run with observers leaves the same ones as a run without
(`Station.Beside.untaped_runFrom`), so the turn has the same result and leaves the same
notes (`agrees_compile_observed`).  The adapters of the compiler then start from
the same document, and what holds of the turn's adapters holds of them.

In both places the course of the run is that of `Station.Course`.  What observers
log can be told from what a compilation logs itself: a compilation calls
adapters, completes or fails, but never looks at a shape (`shapes_log_compile`).
-/
import VoiceDialogue.Proofs.Adapter.Observers
import VoiceDialogue.Proofs.Compile.Calls
import VoiceDialogue.Proofs.Compile.OwnLog

namespace VoiceDialogue

variable {σ ρ : Type}

/-! ### Observed turns and compilers -/

/-- A turn whose adapters are those of stations. -/
def Turn.observed (t : Turn (Studio ρ)) (xs : List (Station ρ)) : Turn (Studio ρ) :=
  { t with adapters := Station.handles xs }

/-- A compiler whose adapters are those of stations. -/
def Compiler.observed (c : Compiler (Studio ρ)) (ys : List (Station ρ)) : Compiler (Studio ρ) where
  platform := c.platform
  pipeline := .ofList (Station.handles ys)

/-- The document that adapters leave if they are the first ones of a turn, unless
the turn cannot be rendered or one of them fails. -/
def Turn.left? (p : Platform) (t : Turn σ) (s : σ) (hs : List (Handle σ)) : Option Document :=
  match Render.document p t.payload with
  | .error _ => none
  | .ok d => Pipeline.left? hs d s

/-- The document that adapters leave if they are the first ones of a compiler,
unless the turn does not compile or one of them fails. -/
def Compiler.left? (c : Compiler σ) (t : Turn σ) (s : σ) (hs : List (Handle σ)) :
    Option Document :=
  match (VoiceDialogue.compile c.platform t s).result with
  | .error _ => none
  | .ok d => Pipeline.left? hs d (VoiceDialogue.compile c.platform t s).state

theorem Turn.left?_of_error {p : Platform} {t : Turn σ} {o : Obstacle} (s : σ)
    (h : Render.document p t.payload = .error o) : t.left? p s = fun _ => none := by
  funext hs
  rw [left?, h]

theorem Turn.left?_of_ok {p : Platform} {t : Turn σ} {d : Document} (s : σ)
    (h : Render.document p t.payload = .ok d) : t.left? p s = (Pipeline.left? · d s) := by
  funext hs
  rw [left?, h]

theorem Compiler.left?_of_error {c : Compiler σ} {t : Turn σ} {s : σ} {e : CompileError}
    (h : (VoiceDialogue.compile c.platform t s).result = .error e) :
    c.left? t s = fun _ => none := by
  funext hs
  rw [left?, h]

theorem Compiler.left?_of_ok {c : Compiler σ} {t : Turn σ} {s : σ} {d : Document}
    (h : (VoiceDialogue.compile c.platform t s).result = .ok d) :
    c.left? t s = (Pipeline.left? · d (VoiceDialogue.compile c.platform t s).state) := by
  funext hs
  rw [left?, h]

/-! ### Results -/

/-- Compilations that come to the same, the tapes and the logs aside. -/
def Compilation.Agrees (c c' : Compilation (Studio ρ)) : Prop :=
  c.result = c'.result ∧ c.state.notes = c'.state.notes

theorem Compilation.Agrees.of_outcomes {c c' : Compilation (Studio ρ)}
    {o o' : Except CompileError Document × Studio ρ} (h : c.outcome = o) (h' : c'.outcome = o')
    (result : o.1 = o'.1) (notes : o.2.notes = o'.2.notes) : c.Agrees c' := by
  subst h h'
  exact ⟨result, notes⟩

/-- The verdict is on the document and the failure. -/
theorem Passage.verdict_of_untaped {r r' : Passage (Studio ρ)} (turn : String)
    (h : r.untaped.silent = r'.untaped.silent) : r.verdict turn = r'.verdict turn := by
  show r.untaped.silent.verdict turn = r'.untaped.silent.verdict turn
  rw [h]

section

variable {t : Turn (Studio ρ)} {c : Compiler (Studio ρ)} {xs ys : List (Station ρ)}

/-- Observers of a turn do not change what it compiles to. -/
theorem agrees_compile_observed (p : Platform) (turn : Station.owns xs = t.adapters)
    (s : Studio ρ) : (compile p (t.observed xs) s).Agrees (compile p t s) := by
  cases h : Render.document p t.payload with
  | error o =>
    have observed := outcome_compile_of_error (t := t.observed xs) s h
    exact .of_outcomes observed (outcome_compile_of_error s h) rfl rfl
  | ok d =>
    have observed := outcome_compile_of_ok (t := t.observed xs) s h
    have run := (Station.beside xs d (rfl : s.notes = s.notes)).untaped_runFrom 0 0
    rw [turn] at run
    exact .of_outcomes observed (outcome_compile_of_ok s h)
      (Passage.verdict_of_untaped t.name run) (Passage.eq_of_untaped run).2.1

/-- Observers of a turn and of a compiler do not change what they come to. -/
theorem Compiler.agrees_compile_observed (turn : Station.owns xs = t.adapters)
    (compiler : Station.owns ys = c.pipeline.handles) (s : Studio ρ) :
    ((c.observed ys).compile (t.observed xs) s).Agrees (c.compile t s) := by
  obtain ⟨result, notes⟩ := VoiceDialogue.agrees_compile_observed c.platform turn s
  cases h : (VoiceDialogue.compile c.platform t s).result with
  | error e =>
    have observed := outcome_compile_of_error (c := c.observed ys) (result.trans h)
    exact .of_outcomes observed (outcome_compile_of_error h) result notes
  | ok d =>
    have observed := outcome_compile_of_ok (c := c.observed ys) (result.trans h)
    -- both compilers start from the same document and with the same notes
    have run := (Station.beside ys d notes).untaped_runFrom 0 0
    rw [compiler] at run
    exact .of_outcomes observed (outcome_compile_of_ok h)
      (Passage.verdict_of_untaped t.name run) (Passage.eq_of_untaped run).2.1

/-! ### Courses -/

/-- The course of the run that a turn makes. -/
theorem Turn.course_observed (p : Platform) (turn : Station.owns xs = t.adapters)
    (s : Studio ρ) :
    Station.Course xs ((t.observed xs).invocations p s) (t.calls p s) (t.left? p s) s.tapes
      (compile p (t.observed xs) s).state.tapes := by
  cases h : Render.document p t.payload with
  | error o =>
    rw [t.left?_of_error s h, t.calls_of_error s h, (t.observed xs).invocations_of_error s h,
      state_compile_of_error (t := t.observed xs) s h]
    exact Station.course_none xs s.tapes
  | ok d =>
    rw [t.left?_of_ok s h, t.calls_of_ok s h, (t.observed xs).invocations_of_ok s h,
      state_compile_of_ok (t := t.observed xs) s h, ← turn]
    exact Station.course_runAll xs d rfl

/-- The course of the run that a compiler makes. -/
theorem Compiler.course_observed (turn : Station.owns xs = t.adapters)
    (compiler : Station.owns ys = c.pipeline.handles) (s : Studio ρ) :
    Station.Course ys ((c.observed ys).invocations (t.observed xs) s)
      ((c.invocations t s).map Invocation.call) (c.left? t s)
      (VoiceDialogue.compile c.platform (t.observed xs) s).state.tapes
      ((c.observed ys).compile (t.observed xs) s).state.tapes := by
  obtain ⟨result, notes⟩ := VoiceDialogue.agrees_compile_observed c.platform turn s
  cases h : (VoiceDialogue.compile c.platform t s).result with
  | error e =>
    have idle := outcome_compile_of_error (c := c.observed ys) (result.trans h)
    have state : ((c.observed ys).compile (t.observed xs) s).state = _ := congrArg Prod.snd idle
    rw [left?_of_error h, invocations_of_error h,
      invocations_of_error (c := c.observed ys) (result.trans h), state]
    exact Station.course_none ys _
  | ok d =>
    have run := outcome_compile_of_ok (c := c.observed ys) (result.trans h)
    have state : ((c.observed ys).compile (t.observed xs) s).state = _ := congrArg Prod.snd run
    rw [left?_of_ok h, invocations_of_ok h,
      invocations_of_ok (c := c.observed ys) (result.trans h), state, ← Pipeline.calls_eq,
      ← compiler]
    exact Station.course_runAll ys d notes

end

/-! ### Shapes in a log -/

namespace Event

/-- Whether an event tells the shape of a document. -/
def isShape : Event → Bool
  | .documentCompiled _ _ _ _ => true
  | _ => false

/-- The shapes that a log tells. -/
def shapes (log : List Event) : List Event := log.filter isShape

theorem shapes_append (log more : List Event) : shapes (log ++ more) = shapes log ++ shapes more :=
  List.filter_append log more

theorem shapes_objection (r : Except CompileError Document) : shapes (objection r) = [] := by
  unfold objection
  split <;> rfl

theorem shapes_completion (turn : String) (r : Except CompileError Document) :
    shapes (completion turn r) = [] := by
  cases r <;> rfl

end Event

/-- The shapes that are told in calls. -/
def Invocation.shapes (cs : List (Invocation σ)) : List Event :=
  cs.flatMap fun v => Event.shapes v.passage.log

/-- A call on its own tells no shape. -/
theorem Pipeline.shapes_entries (index : Nat) (cs : List (Invocation σ)) :
    Event.shapes (entries index cs) = Invocation.shapes cs := by
  induction cs generalizing index with
  | nil => rfl
  | cons c cs ih =>
    rw [entries_cons, Event.shapes_append, ih, Invocation.shapes, Invocation.shapes,
      List.flatMap_cons]
    rfl

/-- Neither does a failure. -/
theorem Pipeline.shapes_log_runAll (hs : List (Handle σ)) (d : Document) (s : σ) :
    Event.shapes (runAll hs d s).log = Invocation.shapes (invocations hs d s) := by
  rw [← shapes_entries 0]
  cases hf : (runFrom 0 hs d s).failure with
  | none => rw [runAll, (log_runFrom_of_success hf).1]
  | some e =>
    obtain ⟨earlier, c, -, -, log⟩ := log_runFrom_of_failure hf
    rw [runAll, log, Event.shapes_append]
    exact List.append_nil _

/-- A turn tells no shape but those that its adapters tell. -/
theorem shapes_log_compile (p : Platform) (t : Turn σ) (s : σ) :
    Event.shapes (compile p t s).log = Invocation.shapes (t.invocations p s) := by
  cases h : Render.document p t.payload with
  | error o =>
    rw [log_compile_of_error s h, t.invocations_of_error s h]
    rfl
  | ok d =>
    rw [log_compile_of_ok s h, t.invocations_of_ok s h, ← Pipeline.shapes_log_runAll,
      Event.shapes_append, Event.shapes_completion, List.append_nil]
    show Event.shapes (_ ++ _) = _
    rw [Event.shapes_append, Event.shapes_objection, List.append_nil]

/-- A compiler adds the shapes that its own adapters tell. -/
theorem Compiler.shapes_log_compile (c : Compiler σ) (t : Turn σ) (s : σ) :
    Event.shapes (c.compile t s).log =
      Invocation.shapes (t.invocations c.platform s ++ c.invocations t s) := by
  have turn := VoiceDialogue.shapes_log_compile c.platform t s
  cases h : (VoiceDialogue.compile c.platform t s).result with
  | error e => rw [log_compile_of_error h, turn, invocations_of_error h, List.append_nil]
  | ok d =>
    rw [log_compile_of_ok h, Event.shapes_append, Event.shapes_append, Event.shapes_objection,
      List.append_nil, turn, Pipeline.run, Pipeline.shapes_log_runAll, invocations_of_ok h]
    exact List.flatMap_append.symm

/-! ### Together -/

/-- Observers are transparent.

Whatever observers are put in among the adapters of a turn and of a compiler,
and wherever, the turn compiles to the same document or fails with the same
error, on its own and with the compiler, and the other adapters leave the same
notes.  They are called on the same documents as before, those of the turn and
then those of the compiler.  A recorder or a tracing adapter that is reached gets
the document that the other adapters before it have left; the recorder puts it on
its tape and the tracing adapter logs its shape, and no other shapes are logged
than those that adapters log. -/
theorem observers_are_transparent {t : Turn (Studio ρ)} {c : Compiler (Studio ρ)}
    {xs ys : List (Station ρ)} (turn : Station.owns xs = t.adapters)
    (compiler : Station.owns ys = c.pipeline.handles) (s : Studio ρ) :
    let t' := t.observed xs
    let c' := c.observed ys
    (compile c.platform t' s).Agrees (compile c.platform t s) ∧
      (c'.compile t' s).Agrees (c.compile t s) ∧
      Station.Course xs (t'.invocations c.platform s) (t.calls c.platform s)
        (t.left? c.platform s) s.tapes (compile c.platform t' s).state.tapes ∧
      Station.Course ys (c'.invocations t' s) ((c.invocations t s).map Invocation.call)
        (c.left? t s) (compile c.platform t' s).state.tapes (c'.compile t' s).state.tapes ∧
      c.calls t s = t.calls c.platform s ++ (c.invocations t s).map Invocation.call ∧
      c'.calls t' s =
        (t'.invocations c.platform s ++ c'.invocations t' s).map Invocation.call ∧
      Event.shapes (compile c.platform t' s).log =
        Invocation.shapes (t'.invocations c.platform s) ∧
      Event.shapes (c'.compile t' s).log =
        Invocation.shapes (t'.invocations c.platform s ++ c'.invocations t' s) := by
  intro t' c'
  refine ⟨agrees_compile_observed c.platform turn s,
    Compiler.agrees_compile_observed turn compiler s, Turn.course_observed c.platform turn s,
    Compiler.course_observed turn compiler s, c.calls_eq t s, ?_, shapes_log_compile _ t' s,
    c'.shapes_log_compile t' s⟩
  rw [c'.calls_eq t' s, List.map_append, ← t'.map_call_invocations]
  rfl

/-- A greeting that a recorder of its own stamps with another application, and
that a compiler refuses.  The recorders that are put in see it without and with
the stamp, both tracing adapters with the stamp, and the recorder behind the
refusal does not see it. -/
theorem greeting_under_observation :
    let stamping : Performer Unit := .recorder 0 0 "stamp" (some ("application", "hello.vxml"))
    let refusal : Performer Unit := .function 1 "refuse" fun d => (d, some (.failed "not today"))
    let xs := [.recorder 2 1 "before", .own stamping (Performer.deaf_recorder _ _ _ _),
      .tracing 3 true, .recorder 4 1 "after"]
    let ys := [.tracing 5 false, .own refusal (Performer.deaf_function _ _ _),
      .recorder 6 2 "never"]
    let c : Compiler (Studio Unit) :=
      { platform := SettledConventions.default.platform, pipeline := .ofList [refusal.handle] }
    ∃ greeting, Turn.message "greeting" [.speech "Welcome"] = .ok greeting ∧
      let t := greeting.addAdapter stamping.handle
      let observed := (c.observed ys).compile (t.observed xs) ⟨{}, ()⟩
      Station.owns xs = t.adapters ∧ Station.owns ys = c.pipeline.handles ∧
        observed.Agrees (c.compile t ⟨{}, ()⟩) ∧
        observed.result = .error ⟨"greeting", .adapter (.failed "not today")⟩ ∧
        (observed.state.tapes.recordings 1).map (fun r =>
            (r.adapter, r.document.root.attribute? "application")) =
          [("before", some "root.vxml"), ("after", some "hello.vxml")] ∧
        observed.state.tapes.recordings 2 = [] ∧
        Event.shapes observed.log =
          [.documentCompiled "vxml" 5 1 (some "hello.vxml"),
            .documentCompiled "vxml" 5 1 (some "hello.vxml")] := by
  refine ⟨_, rfl, rfl, rfl, ?_, rfl, rfl, rfl, rfl⟩
  refine (observers_are_transparent ?_ ?_ _).2.1
  · rfl
  · rfl

end VoiceDialogue
