/-
VoiceDialogue/Proofs/Compile/CompilerAdapters.lean

Adapters of a compiler and adapters of a turn.

A compiler runs its adapters after those of the turn, so one might as well
append them to the turn and compile without a compiler.  The difference is the
search for characters that markup cannot carry: a compiler makes it twice, and
the first time before any of its own adapters has been called.  An adapter
that would have repaired the document comes too late.

This is the only difference.  Both ways lead to the same result and the same
state, through the same calls on the same documents, exactly if the compiler
has no adapters or the turn on its own is not rejected for a character
(`outcome_compile_eq_appended_iff`).
-/
import VoiceDialogue.Adapter.Standard
import VoiceDialogue.Proofs.Compile.Outcome
import VoiceDialogue.Proofs.Render.Obstacles

namespace VoiceDialogue

variable {σ : Type}

/-! ### Watching -/

/-- A turn whose adapters are watched. -/
def Turn.watched (t : Turn σ) : Turn (Watched σ) :=
  { t with adapters := t.adapters.map Handle.watched }

/-- A compiler whose adapters are watched. -/
def Compiler.watched (c : Compiler σ) : Compiler (Watched σ) where
  platform := c.platform
  pipeline := .ofList (c.pipeline.handles.map Handle.watched)

/-- Watching does not change the result. -/
theorem result_compile_watched (p : Platform) (t : Turn σ) (w : Watched σ) :
    (compile p t.watched w).result = (compile p t w.state).result := by
  cases h : Render.document p t.payload with
  | error o =>
    rw [result_compile_of_error w.state h, result_compile_of_error (t := t.watched) w h]
    rfl
  | ok d =>
    rw [result_compile_of_ok w.state h, result_compile_of_ok (t := t.watched) w h]
    show _ = (Pipeline.runFrom 0 t.adapters d w.state).verdict t.name
    rw [← Pipeline.runFrom_watched 0 t.adapters d w]
    rfl

/-! ### Appending -/

/-- A turn with more adapters behind its own. -/
def Turn.addAdapters (t : Turn σ) (hs : List (Handle σ)) : Turn σ := hs.foldl Turn.addAdapter t

theorem Turn.addAdapters_eq (t : Turn σ) (hs : List (Handle σ)) :
    t.addAdapters hs = { t with adapters := t.adapters ++ hs } := by
  induction hs generalizing t with
  | nil => rw [List.append_nil]; rfl
  | cons h hs ih =>
    show (t.addAdapter h).addAdapters hs = _
    rw [ih]
    simp [addAdapter]

theorem Turn.watched_addAdapters (t : Turn σ) (hs : List (Handle σ)) :
    (t.addAdapters hs).watched = t.watched.addAdapters (hs.map Handle.watched) := by
  simp [addAdapters_eq, watched]

/-- The position of a run does not matter to its outcome. -/
theorem Pipeline.outcome_runFrom (i j : Nat) (turn : String) (hs : List (Handle σ))
    (d : Document) (s : σ) :
    (runFrom i hs d s).outcome turn = (runFrom j hs d s).outcome turn := by
  show (runFrom i hs d s).silent.outcome turn = (runFrom j hs d s).silent.outcome turn
  rw [silent_runFrom i j]

/-! ### One run and then another -/

section

variable {c : Compiler σ} {t : Turn σ} {s : σ} {d : Document}

/-- The turn cannot be rendered: no adapter is called. -/
theorem outcome_compile_of_obstacle {o : Obstacle}
    (h : Render.document c.platform t.payload = .error o) :
    (c.compile t s).outcome
      = (compile c.platform (t.addAdapters c.pipeline.handles) s).outcome := by
  have own := outcome_compile_of_error s h
  have appended := outcome_compile_of_error
    (t := { t with adapters := t.adapters ++ c.pipeline.handles }) s h
  rw [Compiler.outcome_compile_of_error (result_compile_of_error s h), own, Turn.addAdapters_eq,
    appended]

/-- The adapters of a turn fail: the adapters behind them are not called, be
they the turn's or a compiler's. -/
theorem outcome_compile_of_failure {e : AdapterError}
    (h : Render.document c.platform t.payload = .ok d)
    (hf : (Pipeline.runAll t.adapters d s).failure = some e) :
    (c.compile t s).outcome
      = (compile c.platform (t.addAdapters c.pipeline.handles) s).outcome := by
  have own := outcome_compile_of_ok s h
  have appended := outcome_compile_of_ok
    (t := { t with adapters := t.adapters ++ c.pipeline.handles }) s h
  have failed : (compile c.platform t s).result = .error ⟨t.name, .adapter e⟩ :=
    (result_compile_of_ok s h).trans (Passage.verdict_of_failure hf)
  have same : Pipeline.runAll (t.adapters ++ c.pipeline.handles) d s
      = Pipeline.runAll t.adapters d s :=
    Pipeline.runFrom_append_of_failure c.pipeline.handles hf
  rw [Compiler.outcome_compile_of_error failed, own, Turn.addAdapters_eq, appended, same]

/-- The adapters of a turn succeed: those behind them go on with what is left. -/
theorem outcome_compile_appended {p : Platform} (hs : List (Handle σ))
    (h : Render.document p t.payload = .ok d)
    (hf : (Pipeline.runAll t.adapters d s).failure = none) :
    (compile p (t.addAdapters hs) s).outcome =
      (Pipeline.runAll hs (Pipeline.runAll t.adapters d s).document
        (Pipeline.runAll t.adapters d s).state).outcome t.name := by
  have appended := outcome_compile_of_ok (t := { t with adapters := t.adapters ++ hs }) s h
  have more : Pipeline.runAll (t.adapters ++ hs) d s = _ := Pipeline.runFrom_append hs hf
  rw [Turn.addAdapters_eq, appended, more]
  exact Pipeline.outcome_runFrom _ 0 t.name hs _ _

/-- The turn on its own compiles: a compiler does the same as the turn would
do with its adapters. -/
theorem outcome_compile_of_carriable (h : Render.document c.platform t.payload = .ok d)
    (hf : (Pipeline.runAll t.adapters d s).failure = none)
    (hc : (Pipeline.runAll t.adapters d s).document.firstInvalid? = none) :
    (c.compile t s).outcome
      = (compile c.platform (t.addAdapters c.pipeline.handles) s).outcome := by
  have own := outcome_compile_of_ok s h
  have accepted : (compile c.platform t s).result
      = .ok (Pipeline.runAll t.adapters d s).document :=
    (result_compile_of_ok s h).trans (Passage.verdict_of_carriable hf hc)
  have state : (compile c.platform t s).state = (Pipeline.runAll t.adapters d s).state :=
    congrArg Prod.snd own
  rw [Compiler.outcome_compile_of_ok accepted, outcome_compile_appended _ h hf, state]
  rfl

/-- The turn on its own is rejected for a character: so it is by a compiler,
whose adapters are not called. -/
theorem outcome_compile_of_forbidden {x : Char}
    (h : Render.document c.platform t.payload = .ok d)
    (hf : (Pipeline.runAll t.adapters d s).failure = none)
    (hx : (Pipeline.runAll t.adapters d s).document.firstInvalid? = some x) :
    (c.compile t s).outcome = (Pipeline.runAll t.adapters d s).outcome t.name := by
  have own := outcome_compile_of_ok s h
  have rejected : (compile c.platform t s).result = .error ⟨t.name, .obstacle (.forbidden x)⟩ :=
    (result_compile_of_ok s h).trans (Passage.verdict_of_forbidden hf hx)
  rw [Compiler.outcome_compile_of_error rejected, own]

end

/-! ### The two ways compared -/

/-- A turn is rejected for a character exactly if it was rendered, its adapters
ran without a failure, and the character is the first bad one that is left. -/
theorem result_compile_eq_forbidden_iff (p : Platform) (t : Turn σ) (s : σ) (x : Char) :
    (compile p t s).result = .error ⟨t.name, .obstacle (.forbidden x)⟩
      ↔ ∃ d, Render.document p t.payload = .ok d
        ∧ (Pipeline.runAll t.adapters d s).failure = none
        ∧ (Pipeline.runAll t.adapters d s).document.firstInvalid? = some x := by
  cases h : Render.document p t.payload with
  | error o =>
    have other : o ≠ .forbidden x := by
      rintro rfl
      exact Render.document_ne_forbidden p t.payload x h
    rw [result_compile_of_error s h]
    simp [other]
  | ok d =>
    rw [result_compile_of_ok s h]
    cases hf : (Pipeline.runAll t.adapters d s).failure with
    | some e => simp [Passage.verdict_of_failure hf, hf]
    | none =>
      cases hx : (Pipeline.runAll t.adapters d s).document.firstInvalid? with
      | some y => simp [Passage.verdict_of_forbidden hf hx, hf, hx]
      | none => simp [Passage.verdict_of_carriable hf hx, hx]

/-- A compiler whose turns are not rejected for a character on their own does
the same as the turns would do with its adapters. -/
theorem outcome_compile_eq_appended {c : Compiler σ} {t : Turn σ} {s : σ}
    (fine : ∀ x, (compile c.platform t s).result ≠ .error ⟨t.name, .obstacle (.forbidden x)⟩) :
    (c.compile t s).outcome
      = (compile c.platform (t.addAdapters c.pipeline.handles) s).outcome := by
  cases h : Render.document c.platform t.payload with
  | error o => exact outcome_compile_of_obstacle h
  | ok d =>
    cases hf : (Pipeline.runAll t.adapters d s).failure with
    | some e => exact outcome_compile_of_failure h hf
    | none =>
      cases hx : (Pipeline.runAll t.adapters d s).document.firstInvalid? with
      | none => exact outcome_compile_of_carriable h hf hx
      | some x =>
        have rejected := (result_compile_eq_forbidden_iff c.platform t s x).2 ⟨d, h, hf, hx⟩
        exact absurd rejected (fine x)

/-- A compiler without adapters compiles turns as they are. -/
theorem outcome_compile_of_nil {c : Compiler σ} (t : Turn σ) (s : σ)
    (none : c.pipeline.handles = []) :
    (c.compile t s).outcome = (compile c.platform t s).outcome := by
  cases h : (compile c.platform t s).result with
  | error e => exact Compiler.outcome_compile_of_error h
  | ok d =>
    have fine : ∀ x,
        (compile c.platform t s).result ≠ .error ⟨t.name, .obstacle (.forbidden x)⟩ := by
      intro x rejected
      rw [h] at rejected
      cases rejected
    have same := outcome_compile_eq_appended fine
    rw [none] at same
    exact same

/-- The first adapter that is appended to a turn is called in any case. -/
theorem outcome_ne_outcome_runAll_cons {turn : String} (h : Handle σ) (hs : List (Handle σ))
    (r : Passage (Watched σ)) :
    r.outcome turn
      ≠ (Pipeline.runAll ((h :: hs).map Handle.watched) r.document r.state).outcome turn := by
  intro same
  have state : (Pipeline.runAll ((h :: hs).map Handle.watched) r.document r.state).state
      = r.state := (congrArg Prod.snd same).symm
  have called : r.state.calls ++ [⟨h, r.document⟩]
      <+: (Pipeline.runAll ((h :: hs).map Handle.watched) r.document r.state).state.calls :=
    Pipeline.calls_runFrom_cons 0 h hs r.document r.state
  rw [state] at called
  have length := called.length_le
  rw [List.length_append, List.length_singleton] at length
  exact Nat.not_succ_le_self _ length

/-- The adapters of a compiler act as if appended to those of the turn, down
to the calls, unless there are any and the turn on its own is rejected for a
character. -/
theorem outcome_compile_eq_appended_iff (c : Compiler σ) (t : Turn σ) (s : σ) :
    (c.watched.compile t.watched ⟨s, []⟩).outcome
        = (compile c.platform (t.addAdapters c.pipeline.handles).watched ⟨s, []⟩).outcome
      ↔ c.pipeline.handles = []
        ∨ ∀ x, (compile c.platform t s).result ≠ .error ⟨t.name, .obstacle (.forbidden x)⟩ := by
  have plain : (compile c.platform t.watched ⟨s, []⟩).result = (compile c.platform t s).result :=
    result_compile_watched c.platform t ⟨s, []⟩
  rw [Turn.watched_addAdapters, ← plain]
  constructor
  · intro same
    cases hs : c.pipeline.handles with
    | nil => exact .inl rfl
    | cons g gs =>
      -- one way rejects the turn, the other one calls the first adapter
      right
      intro x rejected
      obtain ⟨d, h, hf, hx⟩ := (result_compile_eq_forbidden_iff _ t.watched _ x).1 rejected
      rw [outcome_compile_of_forbidden (c := c.watched) h hf hx,
        outcome_compile_appended _ h hf, hs] at same
      exact outcome_ne_outcome_runAll_cons g gs _ same
  · rintro (none | fine)
    · have watched : c.watched.pipeline.handles = [] := by
        rw [Compiler.watched, none]
        rfl
      rw [outcome_compile_of_nil t.watched ⟨s, []⟩ watched, none]
      rfl
    · exact outcome_compile_eq_appended (c := c.watched) fine

/-! ### A repair -/

/-- An adapter that gives the root an attribute. -/
def stampRoot (identity : Nat) (name value : String) : Handle Unit where
  identity := identity
  adapter := .ofFunction "stamp" fun d => (⟨d.root.setAttribute name value⟩, none)

/-- A greeting whose document is damaged by an adapter of the turn and repaired
by a second adapter: it compiles if both belong to the turn, and is rejected if
the second one belongs to the compiler. -/
theorem repair_comes_too_late :
    let repaired : Compiler Unit :=
      { platform := SettledConventions.default.platform, pipeline := .ofList [stampRoot 1 "x" "ok"] }
    ∃ t : Turn Unit, Turn.message "greeting" [.speech "Welcome"] = .ok t ∧
      let damaged := t.addAdapter (stampRoot 0 "x" "\x01")
      (repaired.compile damaged ()).result
          = .error ⟨"greeting", .obstacle (.forbidden '\x01')⟩ ∧
        ∃ d, (compile repaired.platform (damaged.addAdapters repaired.pipeline.handles) ()).result
          = .ok d :=
  ⟨_, rfl, rfl, _, rfl⟩

end VoiceDialogue
