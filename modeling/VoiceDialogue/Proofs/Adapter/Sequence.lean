/-
VoiceDialogue/Proofs/Adapter/Sequence.lean

Runs of adapters, taken apart and put together.

A run over two lists is a run over the first one and then, unless something
failed, a run over the second one, on the document and the state that were
left (`Pipeline.runFrom_append`).  The position from which a run counts shows
in its log and nowhere else (`Pipeline.silent_runFrom`).

Which adapters a run calls, and on which documents, is not part of what it
leaves.  To see it, the adapters are watched: a watched adapter does what it
did and writes the call down in the state (`Handle.watched`).  The run is the
same function, and as long as the notes are ignored it has the same result
(`Pipeline.runFrom_watched`).
-/
import VoiceDialogue.Adapter.Pipeline

namespace VoiceDialogue

variable {σ : Type}

/-! ### One step -/

namespace Passage

/-- What a run leaves, if a log was there before. -/
def after (log : List Event) (r : Passage σ) : Passage σ := { r with log := log ++ r.log }

@[simp] theorem document_after (log : List Event) (r : Passage σ) :
    (r.after log).document = r.document := rfl

@[simp] theorem state_after (log : List Event) (r : Passage σ) :
    (r.after log).state = r.state := rfl

@[simp] theorem log_after (log : List Event) (r : Passage σ) :
    (r.after log).log = log ++ r.log := rfl

@[simp] theorem failure_after (log : List Event) (r : Passage σ) :
    (r.after log).failure = r.failure := rfl

@[simp] theorem after_after (first second : List Event) (r : Passage σ) :
    (r.after second).after first = r.after (first ++ second) := by
  simp [after]

end Passage

namespace Pipeline

/-- A run whose first adapter fails. -/
theorem runFrom_cons_of_failure {h : Handle σ} {d : Document} {s : σ} {e : AdapterError}
    (index : Nat) (hs : List (Handle σ)) (hf : (h.adapter.adapt d s).failure = some e) :
    runFrom index (h :: hs) d s =
      ⟨(h.adapter.adapt d s).document, (h.adapter.adapt d s).state,
        .adapterApply h.name index :: (h.adapter.adapt d s).log ++
          [.adapterFailed h.name index e], some e⟩ := by
  simp only [runFrom, hf]

/-- A run whose first adapter succeeds. -/
theorem runFrom_cons {h : Handle σ} {d : Document} {s : σ} (index : Nat)
    (hs : List (Handle σ)) (hf : (h.adapter.adapt d s).failure = none) :
    runFrom index (h :: hs) d s =
      (runFrom (index + 1) hs (h.adapter.adapt d s).document (h.adapter.adapt d s).state).after
        (.adapterApply h.name index :: (h.adapter.adapt d s).log) := by
  simp only [runFrom, hf, Passage.after]

/-! ### Two lists -/

/-- A failure in the first of two lists ends the run. -/
theorem runFrom_append_of_failure {index : Nat} {xs : List (Handle σ)} {d : Document} {s : σ}
    {e : AdapterError} (ys : List (Handle σ)) (h : (runFrom index xs d s).failure = some e) :
    runFrom index (xs ++ ys) d s = runFrom index xs d s := by
  induction xs generalizing index d s with
  | nil => cases h
  | cons x xs ih =>
    rw [List.cons_append]
    cases hx : (x.adapter.adapt d s).failure with
    | some e' => rw [runFrom_cons_of_failure index _ hx, runFrom_cons_of_failure index _ hx]
    | none =>
      rw [runFrom_cons index _ hx, Passage.failure_after] at h
      rw [runFrom_cons index _ hx, runFrom_cons index _ hx, ih h]

/-- The second of two lists goes on with what the first one left. -/
theorem runFrom_append {index : Nat} {xs : List (Handle σ)} {d : Document} {s : σ}
    (ys : List (Handle σ)) (h : (runFrom index xs d s).failure = none) :
    runFrom index (xs ++ ys) d s =
      (runFrom (index + xs.length) ys (runFrom index xs d s).document
        (runFrom index xs d s).state).after (runFrom index xs d s).log := by
  induction xs generalizing index d s with
  | nil => rfl
  | cons x xs ih =>
    have shift : index + (x :: xs).length = index + 1 + xs.length := by
      rw [List.length_cons, Nat.add_assoc, Nat.add_comm 1]
    rw [List.cons_append, shift]
    cases hx : (x.adapter.adapt d s).failure with
    | some e' => rw [runFrom_cons_of_failure index _ hx] at h; cases h
    | none =>
      rw [runFrom_cons index _ hx, Passage.failure_after] at h
      rw [runFrom_cons index _ hx, runFrom_cons index _ hx, ih h, Passage.after_after]
      rfl

end Pipeline

/-! ### Positions -/

/-- What a run leaves apart from its log. -/
def Passage.silent (r : Passage σ) : Passage σ := { r with log := [] }

/-- Counting from another position changes nothing but the log. -/
theorem Pipeline.silent_runFrom (i j : Nat) (hs : List (Handle σ)) (d : Document) (s : σ) :
    (runFrom i hs d s).silent = (runFrom j hs d s).silent := by
  induction hs generalizing i j d s with
  | nil => rfl
  | cons h hs ih =>
    cases hf : (h.adapter.adapt d s).failure with
    | some e => rw [runFrom_cons_of_failure i hs hf, runFrom_cons_of_failure j hs hf]; rfl
    | none =>
      rw [runFrom_cons i hs hf, runFrom_cons j hs hf]
      exact ih (i + 1) (j + 1) (h.adapter.adapt d s).document (h.adapter.adapt d s).state

/-! ### Watching -/

/-- An adapter that was called, and the document that it was called on. -/
structure Call (σ : Type) where
  handle : Handle σ
  document : Document

/-- A state with the calls that were made so far, oldest first. -/
structure Watched (σ : Type) where
  state : σ
  calls : List (Call σ) := []

/-- An adapter whose calls are written down. -/
def Handle.watched (h : Handle σ) : Handle (Watched σ) where
  identity := h.identity
  adapter :=
    { name := h.name
      adapt := fun d w =>
        let one := h.adapter.adapt d w.state
        ⟨one.document, ⟨one.state, w.calls ++ [⟨h, d⟩]⟩, one.log, one.failure⟩ }

/-- What a watched run leaves apart from the calls. -/
def Passage.unwatched (r : Passage (Watched σ)) : Passage σ :=
  ⟨r.document, r.state.state, r.log, r.failure⟩

namespace Pipeline

/-- Watching does not change what adapters do. -/
theorem runFrom_watched (index : Nat) (hs : List (Handle σ)) (d : Document) (w : Watched σ) :
    (runFrom index (hs.map Handle.watched) d w).unwatched = runFrom index hs d w.state := by
  induction hs generalizing index d w with
  | nil => rfl
  | cons h hs ih =>
    rw [List.map_cons]
    cases hf : (h.adapter.adapt d w.state).failure with
    | some e =>
      have watched : (h.watched.adapter.adapt d w).failure = some e := hf
      rw [runFrom_cons_of_failure index _ watched, runFrom_cons_of_failure index hs hf]
      rfl
    | none =>
      have watched : (h.watched.adapter.adapt d w).failure = none := hf
      have rest := ih (index + 1) (h.adapter.adapt d w.state).document
        (h.watched.adapter.adapt d w).state
      rw [runFrom_cons index _ watched, runFrom_cons index hs hf]
      have state : (h.adapter.adapt d w.state).state
          = (h.watched.adapter.adapt d w).state.state := rfl
      rw [state, ← rest]
      rfl

/-- Calls are only ever added. -/
theorem calls_runFrom (index : Nat) (hs : List (Handle σ)) (d : Document) (w : Watched σ) :
    w.calls <+: (runFrom index (hs.map Handle.watched) d w).state.calls := by
  induction hs generalizing index d w with
  | nil => exact List.prefix_rfl
  | cons h hs ih =>
    have first : w.calls <+: (h.watched.adapter.adapt d w).state.calls :=
      List.prefix_append w.calls [⟨h, d⟩]
    rw [List.map_cons]
    cases hf : (h.watched.adapter.adapt d w).failure with
    | some e => rw [runFrom_cons_of_failure index _ hf]; exact first
    | none => rw [runFrom_cons index _ hf]; exact first.trans (ih (index + 1) _ _)

/-- The first adapter of a run is called, on the document that is there. -/
theorem calls_runFrom_cons (index : Nat) (h : Handle σ) (hs : List (Handle σ)) (d : Document)
    (w : Watched σ) :
    w.calls ++ [⟨h, d⟩] <+: (runFrom index ((h :: hs).map Handle.watched) d w).state.calls := by
  rw [List.map_cons]
  cases hf : (h.watched.adapter.adapt d w).failure with
  | some e => rw [runFrom_cons_of_failure index _ hf]; exact List.prefix_rfl
  | none =>
    rw [runFrom_cons index _ hf]
    exact calls_runFrom (index + 1) hs _ (h.watched.adapter.adapt d w).state

end Pipeline

end VoiceDialogue
