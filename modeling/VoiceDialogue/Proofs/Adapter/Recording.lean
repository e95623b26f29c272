/-
VoiceDialogue/Proofs/Adapter/Recording.lean

What recording adapters have on their tapes.

A tape is private to its recorders: other adapters may listen to it and have
notes of their own, but they do not write on it (`Performer`).  A recorder may
stand at several places of a list, and two recorders may share a tape.

One call adds at most one recording (`recordings_adapt`), and a run adds the
documents that the recorders of the tape were called on, in the order of the
calls, also if the run fails later on (`recordings_runFrom`).
-/
import VoiceDialogue.Adapter.Standard
import VoiceDialogue.Proofs.Adapter.Invocations

namespace VoiceDialogue

/-- A recording is appended to its tape, and the other tapes stay as they are. -/
theorem Tapes.recordings_record (t : Tapes) (k : Nat) (r : Recording) (tape : Nat) :
    (t.record k r).recordings tape = t.recordings tape ++ if k = tape then [r] else [] := by
  rw [recordings, record, List.filter_append, List.map_append]
  by_cases h : k = tape
  · simp [recordings, h]
  · simp [recordings, h]

/-- The tapes, and what all other adapters keep. -/
structure Studio (ρ : Type) where
  tapes : Tapes
  notes : ρ

/-- An adapter in a studio: a recorder with its tape, or an adapter that does
not write on tapes. -/
inductive Performer (ρ : Type)
  | recorder (identity tape : Nat) (name : String) (stamp : Option (String × String))
  | other (h : Handle (Studio ρ)) (silent : ∀ d s, (h.adapter.adapt d s).state.tapes = s.tapes)

namespace Performer

variable {ρ : Type}

/-- The adapter itself. -/
def handle : Performer ρ → Handle (Studio ρ)
  | .recorder identity tape name stamp =>
      ⟨identity, .recording name stamp fun r s => { s with tapes := s.tapes.record tape r }⟩
  | .other h _ => h

/-- The recording of a document on a tape, if this is a recorder of the tape. -/
def recorded? (tape : Nat) (d : Document) : Performer ρ → Option Recording
  | .recorder _ k name _ => if k = tape then some ⟨name, d⟩ else none
  | .other _ _ => none

/-- The recordings on a tape that performers make of the documents that they
get, first document first. -/
def recorded (tape : Nat) (ps : List (Performer ρ)) (ds : List Document) : List Recording :=
  (ps.zip ds).filterMap fun x => x.1.recorded? tape x.2

theorem recorded_cons (tape : Nat) (p : Performer ρ) (ps : List (Performer ρ)) (d : Document)
    (ds : List Document) :
    recorded tape (p :: ps) (d :: ds) = (p.recorded? tape d).toList ++ recorded tape ps ds := by
  rw [recorded, List.zip_cons_cons, List.filterMap_cons]
  cases p.recorded? tape d <;> rfl

/-- One call adds the recording of the document that it is made on, or
nothing. -/
theorem recordings_adapt (p : Performer ρ) (tape : Nat) (d : Document) (s : Studio ρ) :
    (p.handle.adapter.adapt d s).state.tapes.recordings tape =
      s.tapes.recordings tape ++ (p.recorded? tape d).toList := by
  cases p with
  | recorder identity k name stamp =>
    show (s.tapes.record k ⟨name, d⟩).recordings tape = _
    rw [Tapes.recordings_record, recorded?]
    split <;> rfl
  | other h silent =>
    show (h.adapter.adapt d s).state.tapes.recordings tape = _
    rw [silent d s, recorded?, Option.toList_none, List.append_nil]

/-- A run adds the documents that the recorders of a tape were called on, in
the order of the calls. -/
theorem recordings_runFrom (index tape : Nat) (ps : List (Performer ρ)) (d : Document)
    (s : Studio ρ) :
    (Pipeline.runFrom index (ps.map handle) d s).state.tapes.recordings tape =
      s.tapes.recordings tape ++
        recorded tape ps
          ((Pipeline.invocations (ps.map handle) d s).map Invocation.document) := by
  induction ps generalizing index d s with
  | nil => exact (List.append_nil _).symm
  | cons p ps ih =>
    rw [List.map_cons]
    cases hf : (p.handle.adapter.adapt d s).failure with
    | some e =>
      rw [Pipeline.runFrom_cons_of_failure index _ hf,
        Pipeline.invocations_cons_of_failure _ hf, List.map_cons, recorded_cons]
      -- the rest of the performers get nothing to record
      show (p.handle.adapter.adapt d s).state.tapes.recordings tape = _
      rw [recordings_adapt, List.map_nil, recorded, List.zip_nil_right, List.filterMap_nil,
        List.append_nil]
    | none =>
      rw [Pipeline.runFrom_cons index _ hf, Passage.state_after, ih, recordings_adapt,
        Pipeline.invocations_cons _ hf, List.map_cons, recorded_cons, List.append_assoc]

end Performer

end VoiceDialogue
