/-
VoiceDialogue/Proofs/Adapter/Invocations.lean

The calls of a run, one by one.

A run is described here without running it.  A position is reached if every
adapter before it succeeded, and it gets the document and the state that these
left (`Pipeline.Reaches`).  A run ends when all positions have been passed, or
with the first adapter that fails, and keeps what that one left
(`Pipeline.Ends`).

`Pipeline.invocations` lists the positions that are reached.  Three lemmas tie
the list to the run: it holds exactly the calls that watched adapters write
down (`calls_runFrom_watched`), its length says where the run ends
(`ends_iff`), and the log of the run has one entry for each call and the
adapter's own events behind it (`log_runFrom_of_success`,
`log_runFrom_of_failure`).
-/
import VoiceDialogue.Proofs.Adapter.Sequence

namespace VoiceDialogue

variable {σ : Type}

/-- An adapter that is called, and what it is called on. -/
structure Invocation (σ : Type) where
  handle : Handle σ
  document : Document
  state : σ

namespace Invocation

/-- What the call leaves. -/
def passage (c : Invocation σ) : Passage σ := c.handle.adapter.adapt c.document c.state

/-- The call as it is written down. -/
def call (c : Invocation σ) : Call σ := ⟨c.handle, c.document⟩

/-- What a call adds to a log: that it is about to be made, and what the
adapter logs. -/
def entry (c : Invocation σ) (index : Nat) : List Event :=
  .adapterApply c.handle.name index :: c.passage.log

end Invocation

namespace Pipeline

/-! ### Positions and ends -/

section

variable (hs : List (Handle σ)) (d : Document) (s : σ)

/-- A position that is reached, and the document and the state that are there:
all adapters before it succeeded, each on what the one before left. -/
inductive Reaches : Nat → Document → σ → Prop
  | start : Reaches 0 d s
  | next {i d' s' h} :
      Reaches i d' s' → hs[i]? = some h → (h.adapter.adapt d' s').failure = none →
      Reaches (i + 1) (h.adapter.adapt d' s').document (h.adapter.adapt d' s').state

/-- How a run ends: after how many calls, with which document and which state,
and with which error.  Either the position behind the last adapter is reached,
or an adapter fails, and then its error and what it left are the end. -/
inductive Ends : Nat → Document → σ → Option AdapterError → Prop
  | completed {d' s'} : Reaches hs d s hs.length d' s' → Ends hs.length d' s' none
  | failed {k h d' s' e} :
      Reaches hs d s k d' s' → hs[k]? = some h → (h.adapter.adapt d' s').failure = some e →
      Ends (k + 1) (h.adapter.adapt d' s').document (h.adapter.adapt d' s').state (some e)

end

/-- The calls of a run, first call first. -/
def invocations : List (Handle σ) → Document → σ → List (Invocation σ)
  | [], _, _ => []
  | h :: rest, d, s =>
      ⟨h, d, s⟩ ::
        match (h.adapter.adapt d s).failure with
        | some _ => []
        | none => invocations rest (h.adapter.adapt d s).document (h.adapter.adapt d s).state

theorem invocations_cons_of_failure {h : Handle σ} {d : Document} {s : σ} {e : AdapterError}
    (hs : List (Handle σ)) (hf : (h.adapter.adapt d s).failure = some e) :
    invocations (h :: hs) d s = [⟨h, d, s⟩] := by
  simp only [invocations, hf]

theorem invocations_cons {h : Handle σ} {d : Document} {s : σ} (hs : List (Handle σ))
    (hf : (h.adapter.adapt d s).failure = none) :
    invocations (h :: hs) d s =
      ⟨h, d, s⟩ :: invocations hs (h.adapter.adapt d s).document (h.adapter.adapt d s).state := by
  simp only [invocations, hf]

variable {hs : List (Handle σ)} {h : Handle σ} {d d' : Document} {s s' : σ}

/-! ### One step -/

/-- Behind the first adapter, a position is reached as it would be from what
that adapter left. -/
theorem reaches_cons_succ_iff {i : Nat} :
    Reaches (h :: hs) d s (i + 1) d' s' ↔
      (h.adapter.adapt d s).failure = none ∧
        Reaches hs (h.adapter.adapt d s).document (h.adapter.adapt d s).state i d' s' := by
  constructor
  · intro r
    induction i generalizing d' s' with
    | zero =>
      cases r with
      | next first at0 fine =>
        cases first
        obtain rfl := Option.some.inj at0
        exact ⟨fine, .start⟩
    | succ i ih =>
      cases r with
      | next earlier ati fine =>
        obtain ⟨first, rest⟩ := ih earlier
        exact ⟨first, .next rest ati fine⟩
  · rintro ⟨first, r⟩
    induction r with
    | start => exact .next .start rfl first
    | next _ ati fine ih => exact .next ih ati fine

/-- A run ends as its rest ends, one call later. -/
theorem Ends.cons {n : Nat} {f : Option AdapterError}
    (first : (h.adapter.adapt d s).failure = none)
    (rest : Ends hs (h.adapter.adapt d s).document (h.adapter.adapt d s).state n d' s' f) :
    Ends (h :: hs) d s (n + 1) d' s' f := by
  cases rest with
  | completed r => exact .completed (reaches_cons_succ_iff.2 ⟨first, r⟩)
  | failed r at_k hf => exact .failed (reaches_cons_succ_iff.2 ⟨first, r⟩) at_k hf

/-! ### Runs -/

/-- The call at a position is there exactly if the position is reached, and it
is made on what is there. -/
theorem getElem?_invocations {i : Nat} {c : Invocation σ} :
    (invocations hs d s)[i]? = some c ↔
      hs[i]? = some c.handle ∧ Reaches hs d s i c.document c.state := by
  induction hs generalizing d s i with
  | nil => simp [invocations]
  | cons h hs ih =>
    cases i with
    | zero =>
      have first : (invocations (h :: hs) d s)[0]? = some ⟨h, d, s⟩ := rfl
      rw [first]
      constructor
      · intro same
        obtain rfl := Option.some.inj same
        exact ⟨rfl, .start⟩
      · rintro ⟨handle, r⟩
        obtain ⟨g, d', s'⟩ := c
        obtain rfl := Option.some.inj handle
        cases r
        rfl
    | succ i =>
      rw [reaches_cons_succ_iff, List.getElem?_cons_succ]
      cases hf : (h.adapter.adapt d s).failure with
      | some e => simp [invocations_cons_of_failure hs hf]
      | none =>
        rw [invocations_cons hs hf, List.getElem?_cons_succ, ih]
        simp only [true_and]

/-- A run ends in one way, after its last call. -/
theorem ends_iff (index : Nat) {n : Nat} {f : Option AdapterError} :
    Ends hs d s n d' s' f ↔
      n = (invocations hs d s).length ∧ d' = (runFrom index hs d s).document ∧
        s' = (runFrom index hs d s).state ∧ f = (runFrom index hs d s).failure := by
  constructor
  · intro ends
    induction hs generalizing index d s n d' s' f with
    | nil =>
      cases ends with
      | completed r =>
        cases r
        exact ⟨rfl, rfl, rfl, rfl⟩
      | failed _ at_k _ => cases at_k
    | cons h hs ih =>
      cases ends with
      | completed r =>
        obtain ⟨first, r⟩ := reaches_cons_succ_iff.1 r
        obtain ⟨calls, rest⟩ := ih (index + 1) (.completed r)
        rw [runFrom_cons index hs first, invocations_cons hs first]
        exact ⟨congrArg (· + 1) calls, rest⟩
      | @failed k _ _ _ _ r at_k hf =>
        cases k with
        | zero =>
          -- the first adapter fails, and there is no rest
          cases r
          obtain rfl := Option.some.inj at_k
          rw [runFrom_cons_of_failure index hs hf, invocations_cons_of_failure hs hf]
          exact ⟨rfl, rfl, rfl, rfl⟩
        | succ k =>
          obtain ⟨first, r⟩ := reaches_cons_succ_iff.1 r
          obtain ⟨calls, rest⟩ := ih (index + 1) (.failed r at_k hf)
          rw [runFrom_cons index hs first, invocations_cons hs first]
          exact ⟨congrArg (· + 1) calls, rest⟩
  · rintro ⟨rfl, rfl, rfl, rfl⟩
    induction hs generalizing index d s with
    | nil => exact .completed .start
    | cons h hs ih =>
      cases hf : (h.adapter.adapt d s).failure with
      | some e =>
        rw [runFrom_cons_of_failure index hs hf, invocations_cons_of_failure hs hf]
        exact .failed .start rfl hf
      | none =>
        rw [runFrom_cons index hs hf, invocations_cons hs hf]
        exact .cons hf (ih (index + 1))

/-- Watched adapters write down the calls of the run. -/
theorem calls_runFrom_watched (index : Nat) (hs : List (Handle σ)) (d : Document)
    (w : Watched σ) :
    (runFrom index (hs.map Handle.watched) d w).state.calls =
      w.calls ++ (invocations hs d w.state).map Invocation.call := by
  induction hs generalizing index d w with
  | nil => exact (List.append_nil w.calls).symm
  | cons h hs ih =>
    rw [List.map_cons]
    cases hf : (h.adapter.adapt d w.state).failure with
    | some e =>
      have watched : (h.watched.adapter.adapt d w).failure = some e := hf
      rw [runFrom_cons_of_failure index _ watched, invocations_cons_of_failure hs hf]
      rfl
    | none =>
      have watched : (h.watched.adapter.adapt d w).failure = none := hf
      rw [runFrom_cons index _ watched, Passage.state_after, ih, invocations_cons hs hf,
        List.map_cons]
      -- what the watched adapter wrote down comes before the other calls
      exact List.append_assoc w.calls [⟨h, d⟩] _

/-- The calls of a run, as watched adapters write them down. -/
def calls (hs : List (Handle σ)) (d : Document) (s : σ) : List (Call σ) :=
  (runAll (hs.map Handle.watched) d ⟨s, []⟩).state.calls

theorem calls_eq (hs : List (Handle σ)) (d : Document) (s : σ) :
    calls hs d s = (invocations hs d s).map Invocation.call :=
  calls_runFrom_watched 0 hs d ⟨s, []⟩

/-- The call of a position is written down exactly if the position is reached,
and it is made on the document that is there. -/
theorem getElem?_calls {i : Nat} {c : Call σ} :
    (calls hs d s)[i]? = some c ↔ hs[i]? = some c.handle ∧ ∃ s', Reaches hs d s i c.document s' := by
  rw [calls_eq, List.getElem?_map, Option.map_eq_some_iff]
  constructor
  · rintro ⟨v, there, rfl⟩
    obtain ⟨handle, reached⟩ := getElem?_invocations.1 there
    exact ⟨handle, v.state, reached⟩
  · rintro ⟨handle, s', reached⟩
    exact ⟨⟨c.handle, c.document, s'⟩, getElem?_invocations.2 ⟨handle, reached⟩, rfl⟩

/-! ### Logs -/

/-- What calls add to a log, if the first one is at the given position. -/
def entries (index : Nat) (cs : List (Invocation σ)) : List Event :=
  (cs.zipIdx index).flatMap fun c => c.1.entry c.2

theorem entries_cons (index : Nat) (c : Invocation σ) (cs : List (Invocation σ)) :
    entries index (c :: cs) = c.entry index ++ entries (index + 1) cs := by
  rw [entries, List.zipIdx_cons, List.flatMap_cons]
  rfl

/-- A run that succeeds calls every adapter and logs the calls. -/
theorem log_runFrom_of_success {index : Nat} (hf : (runFrom index hs d s).failure = none) :
    (runFrom index hs d s).log = entries index (invocations hs d s) ∧
      (invocations hs d s).length = hs.length := by
  induction hs generalizing index d s with
  | nil => exact ⟨rfl, rfl⟩
  | cons h hs ih =>
    cases hh : (h.adapter.adapt d s).failure with
    | some e => rw [runFrom_cons_of_failure index hs hh] at hf; cases hf
    | none =>
      rw [runFrom_cons index hs hh, Passage.failure_after] at hf
      obtain ⟨log, all⟩ := ih hf
      rw [runFrom_cons index hs hh, invocations_cons hs hh, entries_cons, Passage.log_after, log,
        List.length_cons, all]
      exact ⟨rfl, rfl⟩

/-- A run that fails logs the calls and then the failure of the last one. -/
theorem log_runFrom_of_failure {index : Nat} {e : AdapterError}
    (hf : (runFrom index hs d s).failure = some e) :
    ∃ earlier c, invocations hs d s = earlier ++ [c] ∧ c.passage.failure = some e ∧
      (runFrom index hs d s).log = entries index (invocations hs d s) ++
        [.adapterFailed c.handle.name (index + earlier.length) e] := by
  induction hs generalizing index d s with
  | nil => cases hf
  | cons h hs ih =>
    cases hh : (h.adapter.adapt d s).failure with
    | some e' =>
      rw [runFrom_cons_of_failure index hs hh] at hf
      obtain rfl := Option.some.inj hf
      refine ⟨[], ⟨h, d, s⟩, invocations_cons_of_failure hs hh, hh, ?_⟩
      rw [runFrom_cons_of_failure index hs hh, invocations_cons_of_failure hs hh, entries_cons]
      simp [entries, Invocation.entry, Invocation.passage]
    | none =>
      rw [runFrom_cons index hs hh, Passage.failure_after] at hf
      obtain ⟨earlier, c, calls, failed, log⟩ := ih hf
      refine ⟨⟨h, d, s⟩ :: earlier, c, ?_, failed, ?_⟩
      · rw [invocations_cons hs hh, calls, List.cons_append]
      · have position : index + 1 + earlier.length = index + (earlier.length + 1) := by omega
        rw [runFrom_cons index hs hh, invocations_cons hs hh, entries_cons, Passage.log_after,
          log, List.length_cons, position, ← List.append_assoc]
        rfl

end Pipeline

end VoiceDialogue
