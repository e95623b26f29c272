/-
VoiceDialogue/Proofs/Adapter/Muted.lean

What a run logs itself.

The log of a run also holds what its adapters log, and an adapter may log
anything, even what a compilation logs.  To see what the run says itself, the
adapters are muted: a muted adapter does what it did and logs nothing
(`Handle.muted`).  The run leaves the same, its log aside
(`Pipeline.silent_runFrom_muted`), and the log that is left is part of the one
before (`Pipeline.sublist_log_muted`): the calls, and one failure if there is
one (`Pipeline.log_muted`).
-/
import VoiceDialogue.Proofs.Adapter.Invocations

namespace VoiceDialogue

variable {σ : Type}

/-- An adapter that logs nothing. -/
def Handle.muted (h : Handle σ) : Handle σ where
  identity := h.identity
  adapter :=
    { name := h.name
      adapt := fun d s => (h.adapter.adapt d s).silent }

/-- Runs that leave the same, their logs aside. -/
theorem Passage.eq_of_silent {r r' : Passage σ} (h : r.silent = r'.silent) :
    r.document = r'.document ∧ r.state = r'.state ∧ r.failure = r'.failure := by
  obtain ⟨document, state, -, failure⟩ := Passage.mk.inj h
  exact ⟨document, state, failure⟩

namespace Pipeline

/-! ### One step -/

variable {h : Handle σ} {d : Document} {s : σ} {e : AdapterError}

theorem runFrom_muted_cons_of_failure (index : Nat) (hs : List (Handle σ))
    (hf : (h.adapter.adapt d s).failure = some e) :
    runFrom index ((h :: hs).map Handle.muted) d s =
      ⟨(h.adapter.adapt d s).document, (h.adapter.adapt d s).state,
        [.adapterApply h.name index, .adapterFailed h.name index e], some e⟩ := by
  have muted : (h.muted.adapter.adapt d s).failure = some e := hf
  exact runFrom_cons_of_failure index (hs.map Handle.muted) muted

theorem runFrom_muted_cons (index : Nat) (hs : List (Handle σ))
    (hf : (h.adapter.adapt d s).failure = none) :
    runFrom index ((h :: hs).map Handle.muted) d s =
      (runFrom (index + 1) (hs.map Handle.muted) (h.adapter.adapt d s).document
        (h.adapter.adapt d s).state).after [.adapterApply h.name index] := by
  have muted : (h.muted.adapter.adapt d s).failure = none := hf
  exact runFrom_cons index (hs.map Handle.muted) muted

/-! ### Runs -/

/-- Muting changes nothing but the log. -/
theorem silent_runFrom_muted (index : Nat) (hs : List (Handle σ)) (d : Document) (s : σ) :
    (runFrom index (hs.map Handle.muted) d s).silent = (runFrom index hs d s).silent := by
  induction hs generalizing index d s with
  | nil => rfl
  | cons h hs ih =>
    cases hf : (h.adapter.adapt d s).failure with
    | some e =>
      rw [runFrom_muted_cons_of_failure index hs hf, runFrom_cons_of_failure index hs hf]
      rfl
    | none =>
      -- the rest starts from the same document and the same state
      rw [runFrom_muted_cons index hs hf, runFrom_cons index hs hf]
      exact ih (index + 1) _ _

/-- Nothing is logged that was not logged before. -/
theorem sublist_log_muted (index : Nat) (hs : List (Handle σ)) (d : Document) (s : σ) :
    (runFrom index (hs.map Handle.muted) d s).log.Sublist (runFrom index hs d s).log := by
  induction hs generalizing index d s with
  | nil => exact List.Sublist.refl _
  | cons h hs ih =>
    cases hf : (h.adapter.adapt d s).failure with
    | some e =>
      rw [runFrom_muted_cons_of_failure index hs hf, runFrom_cons_of_failure index hs hf]
      -- the call and the failure stay, what the adapter logs in between goes
      exact (List.sublist_append_right _ [_]).cons_cons _
    | none =>
      rw [runFrom_muted_cons index hs hf, runFrom_cons index hs hf]
      exact ((ih (index + 1) _ _).trans (List.sublist_append_right _ _)).cons_cons _

/-! ### Calls -/

/-- That an adapter is called. -/
def IsCall (x : Event) : Prop := ∃ adapter index, x = .adapterApply adapter index

/-- How a run closes its log: with its failure, if there is one. -/
def ClosesRun : Option AdapterError → List Event → Prop
  | none, log => log = []
  | some e, log => ∃ adapter index, log = [.adapterFailed adapter index e]

/-- Whatever muted adapters are called on, they log nothing. -/
theorem log_passage_of_mem_invocations {hs : List (Handle σ)} {d : Document} {s : σ}
    {c : Invocation σ} (h : c ∈ invocations (hs.map Handle.muted) d s) : c.passage.log = [] := by
  obtain ⟨i, there⟩ := List.getElem?_of_mem h
  obtain ⟨handle, -⟩ := getElem?_invocations.1 there
  rw [List.getElem?_map] at handle
  obtain ⟨own, -, muted⟩ := Option.map_eq_some_iff.1 handle
  rw [Invocation.passage, ← muted]
  rfl

/-- Calls that log nothing leave nothing but the calls in the log. -/
theorem isCall_of_mem_entries {index : Nat} {cs : List (Invocation σ)}
    (quiet : ∀ c ∈ cs, c.passage.log = []) : ∀ x ∈ entries index cs, IsCall x := by
  induction cs generalizing index with
  | nil => exact nofun
  | cons c cs ih =>
    obtain ⟨first, rest⟩ := List.forall_mem_cons.1 quiet
    rw [entries_cons, Invocation.entry, first, List.singleton_append, List.forall_mem_cons]
    exact ⟨⟨_, _, rfl⟩, ih rest⟩

/-- A run of muted adapters logs its calls, at least one unless there are no
adapters, and then its failure if it fails. -/
theorem log_muted (index : Nat) (hs : List (Handle σ)) (d : Document) (s : σ) :
    ∃ calls closing, (runFrom index (hs.map Handle.muted) d s).log = calls ++ closing ∧
      (∀ x ∈ calls, IsCall x) ∧ (calls = [] ↔ hs = []) ∧
      ClosesRun (runFrom index hs d s).failure closing := by
  obtain ⟨-, -, failure⟩ := Passage.eq_of_silent (silent_runFrom_muted index hs d s)
  have calls : ∀ x ∈ entries index (invocations (hs.map Handle.muted) d s), IsCall x :=
    isCall_of_mem_entries fun _ => log_passage_of_mem_invocations
  have none_iff : entries index (invocations (hs.map Handle.muted) d s) = [] ↔ hs = [] := by
    cases hs with
    | nil => exact iff_of_true rfl rfl
    | cons h rest =>
      rw [List.map_cons, invocations, entries_cons]
      exact iff_of_false (List.cons_ne_nil _ _) (List.cons_ne_nil _ _)
  rw [← failure]
  cases hf : (runFrom index (hs.map Handle.muted) d s).failure with
  | none =>
    refine ⟨_, [], ?_, calls, none_iff, rfl⟩
    rw [(log_runFrom_of_success hf).1, List.append_nil]
  | some e =>
    obtain ⟨earlier, last, -, -, log⟩ := log_runFrom_of_failure hf
    exact ⟨_, [_], log, calls, none_iff, _, _, rfl⟩

end Pipeline

end VoiceDialogue
