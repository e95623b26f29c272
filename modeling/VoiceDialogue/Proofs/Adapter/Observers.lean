/-
VoiceDialogue/Proofs/Adapter/Observers.lean

Observers among other adapters.

An observer looks at a document and leaves it as it is: a tracing adapter logs
its shape, and a recorder that does not stamp puts it on a tape.  Observers may
be put in anywhere in a list of adapters, and a list with some of them is one of
stations (`Station`).  The other adapters may do what they like, but they do not
listen to tapes (`Performer.Deaf`); they may well write on them, and what they
consult they keep in their notes.

A run over all stations and a run over the others alone go side by side
(`Station.beside`): an observer makes a step in the first one only and changes
nothing but the tapes, any other adapter makes the same step in both.  By
induction on the steps, both runs leave the same (`Beside.untaped_runFrom`), the
others are called as before (`Beside.ownCalls_calls`), and an observer gets the
document that the others before it have left (`Beside.getElem?_calls`).
`Station.Course` puts this together with what is recorded and what is logged.
-/
import VoiceDialogue.Proofs.Adapter.Muted
import VoiceDialogue.Proofs.Adapter.Recording

namespace VoiceDialogue

variable {σ ρ : Type}

/-! ### Listening -/

/-- What a run in a studio leaves apart from the tapes. -/
def Passage.untaped (r : Passage (Studio ρ)) : Passage ρ :=
  ⟨r.document, r.state.notes, r.log, r.failure⟩

/-- Runs that leave the same, their tapes and logs aside. -/
theorem Passage.eq_of_untaped {r r' : Passage (Studio ρ)}
    (h : r.untaped.silent = r'.untaped.silent) :
    r.document = r'.document ∧ r.state.notes = r'.state.notes ∧ r.failure = r'.failure := by
  obtain ⟨document, notes, -, failure⟩ := Passage.mk.inj h
  exact ⟨document, notes, failure⟩

namespace Performer

/-- Whether a performer does not listen to tapes: whatever is on them, it does
the same, and makes the same notes.  A tape that it is to listen to has to be
part of the notes. -/
def Deaf (q : Performer ρ) : Prop :=
  ∀ (d : Document) (s s' : Studio ρ), s.notes = s'.notes →
    (q.handle.adapter.adapt d s).untaped = (q.handle.adapter.adapt d s').untaped

/-- Recorders only write. -/
theorem deaf_recorder (identity tape : Nat) (name : String) (stamp : Option (String × String)) :
    (recorder identity tape name stamp : Performer ρ).Deaf := by
  intro d s s' notes
  show (⟨_, s.notes, [], none⟩ : Passage ρ) = ⟨_, s'.notes, [], none⟩
  rw [notes]
  rfl

/-- The performer of a function that needs no state. -/
def function (identity : Nat) (name : String) (f : Document → Document × Option AdapterError) :
    Performer ρ :=
  .other ⟨identity, .ofFunction name f⟩ fun _ _ => rfl

theorem deaf_function (identity : Nat) (name : String)
    (f : Document → Document × Option AdapterError) :
    (function identity name f : Performer ρ).Deaf := by
  intro d s s' notes
  show (⟨(f d).1, s.notes, [], (f d).2⟩ : Passage ρ) = ⟨(f d).1, s'.notes, [], (f d).2⟩
  rw [notes]

end Performer

/-! ### Stations -/

/-- A place in a list of adapters: an observer that was put in, or one of the
other adapters. -/
inductive Station (ρ : Type)
  | tracing (identity : Nat) (withMarkup : Bool)
  | recorder (identity tape : Nat) (name : String)
  | own (q : Performer ρ) (deaf : q.Deaf)

namespace Station

/-- Who is at a station. -/
def performer : Station ρ → Performer ρ
  | .tracing identity withMarkup => .other ⟨identity, .tracing withMarkup⟩ fun _ _ => rfl
  | .recorder identity tape name => .recorder identity tape name none
  | .own q _ => q

/-- The adapter of a station. -/
def handle (x : Station ρ) : Handle (Studio ρ) := x.performer.handle

/-- The adapter of a station, unless it is an observer that was put in. -/
def own? : Station ρ → Option (Handle (Studio ρ))
  | .own q _ => some q.handle
  | _ => none

/-- The adapters of stations. -/
def handles (xs : List (Station ρ)) : List (Handle (Studio ρ)) := xs.map handle

/-- The adapters of stations without the observers that were put in. -/
def owns (xs : List (Station ρ)) : List (Handle (Studio ρ)) := xs.filterMap own?

/-- The calls of these adapters, among all calls of a run over stations: the first
call is that of the first station, and so on. -/
def ownCalls (xs : List (Station ρ)) (cs : List (Call (Studio ρ))) : List (Call (Studio ρ)) :=
  ((xs.zip cs).filter fun x => x.1.own?.isSome).map Prod.snd

variable {x : Station ρ} {h : Handle (Studio ρ)} {s s' : Studio ρ}

theorem handles_cons (x : Station ρ) (xs : List (Station ρ)) :
    handles (x :: xs) = x.handle :: handles xs := rfl

theorem owns_cons_observer (observer : x.own? = none) (xs : List (Station ρ)) :
    owns (x :: xs) = owns xs :=
  List.filterMap_cons_none observer

theorem owns_cons_own (own : x.own? = some h) (xs : List (Station ρ)) :
    owns (x :: xs) = h :: owns xs :=
  List.filterMap_cons_some own

theorem ownCalls_cons_observer (observer : x.own? = none) (xs : List (Station ρ))
    (c : Call (Studio ρ)) (cs : List (Call (Studio ρ))) :
    ownCalls (x :: xs) (c :: cs) = ownCalls xs cs := by
  simp [ownCalls, observer]

theorem ownCalls_cons_own (own : x.own? = some h) (xs : List (Station ρ))
    (c : Call (Studio ρ)) (cs : List (Call (Studio ρ))) :
    ownCalls (x :: xs) (c :: cs) = c :: ownCalls xs cs := by
  simp [ownCalls, own]

/-! ### One step -/

/-- An observer leaves everything but the tapes as it is, and never fails. -/
theorem adapt_observer (observer : x.own? = none) (d : Document) (s : Studio ρ) :
    (x.handle.adapter.adapt d s).document = d ∧
      (x.handle.adapter.adapt d s).state.notes = s.notes ∧
      (x.handle.adapter.adapt d s).failure = none := by
  cases x with
  | tracing identity withMarkup => exact ⟨rfl, rfl, rfl⟩
  | recorder identity tape name => exact ⟨rfl, rfl, rfl⟩
  | own q deaf => cases observer

/-- Any other adapter does the same in both runs. -/
theorem adapt_own (own : x.own? = some h) (d : Document) (notes : s.notes = s'.notes) :
    x.handle = h ∧ (h.adapter.adapt d s).untaped = (h.adapter.adapt d s').untaped := by
  cases x with
  | tracing identity withMarkup => cases own
  | recorder identity tape name => cases own
  | own q deaf =>
    obtain rfl := Option.some.inj own
    exact ⟨rfl, deaf d s s' notes⟩

/-! ### Runs -/

/-- A run over stations beside the run without the observers.  An observer makes
a step in the first one only; any other adapter makes the same step in both, and
both of them end if it fails. -/
inductive Beside : List (Station ρ) → Document → Studio ρ → Studio ρ → Prop
  | done {d s s'} (notes : s.notes = s'.notes) : Beside [] d s s'
  | observer {x xs d s s'} (observer : x.own? = none)
      (document : (x.handle.adapter.adapt d s).document = d)
      (fine : (x.handle.adapter.adapt d s).failure = none)
      (rest : Beside xs d (x.handle.adapter.adapt d s).state s') : Beside (x :: xs) d s s'
  | next {x xs d s s'} (own : x.own? = some x.handle)
      (document : (x.handle.adapter.adapt d s).document = (x.handle.adapter.adapt d s').document)
      (fine : (x.handle.adapter.adapt d s).failure = none)
      (fine' : (x.handle.adapter.adapt d s').failure = none)
      (rest : Beside xs (x.handle.adapter.adapt d s').document (x.handle.adapter.adapt d s).state
        (x.handle.adapter.adapt d s').state) : Beside (x :: xs) d s s'
  | failed {x xs d s s' e} (own : x.own? = some x.handle)
      (same : (x.handle.adapter.adapt d s).untaped = (x.handle.adapter.adapt d s').untaped)
      (failure : (x.handle.adapter.adapt d s).failure = some e)
      (failure' : (x.handle.adapter.adapt d s').failure = some e) : Beside (x :: xs) d s s'

/-- The two runs go side by side if they start with the same notes. -/
theorem beside (xs : List (Station ρ)) (d : Document) (notes : s.notes = s'.notes) :
    Beside xs d s s' := by
  induction xs generalizing d s s' with
  | nil => exact .done notes
  | cons x xs ih =>
    cases hx : x.own? with
    | none =>
      obtain ⟨document, kept, fine⟩ := adapt_observer hx d s
      exact .observer hx document fine (ih d (kept.trans notes))
    | some h =>
      obtain ⟨rfl, same⟩ := adapt_own hx d notes
      obtain ⟨document, kept, failure⟩ := Passage.eq_of_untaped (congrArg Passage.silent same)
      cases hf : (x.handle.adapter.adapt d s).failure with
      | some e => exact .failed hx same hf (failure.symm.trans hf)
      | none => exact .next hx document hf (failure.symm.trans hf) (ih _ kept)

/-- A run over stations leaves what the run without the observers leaves, tapes
and log aside. -/
theorem Beside.untaped_runFrom {xs : List (Station ρ)} {d : Document} (b : Beside xs d s s')
    (i j : Nat) :
    (Pipeline.runFrom i (handles xs) d s).untaped.silent =
      (Pipeline.runFrom j (owns xs) d s').untaped.silent := by
  induction b generalizing i j with
  | @done d s s' notes =>
    show (⟨d, s.notes, [], none⟩ : Passage ρ) = ⟨d, s'.notes, [], none⟩
    rw [notes]
  | observer observer document fine _ ih =>
    rw [handles_cons, owns_cons_observer observer, Pipeline.runFrom_cons i _ fine, document]
    exact ih (i + 1) j
  | next own document fine fine' _ ih =>
    rw [handles_cons, owns_cons_own own, Pipeline.runFrom_cons i _ fine,
      Pipeline.runFrom_cons j _ fine', document]
    exact ih (i + 1) (j + 1)
  | @failed x xs d s s' e own same failure failure' =>
    obtain ⟨document, kept, -⟩ := Passage.eq_of_untaped (congrArg Passage.silent same)
    rw [handles_cons, owns_cons_own own, Pipeline.runFrom_cons_of_failure i _ failure,
      Pipeline.runFrom_cons_of_failure j _ failure']
    show (⟨_, (x.handle.adapter.adapt d s).state.notes, [], some e⟩ : Passage ρ) = _
    rw [document, kept]
    rfl

/-- The calls of the other adapters are those of the run without observers. -/
theorem Beside.ownCalls_calls {xs : List (Station ρ)} {d : Document} (b : Beside xs d s s') :
    ownCalls xs (Pipeline.calls (handles xs) d s) = Pipeline.calls (owns xs) d s' := by
  rw [Pipeline.calls_eq, Pipeline.calls_eq]
  induction b with
  | done _ => rfl
  | observer observer document fine _ ih =>
    rw [handles_cons, owns_cons_observer observer, Pipeline.invocations_cons _ fine,
      List.map_cons, ownCalls_cons_observer observer, document]
    exact ih
  | next own document fine fine' _ ih =>
    rw [handles_cons, owns_cons_own own, Pipeline.invocations_cons _ fine,
      Pipeline.invocations_cons _ fine', List.map_cons, List.map_cons, ownCalls_cons_own own,
      document]
    exact congrArg (_ :: ·) ih
  | failed own _ failure failure' =>
    rw [handles_cons, owns_cons_own own, Pipeline.invocations_cons_of_failure _ failure,
      Pipeline.invocations_cons_of_failure _ failure', List.map_singleton,
      ownCalls_cons_own own, ownCalls, List.zip_nil_right]
    rfl

end Station

/-! ### Positions -/

/-- The document that adapters leave, unless one of them fails. -/
def Pipeline.left? (hs : List (Handle σ)) (d : Document) (s : σ) : Option Document :=
  match (runAll hs d s).failure with
  | some _ => none
  | none => some (runAll hs d s).document

theorem Pipeline.left?_cons_of_failure {h : Handle σ} {d : Document} {s : σ} {e : AdapterError}
    (hs : List (Handle σ)) (hf : (h.adapter.adapt d s).failure = some e) :
    left? (h :: hs) d s = none := by
  simp only [left?, runAll, runFrom_cons_of_failure 0 hs hf]

theorem Pipeline.left?_cons {h : Handle σ} {d : Document} {s : σ} (hs : List (Handle σ))
    (hf : (h.adapter.adapt d s).failure = none) :
    left? (h :: hs) d s =
      left? hs (h.adapter.adapt d s).document (h.adapter.adapt d s).state := by
  obtain ⟨document, -, failure⟩ := Passage.eq_of_silent
    (silent_runFrom 1 0 hs (h.adapter.adapt d s).document (h.adapter.adapt d s).state)
  simp only [left?, runAll, runFrom_cons 0 hs hf, Passage.failure_after, Passage.document_after]
  rw [failure, document]

namespace Station

variable {s s' : Studio ρ}

/-- A station is called if the other adapters before it succeed, and on the
document that they leave. -/
theorem Beside.getElem?_calls {xs : List (Station ρ)} {d : Document} (b : Beside xs d s s')
    (i : Nat) :
    (Pipeline.calls (handles xs) d s)[i]? =
      xs[i]?.bind fun x => (Pipeline.left? (owns (xs.take i)) d s').map (⟨x.handle, ·⟩) := by
  rw [Pipeline.calls_eq]
  induction b generalizing i with
  | done _ => rfl
  | observer observer document fine _ ih =>
    cases i with
    | zero => rfl
    | succ i =>
      rw [handles_cons, Pipeline.invocations_cons _ fine, List.map_cons,
        List.getElem?_cons_succ, List.getElem?_cons_succ, List.take_succ_cons,
        owns_cons_observer observer, document]
      exact ih i
  | next own document fine fine' _ ih =>
    cases i with
    | zero => rfl
    | succ i =>
      rw [handles_cons, Pipeline.invocations_cons _ fine, List.map_cons,
        List.getElem?_cons_succ, List.getElem?_cons_succ, List.take_succ_cons,
        owns_cons_own own, Pipeline.left?_cons _ fine', document]
      exact ih i
  | failed own _ failure failure' =>
    cases i with
    | zero => rfl
    | succ i =>
      rw [handles_cons, Pipeline.invocations_cons_of_failure _ failure, List.take_succ_cons,
        owns_cons_own own, Pipeline.left?_cons_of_failure _ failure']
      simp

/-! ### Together -/

/-- The course of a run over stations: the calls that are made in it, and what
it does to the tapes.  It is told by a run without the observers, in which
`plain` are the calls and `left?` is the document that adapters leave. -/
structure Course (xs : List (Station ρ)) (made : List (Invocation (Studio ρ)))
    (plain : List (Call (Studio ρ))) (left? : List (Handle (Studio ρ)) → Option Document)
    (before after : Tapes) : Prop where
  /-- The other adapters are called as before. -/
  own : ownCalls xs (made.map Invocation.call) = plain
  /-- A station is called if the other adapters before it leave a document, and
  on this document. -/
  reached : ∀ i, (made.map Invocation.call)[i]? =
    xs[i]?.bind fun x => (left? (owns (xs.take i))).map (⟨x.handle, ·⟩)
  /-- A tape gets the documents that its recorders are called on. -/
  recorded : ∀ tape, after.recordings tape = before.recordings tape ++
    Performer.recorded tape (xs.map performer) (made.map Invocation.document)
  /-- A tracing adapter logs the shape of the document that it is called on. -/
  traced : ∀ {i : Nat} {v : Invocation (Studio ρ)} {identity : Nat} {withMarkup : Bool},
    xs[i]? = some (.tracing identity withMarkup) → made[i]? = some v →
      v.passage.log =
        .documentCompiled v.document.root.name v.document.root.descendants.length
            (v.document.root.descendants.filter (·.name = "prompt")).length
            (v.document.root.attribute? "application") ::
          if withMarkup then [.documentMarkup v.document.text] else []

/-- The course of a run that takes place. -/
theorem course_runAll (xs : List (Station ρ)) (d : Document) (notes : s.notes = s'.notes) :
    Course xs (Pipeline.invocations (handles xs) d s) (Pipeline.calls (owns xs) d s')
      (Pipeline.left? · d s') s.tapes (Pipeline.runAll (handles xs) d s).state.tapes where
  own := by
    rw [← Pipeline.calls_eq]
    exact (beside xs d notes).ownCalls_calls
  reached i := by
    rw [← Pipeline.calls_eq]
    exact (beside xs d notes).getElem?_calls i
  recorded tape := by
    have run := Performer.recordings_runFrom 0 tape (xs.map performer) d s
    rw [List.map_map] at run
    exact run
  traced := by
    intro i v identity withMarkup at_i call
    obtain ⟨there, -⟩ := Pipeline.getElem?_invocations.1 call
    rw [handles, List.getElem?_map, at_i] at there
    rw [Invocation.passage, ← Option.some.inj there]
    rfl

/-- The course of a run that does not take place. -/
theorem course_none (xs : List (Station ρ)) (t : Tapes) :
    Course xs [] [] (fun _ => none) t t where
  own := by rw [List.map_nil, ownCalls, List.zip_nil_right]; rfl
  reached i := by simp
  recorded tape := by rw [List.map_nil, Performer.recorded, List.zip_nil_right]; simp
  traced _ call := nomatch call

end Station

end VoiceDialogue
