/-
VoiceDialogue/Adapter/Pipeline.lean

Running adapters one after the other.

Each adapter gets the document as the one before left it.  The first failure
ends the run: later adapters are not called, and the error is handed on as it
is.  Before an adapter is called, its position is logged, counted from zero
in every run.
-/
import VoiceDialogue.Adapter.Basic

namespace VoiceDialogue

/-- Adapters in the order in which they run. -/
structure Pipeline (σ : Type) where
  handles : List (Handle σ) := []

namespace Pipeline

variable {σ : Type}

/-! ### Putting together -/

/-- Appends an adapter. -/
def add (p : Pipeline σ) (h : Handle σ) : Pipeline σ := ⟨p.handles ++ [h]⟩

/-- Appends several adapters, in their order. -/
def extend (p : Pipeline σ) (hs : List (Handle σ)) : Pipeline σ := ⟨p.handles ++ hs⟩

/-- The pipeline of several adapters, in their order. -/
def ofList (hs : List (Handle σ)) : Pipeline σ := ⟨hs⟩

/-- The number of adapters. -/
def length (p : Pipeline σ) : Nat := p.handles.length

/-- Whether there is no adapter. -/
def isEmpty (p : Pipeline σ) : Bool := p.handles.isEmpty

/-! ### Running -/

/-- Runs adapters over a document, the first one at the given position. -/
def runFrom (index : Nat) : List (Handle σ) → Document → σ → Passage σ
  | [], d, s => ⟨d, s, [], none⟩
  | h :: rest, d, s =>
      let one := h.adapter.adapt d s
      let log := .adapterApply h.name index :: one.log
      match one.failure with
      | some e => ⟨one.document, one.state, log ++ [.adapterFailed h.name index e], some e⟩
      | none =>
          let more := runFrom (index + 1) rest one.document one.state
          { more with log := log ++ more.log }

/-- Runs adapters over a document. -/
def runAll (hs : List (Handle σ)) (d : Document) (s : σ) : Passage σ := runFrom 0 hs d s

/-- Runs a pipeline over a document. -/
def run (p : Pipeline σ) (d : Document) (s : σ) : Passage σ := runAll p.handles d s

end Pipeline

end VoiceDialogue
