/-
VoiceDialogue/Adapter/Basic.lean

Adapters: changes that are made to a document after it was rendered.

An adapter may keep notes, consult them later and share them with others.
All such state is one value of a type `σ`, which every run takes and gives
back; nothing is assumed about it.  A run leaves a document in any case, also
when it fails, because a failing adapter may have changed it before.

Adapters are behaviour, so two of them cannot be compared.  A handle gives an
adapter an identity, and handles are equal when their identities are.
-/
import VoiceDialogue.Event
import VoiceDialogue.Markup.Writer
import VoiceDialogue.Text.Quoted

namespace VoiceDialogue

/-- What a run over a document leaves behind. -/
structure Passage (σ : Type) where
  document : Document
  state : σ
  log : List Event
  failure : Option AdapterError

/-- A named change to documents. -/
structure Adapter (σ : Type) where
  name : String
  adapt : Document → σ → Passage σ

/-- A shared adapter. -/
structure Handle (σ : Type) where
  identity : Nat
  adapter : Adapter σ

namespace Handle

variable {σ : Type}

instance : BEq (Handle σ) := ⟨fun a b => a.identity == b.identity⟩

/-- The name of the adapter. -/
def name (h : Handle σ) : String := h.adapter.name

/-- A handle in diagnostics. -/
def description (h : Handle σ) : String := "AdapterRef(" ++ Text.quoted h.name ++ ")"

end Handle

end VoiceDialogue
