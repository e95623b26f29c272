/-
VoiceDialogue/Adapter/Standard.lean

Ready-made adapters.

Two of them observe.  A tracing adapter logs the shape of a document.  A
recording adapter keeps a copy of every document that it sees, on a tape, and
may stamp the root afterwards, so that a later adapter can tell that it was
there.  A failing adapter always gives up, and a function can be made into an
adapter.
-/
import VoiceDialogue.Adapter.Basic

namespace VoiceDialogue

/-- A document as a recording adapter saw it. -/
structure Recording where
  adapter : String
  document : Document
deriving DecidableEq

/-- The tapes of all recording adapters, in one list, oldest recording first;
every recording is marked with the number of its tape. -/
structure Tapes where
  marked : List (Nat × Recording) := []
deriving DecidableEq

namespace Tapes

/-- Appends a recording to a tape. -/
def record (tape : Nat) (r : Recording) (t : Tapes) : Tapes := ⟨t.marked ++ [(tape, r)]⟩

/-- The recordings on a tape, oldest first. -/
def recordings (t : Tapes) (tape : Nat) : List Recording :=
  (t.marked.filter (·.1 = tape)).map Prod.snd

end Tapes

namespace Adapter

variable {σ : Type}

/-! ### Observers -/

/-- The shape of a document. -/
def shape (d : Document) : Event :=
  .documentCompiled d.root.name d.root.size (d.root.findAll "prompt").length
    (d.root.attribute? "application")

/-- Logs the shape of a document, and its text if asked to. -/
def tracing (withMarkup : Bool) : Adapter σ where
  name := "tracing"
  adapt d s := ⟨d, s, shape d :: if withMarkup then [.documentMarkup d.text] else [], none⟩

/-- Records documents by means of `record`, which appends to the tape of this
adapter, and then stamps the root if there is a stamp. -/
def recording (name : String) (stamp : Option (String × String)) (record : Recording → σ → σ) :
    Adapter σ where
  name := name
  adapt d s :=
    let stamped :=
      match stamp with
      | none => d
      | some (attr, value) => { d with root := d.root.setAttribute attr value }
    ⟨stamped, record ⟨name, d⟩ s, [], none⟩

/-! ### Others -/

/-- Always fails, with the given message. -/
def failing (message : String) : Adapter σ where
  name := "failing"
  adapt d s := ⟨d, s, [], some (.failed message)⟩

/-- The adapter of a function that needs no state. -/
def ofFunction (name : String) (f : Document → Document × Option AdapterError) : Adapter σ where
  name := name
  adapt d s := ⟨(f d).1, s, [], (f d).2⟩

/-- The adapter of a function in diagnostics. -/
def functionDescription (a : Adapter σ) : String :=
  "AdapterFn \x7b name: " ++ Text.quoted a.name ++ " \x7d"

end Adapter

end VoiceDialogue
