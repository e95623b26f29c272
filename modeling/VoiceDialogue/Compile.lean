/-
VoiceDialogue/Compile.lean

Compiling turns.

A turn is rendered, its adapters run over the document, and the document is
searched for characters that markup cannot carry; the first failure is the
result.  Every step is logged.  An obstacle is logged as a failure of the
turn, an adapter's error only where the adapter ran.

A compiler has adapters of its own.  It compiles the turn as it is, then runs
them over the finished document, counting positions from zero again, and then
searches the document once more.
-/
import VoiceDialogue.Adapter.Pipeline
import VoiceDialogue.Render.Document

namespace VoiceDialogue

variable {σ : Type}

/-- What a compilation leaves behind. -/
structure Compilation (σ : Type) where
  result : Except CompileError Document
  state : σ
  log : List Event

namespace Document

/-- The first character of a document that no document can carry. -/
def firstInvalid? (d : Document) : Option Char := d.root.firstInvalid?

end Document

namespace Compilation

/-- The end of a compilation that met an obstacle. -/
def obstructed (turn : String) (o : Obstacle) (s : σ) (log : List Event) : Compilation σ :=
  ⟨.error ⟨turn, .obstacle o⟩, s, log ++ [.renderFailed turn o]⟩

/-- The end of a compilation whose adapters gave up. -/
def abandoned (turn : String) (e : AdapterError) (s : σ) (log : List Event) : Compilation σ :=
  ⟨.error ⟨turn, .adapter e⟩, s, log⟩

end Compilation

/-- Compiles a turn for a platform. -/
def compile (p : Platform) (t : Turn σ) (s : σ) : Compilation σ :=
  let start := Event.renderStart t.name t.payload.typeName t.adapters.length
  match Render.document p t.payload with
  | .error o => .obstructed t.name o s [start]
  | .ok d =>
      let run := Pipeline.runAll t.adapters d s
      match run.failure with
      | some e => .abandoned t.name e run.state (start :: run.log)
      | none =>
          match run.document.firstInvalid? with
          | some c => .obstructed t.name (.forbidden c) run.state (start :: run.log)
          | none =>
              ⟨.ok run.document, run.state,
                start :: run.log ++ [.renderComplete t.name run.document.root.size]⟩

/-- A platform and the adapters that run over every document. -/
structure Compiler (σ : Type) where
  platform : Platform
  pipeline : Pipeline σ := {}

namespace Compiler

/-- Appends an adapter. -/
def addAdapter (c : Compiler σ) (h : Handle σ) : Compiler σ :=
  { c with pipeline := c.pipeline.add h }

/-- Compiles a turn and runs the adapters of the compiler over its document. -/
def compile (c : Compiler σ) (t : Turn σ) (s : σ) : Compilation σ :=
  let turn := VoiceDialogue.compile c.platform t s
  match turn.result with
  | .error _ => turn
  | .ok d =>
      let run := c.pipeline.run d turn.state
      let log := turn.log ++ run.log
      match run.failure with
      | some e => .abandoned t.name e run.state log
      | none =>
          match run.document.firstInvalid? with
          | some x => .obstructed t.name (.forbidden x) run.state log
          | none => ⟨.ok run.document, run.state, log⟩

end Compiler

end VoiceDialogue
