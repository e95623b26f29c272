/-
VoiceDialogue/Event.lean

What a compilation logs.

Every event has a name and fields, and a level: warnings, the course of a
compilation, and whole documents.  A log that asks for a level holds every
event up to that level.
-/
import VoiceDialogue.Failure

namespace VoiceDialogue

/-- How verbose a log is, or has to be to hold an event. -/
inductive Level
  | warn
  | debug
  | trace
deriving DecidableEq

namespace Level

/-- The name of a level. -/
def name : Level → String
  | .warn => "WARN"
  | .debug => "DEBUG"
  | .trace => "TRACE"

/-- Levels by verbosity. -/
def rank : Level → Nat
  | .warn => 0
  | .debug => 1
  | .trace => 2

/-- Whether a log of the first level holds events of the second. -/
def admits (log event : Level) : Bool := event.rank ≤ log.rank

end Level

/-- Something that happened during a compilation. -/
inductive Event
  /-- A turn is about to be rendered. -/
  | renderStart (turn kind : String) (adapters : Nat)
  /-- A turn was compiled. -/
  | renderComplete (turn : String) (elements : Nat)
  /-- A turn met an obstacle. -/
  | renderFailed (turn : String) (obstacle : Obstacle)
  /-- An adapter is about to run. -/
  | adapterApply (adapter : String) (index : Nat)
  /-- An adapter gave up. -/
  | adapterFailed (adapter : String) (index : Nat) (error : AdapterError)
  /-- The shape of a document. -/
  | documentCompiled (root : String) (elements prompts : Nat) (application : Option String)
  /-- The text of a document. -/
  | documentMarkup (markup : String)
deriving DecidableEq

namespace Event

/-- The level of an event. -/
def level : Event → Level
  | .renderFailed _ _ | .adapterFailed _ _ _ => .warn
  | .documentMarkup _ => .trace
  | _ => .debug

/-- The name of an event. -/
def name : Event → String
  | .renderStart _ _ _ => "vxml.render.start"
  | .renderComplete _ _ => "vxml.render.complete"
  | .renderFailed _ _ => "vxml.render.failed"
  | .adapterApply _ _ => "vxml.adapter.apply"
  | .adapterFailed _ _ _ => "vxml.adapter.failed"
  | .documentCompiled _ _ _ _ => "vxml.document.compiled"
  | .documentMarkup _ => "vxml.document.markup"

/-- The fields of an event; a field without a value is left out. -/
def fields : Event → List (String × Json)
  | .renderStart turn kind adapters =>
      [("turn", .str turn), ("kind", .str kind), ("adapters", .ofNat adapters)]
  | .renderComplete turn elements => [("turn", .str turn), ("elements", .ofNat elements)]
  | .renderFailed turn obstacle => [("turn", .str turn), ("reason", .str obstacle.reason)]
  | .adapterApply adapter index => [("adapter", .str adapter), ("index", .ofNat index)]
  | .adapterFailed adapter index error =>
      [("adapter", .str adapter), ("index", .ofNat index), ("error", .str error.message)]
  | .documentCompiled root elements prompts application =>
      [("root", .str root), ("elements", .ofNat elements), ("prompts", .ofNat prompts)] ++
        application.toList.map fun a => ("application", .str a)
  | .documentMarkup markup => [("markup", .str markup)]

end Event

/-- The part of a log that a level admits. -/
def Level.filter (l : Level) (log : List Event) : List Event := log.filter fun e => l.admits e.level

end VoiceDialogue
