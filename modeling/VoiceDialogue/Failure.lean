/-
VoiceDialogue/Failure.lean

Why a compilation fails.

Either an adapter gives up, and its error is passed on as it is, or the turn
meets an obstacle: something in it, or in the names around it, cannot be put
into a document.  Every failure carries the name of its turn.
-/
import VoiceDialogue.Conventions.Basic

namespace VoiceDialogue

/-- The error of an adapter. -/
inductive AdapterError
  /-- The adapter could not work on the document. -/
  | failed (message : String)
  /-- Any other error. -/
  | other (message : String)
deriving DecidableEq

/-- The wording of an adapter's error. -/
def AdapterError.message : AdapterError → String
  | .failed message => "adapter failed: " ++ message
  | .other message => message

/-- What keeps a turn out of a document. -/
inductive Obstacle
  /-- A name that the platform contributes is empty. -/
  | emptyName (c : Convention)
  | emptySpeech
  | emptyLocation
  | emptyRecording
  | emptyArchive
  | emptyDestination
  /-- A character that no document can carry. -/
  | forbidden (c : Char)
deriving DecidableEq

namespace Obstacle

/-- The number of a character, in at least four hexadecimal digits. -/
def codePoint (c : Char) : String :=
  let digits := (Nat.toDigits 16 c.toNat).map Char.toUpper
  "U+" ++ String.ofList (List.replicate (4 - digits.length) '0' ++ digits)

/-- The wording of an obstacle. -/
def reason : Obstacle → String
  | .emptyName c => "rendering context has an empty " ++ c.phrase
  | .emptySpeech => "speech synthesis with empty text"
  | .emptyLocation => "audio file with empty location"
  | .emptyRecording => "recording with empty expression"
  | .emptyArchive => "object call with an empty archive URI"
  | .emptyDestination => "transfer with empty destination"
  | .forbidden c => "character " ++ codePoint c ++ " cannot appear in markup"

end Obstacle

/-- The cause of a failed compilation. -/
inductive Cause
  | adapter (e : AdapterError)
  | obstacle (o : Obstacle)
deriving DecidableEq

namespace Cause

/-- The wording of a cause. -/
def message : Cause → String
  | .adapter e => e.message
  | .obstacle o => "unrenderable turn: " ++ o.reason

/-- The adapter's error, if that is the cause. -/
def adapterError? : Cause → Option AdapterError
  | .adapter e => some e
  | .obstacle _ => none

end Cause

/-- A failed compilation. -/
structure CompileError where
  turn : String
  cause : Cause
deriving DecidableEq

/-- The wording of a failed compilation. -/
def CompileError.message (e : CompileError) : String :=
  "failed to render turn '" ++ e.turn ++ "': " ++ e.cause.message

end VoiceDialogue
