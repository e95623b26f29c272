/-
VoiceDialogue/Turn/Outcome.lean

Outcomes of supervised transfers.

Carriers report all sorts of codes.  Each of them is one of eight outcomes:
seven have a code of their own, and every other code is the unknown outcome,
which remembers the code it came from.  What it remembers is for diagnosis
only (`Outcome.description`): two unknown outcomes are the same outcome, and
they have the same code and the same JSON.
-/
import VoiceDialogue.Json.Value

namespace VoiceDialogue

/-- What became of a transfer. -/
inductive Outcome
  /-- Nobody answered in time. -/
  | noAnswer
  /-- The caller hung up. -/
  | nearEndDisconnect
  /-- The other party hung up. -/
  | farEndDisconnect
  /-- The network dropped the call. -/
  | networkDisconnect
  /-- The call reached its greatest length. -/
  | maxTimeDisconnect
  /-- The line was busy. -/
  | busy
  /-- A network on the way refused the call. -/
  | networkBusy
  /-- Anything else, with the reported code unless that was the code of this
  outcome itself. -/
  | unknown (raw : Option String)

namespace Outcome

/-- The outcomes, in the order in which documents branch on them. -/
def all : List Outcome :=
  [.noAnswer, .nearEndDisconnect, .farEndDisconnect, .networkDisconnect, .maxTimeDisconnect,
    .busy, .networkBusy, .unknown none]

/-- The code of an outcome. -/
def code : Outcome → String
  | .noAnswer => "noanswer"
  | .nearEndDisconnect => "near_end_disconnect"
  | .farEndDisconnect => "far_end_disconnect"
  | .networkDisconnect => "network_disconnect"
  | .maxTimeDisconnect => "maxtime_disconnect"
  | .busy => "busy"
  | .networkBusy => "network_busy"
  | .unknown _ => "unknown"

/-- The outcome that a reported code stands for.  Upper and lower case differ. -/
def ofCode (code : String) : Outcome :=
  if code = "noanswer" then .noAnswer
  else if code = "near_end_disconnect" then .nearEndDisconnect
  else if code = "far_end_disconnect" then .farEndDisconnect
  else if code = "network_disconnect" then .networkDisconnect
  else if code = "maxtime_disconnect" then .maxTimeDisconnect
  else if code = "busy" then .busy
  else if code = "network_busy" then .networkBusy
  else if code = "unknown" then .unknown none
  else .unknown (some code)

/-- Outcomes are compared by what happened, not by what was reported. -/
instance : BEq Outcome := ⟨fun a b => a.code = b.code⟩

/-- Puts an outcome into a hash that is being computed, by means of `write`, which
puts text into it.  Hashes, too, look at what happened only. -/
def feed {η : Type} (write : η → String → η) (h : η) (o : Outcome) : η := write h o.code

instance : Hashable Outcome := ⟨feed (fun h text => mixHash h (hash text)) 7⟩

/-- The reported code of an unknown outcome. -/
def raw? : Outcome → Option String
  | .unknown raw => raw
  | _ => none

/-- Whether there was a connection that was dropped. -/
def isDisconnect : Outcome → Bool
  | .nearEndDisconnect | .farEndDisconnect | .networkDisconnect | .maxTimeDisconnect => true
  | _ => false

/-- Whether the other party could not be reached at all. -/
def isUnreachable : Outcome → Bool
  | .noAnswer | .busy | .networkBusy => true
  | _ => false

/-- The outcome for a log: the code, and the reported one where it differs. -/
def description (o : Outcome) : String :=
  match o.raw? with
  | some raw => "unknown (" ++ raw ++ ")"
  | none => o.code

/-- The canonical JSON of an outcome. -/
def toJson (o : Outcome) : Json := .str o.code

end Outcome

end VoiceDialogue
