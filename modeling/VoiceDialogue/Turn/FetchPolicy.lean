/-
VoiceDialogue/Turn/FetchPolicy.lean

How the browser fetches the resources of an object call: timeouts, cache ages
and attempts.  Every setting is optional, and an unset one leaves the matter
to the platform.

A policy is built from a draft, which takes settings in any order; the last
one of a kind counts.
-/
import VoiceDialogue.Duration
import VoiceDialogue.Turn.ValidationError

namespace VoiceDialogue

/-- When a resource may be fetched. -/
inductive FetchHint
  /-- When the document is loaded. -/
  | prefetch
  /-- Only when it is needed. -/
  | safe
deriving DecidableEq

namespace FetchHint

/-- The markup of a hint. -/
def name : FetchHint → String
  | .prefetch => "prefetch"
  | .safe => "safe"

/-- The hints by name. -/
def choices : List (String × FetchHint) := [.prefetch, .safe].map fun h => (h.name, h)

end FetchHint

/-- Directives for fetching a resource. -/
structure FetchPolicy where
  hint : Option FetchHint := none
  /-- Time allowed for the whole fetch. -/
  timeout : Option Duration := none
  /-- Greatest age of a cached copy. -/
  maxAge : Option Duration := none
  /-- Greatest time since a cached copy expired. -/
  maxStale : Option Duration := none
  /-- Number of attempts. -/
  attempts : Option UInt32 := none
  /-- Time allowed for one attempt. -/
  attemptTimeout : Option Duration := none
deriving DecidableEq

namespace FetchPolicy

/-- Whether everything is left to the platform. -/
def isPlatformDefault (p : FetchPolicy) : Bool := p = {}

/-- The canonical JSON of a policy. -/
def toJson (p : FetchPolicy) : Json :=
  .object [("fetchHint", .ofOption (fun h => .str h.name) p.hint),
    ("fetchTimeout", .ofOption Duration.toJson p.timeout),
    ("maxAge", .ofOption Duration.toJson p.maxAge),
    ("maxStale", .ofOption Duration.toJson p.maxStale),
    ("fetchAttempts", .ofOption (fun n => .ofNat n.toNat) p.attempts),
    ("fetchAttemptTimeout", .ofOption Duration.toJson p.attemptTimeout)]

/-! ### Drafts -/

/-- One setting of a policy. -/
inductive Setting
  | hint (h : FetchHint)
  | timeout (d : Duration)
  | maxAge (d : Duration)
  | maxStale (d : Duration)
  | attempts (n : UInt32)
  | attemptTimeout (d : Duration)

/-- A policy that has not been checked. -/
structure Draft where
  policy : FetchPolicy := {}

namespace Draft

/-- Takes a setting, in place of an earlier one of its kind. -/
def set (d : Draft) : Setting → Draft
  | .hint h => { d with policy.hint := some h }
  | .timeout t => { d with policy.timeout := some t }
  | .maxAge t => { d with policy.maxAge := some t }
  | .maxStale t => { d with policy.maxStale := some t }
  | .attempts n => { d with policy.attempts := some n }
  | .attemptTimeout t => { d with policy.attemptTimeout := some t }

/-- Checks that there is an attempt at all and that no attempt may take longer
than the whole fetch. -/
def build (d : Draft) : Built FetchPolicy :=
  if d.policy.attempts = some 0 then
    .error (.outOfRange "fetchAttempts" "at least one attempt is required")
  else
    match d.policy.attemptTimeout, d.policy.timeout with
    | some attempt, some total =>
        if total < attempt then
          .error (.outOfRange "fetchAttemptTimeout"
            (attempt.designation ++ " exceeds the fetch timeout of " ++ total.designation))
        else .ok d.policy
    | _, _ => .ok d.policy

end Draft

/-- The policy with the given settings. -/
def ofSettings (settings : List Setting) : Built FetchPolicy :=
  (settings.foldl Draft.set {}).build

end FetchPolicy

end VoiceDialogue
