/-
VoiceDialogue/Duration.lean

Lengths of time as voice browsers take them: whole milliseconds, in one
64-bit word.

Two shapes occur in markup.  Timeouts and pauses are time designations such
as 1500ms (`Duration.designation`).  Cache ages are whole seconds
(`Duration.wholeSecs`), rounded up, so that a non-zero duration never becomes
zero.

Everything that could leave the word is clamped at its end
(`Duration.clamped`): counts of seconds, and spans with nanoseconds.  Nothing
here wraps around.
-/
import VoiceDialogue.Json.Value

namespace VoiceDialogue

/-- A length of time in whole milliseconds. -/
structure Duration where
  millis : UInt64
deriving DecidableEq, Inhabited

/-- A length of time in seconds and nanoseconds, as clocks measure it. -/
structure Span where
  secs : UInt64
  nanos : Nat
  nanos_lt : nanos < 1000000000
deriving DecidableEq

namespace Span

end Span

namespace Duration

/-! ### Order -/

instance : LE Duration := ⟨fun a b => a.millis ≤ b.millis⟩
instance : LT Duration := ⟨fun a b => a.millis < b.millis⟩
instance (a b : Duration) : Decidable (a ≤ b) := inferInstanceAs (Decidable (a.millis ≤ b.millis))
instance (a b : Duration) : Decidable (a < b) := inferInstanceAs (Decidable (a.millis < b.millis))

/-! ### Clamping -/

/-- The greatest count of milliseconds that a duration holds. -/
def limit : Nat := UInt64.size - 1

/-- The duration of `n` milliseconds, or the longest one. -/
def clamped (n : Nat) : Duration := ⟨UInt64.ofNat (min n limit)⟩

/-- A count of seconds. -/
def ofSecs (secs : UInt64) : Duration := clamped (1000 * secs.toNat)

/-- A span, cut down to whole milliseconds. -/
def ofSpan (s : Span) : Duration := clamped (s.secs.toNat * 1000 + s.nanos / 1000000)

/-! ### Other shapes -/

/-- The same length of time as a span. -/
def toSpan (d : Duration) : Span where
  secs := d.millis / 1000
  nanos := (d.millis.toNat % 1000) * 1000000
  nanos_lt := by have := Nat.mod_lt d.millis.toNat (show 0 < 1000 by decide); omega

/-- Whole seconds, rounded up. -/
def wholeSecs (d : Duration) : UInt64 :=
  d.millis / 1000 + if d.millis % 1000 = 0 then 0 else 1

/-- Rounding up adds at most 999 milliseconds. -/
theorem toNat_wholeSecs (d : Duration) : d.wholeSecs.toNat = (d.millis.toNat + 999) / 1000 := by
  have hlt := d.millis.toNat_lt
  unfold wholeSecs
  split
  · next h =>
    have h' := congrArg UInt64.toNat h
    simp at h' ⊢
    omega
  · next h =>
    have h' : d.millis.toNat % 1000 ≠ 0 := fun e => h (UInt64.toNat_inj.1 (by simpa using e))
    simp [UInt64.toNat_add]
    omega

/-- The time designation of a duration. -/
def designation (d : Duration) : String := d.millis.toNat.repr ++ "ms"

/-- The canonical JSON of a duration is its count of milliseconds. -/
def toJson (d : Duration) : Json := .ofNat d.millis.toNat

end Duration

end VoiceDialogue
