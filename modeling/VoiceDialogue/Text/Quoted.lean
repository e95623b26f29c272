/-
VoiceDialogue/Text/Quoted.lean

The diagnostic spelling of a string: between quotes, on one line, and with
everything that a reader of a log could not see written as an escape.
-/
import VoiceDialogue.Text.Visible

namespace VoiceDialogue

namespace Text

/-- One character of the diagnostic spelling. -/
def spell (c : Char) : List Char :=
  if c = '"' then ['\\', '"']
  else if c = '\\' then ['\\', '\\']
  else if c = '\n' then ['\\', 'n']
  else if c = '\r' then ['\\', 'r']
  else if c = '\t' then ['\\', 't']
  else if c = '\x00' then ['\\', '0']
  else if isHidden c then ['\\', 'u', '\x7b'] ++ Nat.toDigits 16 c.toNat ++ ['\x7d']
  else [c]

/-- The diagnostic spelling of a string. -/
def quoted (s : String) : String := String.ofList ('"' :: s.toList.flatMap spell ++ ['"'])

end Text

end VoiceDialogue
