/-
VoiceDialogue/Proofs/Json/Strings.lean

The strings of a JSON value, and whether its text can stand in a document.

The text of a value is made of signs, digits, escapes and the characters of its
strings.  The first three are ASCII characters, so a character beyond ASCII is in
the text exactly if some string of the value holds it (`mem_write_iff`).  Markup
forbids control characters, which the text has none of, and two characters beyond
ASCII, which JSON does not escape.  These two are all that can go wrong
(`carriable_text_iff`).
-/
import Mathlib.Logic.Basic
import VoiceDialogue.Proofs.Json.Writing
import VoiceDialogue.Proofs.Markup.Carriable

namespace VoiceDialogue

namespace Json

/-! ### Strings -/

mutual

/-- The strings in a value, names of members included. -/
def strings : Json → List String
  | .str s => [s]
  | .arr items => stringsIn items
  | .obj members => stringsOf members
  | _ => []

/-- The strings in some items. -/
def stringsIn : List Json → List String
  | [] => []
  | v :: rest => v.strings ++ stringsIn rest

/-- The strings in some members, their names included. -/
def stringsOf : List (String × Json) → List String
  | [] => []
  | (n, v) :: rest => n :: v.strings ++ stringsOf rest

end

/-! ### Characters beyond ASCII -/

/-- Whether a character is beyond ASCII. -/
abbrev Beyond (x : Char) : Prop := 0x80 ≤ x.toNat

/-- Whether some string holds a character. -/
def HeldBy (x : Char) (ss : List String) : Prop := ∃ s ∈ ss, x ∈ s.toList

theorem heldBy_append {x : Char} {ss ts : List String} :
    HeldBy x (ss ++ ts) ↔ HeldBy x ss ∨ HeldBy x ts := by
  simp [HeldBy, or_and_right, exists_or]

theorem heldBy_cons {x : Char} {s : String} {ss : List String} :
    HeldBy x (s :: ss) ↔ x ∈ s.toList ∨ HeldBy x ss := by
  simp [HeldBy]

theorem not_heldBy_nil {x : Char} : ¬ HeldBy x [] := nofun

variable {x : Char}

/-- Signs are ASCII characters. -/
theorem Beyond.ne (beyond : Beyond x) {c : Char} (ascii : c.toNat < 0x80) : x ≠ c := by
  rintro rfl
  exact Nat.not_lt.2 beyond ascii

theorem toNat_hexDigit_lt (n : Nat) : (hexDigit n).toNat < 0x80 := by
  have digit : ∀ n < 0x10, n.digitChar.toNat < 0x80 := by decide
  exact digit (n % 16) (Nat.mod_lt n (by decide))

/-- Only ASCII characters are escaped, and by ASCII characters. -/
theorem escape_cases (c : Char) :
    escape c = [c] ∨ c.toNat < 0x80 ∧ ∀ d ∈ escape c, d.toNat < 0x80 := by
  unfold escape
  split
  · next same => exact .inr (by simp [same])
  split
  · next same => exact .inr (by simp [same])
  split
  · next same => exact .inr (by simp [same])
  split
  · next same => exact .inr (by simp [same])
  split
  · next same => exact .inr (by simp [same])
  split
  · next same => exact .inr (by simp [same])
  split
  · next same => exact .inr (by simp [same])
  split
  · next control =>
    refine .inr ⟨Nat.lt_trans control (by decide), ?_⟩
    simp [toNat_hexDigit_lt]
  · exact .inl rfl

theorem mem_escape_iff (beyond : Beyond x) (c : Char) : x ∈ escape c ↔ x = c := by
  rcases escape_cases c with plain | ⟨ascii, escaped⟩
  · rw [plain, List.mem_singleton]
  · exact iff_of_false (fun hx => beyond.ne (escaped x hx) rfl) (beyond.ne ascii)

theorem mem_writeString_iff (beyond : Beyond x) (s : String) :
    x ∈ writeString s ↔ x ∈ s.toList := by
  have quote : x ≠ '"' := beyond.ne (by decide)
  simp [writeString, quote, List.mem_flatMap, mem_escape_iff beyond]

theorem not_mem_writeInt (beyond : Beyond x) (n : Int) : x ∉ writeInt n := by
  have digits : x ∉ Nat.toDigits 10 n.natAbs := by
    intro hx
    have digit := Nat.isDigit_of_mem_toDigits (by decide) (by decide) hx
    simp only [Char.isDigit, Bool.and_eq_true, decide_eq_true_eq, ge_iff_le,
      UInt32.le_iff_toNat_le] at digit
    exact Nat.not_lt.2 beyond (Nat.lt_of_le_of_lt digit.2 (by decide))
  have sign : x ≠ '-' := beyond.ne (by decide)
  unfold writeInt
  split
  · simp [sign, digits]
  · exact digits

mutual

/-- Characters beyond ASCII are in a text because a string holds them. -/
theorem mem_write_iff (beyond : Beyond x) : (v : Json) → v.InWords →
    (x ∈ v.write ↔ HeldBy x v.strings)
  | .null, _ | .bool true, _ | .bool false, _ | .arr [], _ | .obj [], _ => by
    refine iff_of_false ?_ not_heldBy_nil
    simp +decide [write, beyond.ne]
  | .int n, _ => iff_of_false (not_mem_writeInt beyond n) not_heldBy_nil
  | .float _, words => words.elim
  | .str s, _ => by
    rw [write, mem_writeString_iff beyond, strings, heldBy_cons, or_iff_left not_heldBy_nil]
  | .arr (v :: rest), words => by
    have sign : x ≠ '[' := beyond.ne (by decide)
    rw [write, List.mem_append, List.mem_cons, or_iff_right sign, mem_write_iff beyond v words.2.1,
      mem_writeItems_iff beyond rest words.2.2, strings, stringsIn, heldBy_append]
  | .obj ((n, v) :: rest), words => by
    have sign : x ≠ '\x7b' := beyond.ne (by decide)
    have colon : x ≠ ':' := beyond.ne (by decide)
    rw [write, List.mem_append, List.mem_append, List.mem_cons, List.mem_cons, or_iff_right sign,
      or_iff_right colon, mem_writeString_iff beyond, mem_write_iff beyond v words.2.1,
      mem_writeMembers_iff beyond rest words.2.2, strings, stringsOf, heldBy_append, heldBy_cons]

theorem mem_writeItems_iff (beyond : Beyond x) : (items : List Json) →
    EverywhereIn FitsWord items → (x ∈ writeItems items ↔ HeldBy x (stringsIn items))
  | [], _ => by
    refine iff_of_false ?_ not_heldBy_nil
    simp +decide [writeItems, beyond.ne]
  | v :: rest, words => by
    have sign : x ≠ ',' := beyond.ne (by decide)
    rw [writeItems, List.mem_append, List.mem_cons, or_iff_right sign,
      mem_write_iff beyond v words.1, mem_writeItems_iff beyond rest words.2, stringsIn,
      heldBy_append]

theorem mem_writeMembers_iff (beyond : Beyond x) : (members : List (String × Json)) →
    EverywhereOf FitsWord members → (x ∈ writeMembers members ↔ HeldBy x (stringsOf members))
  | [], _ => by
    refine iff_of_false ?_ not_heldBy_nil
    simp +decide [writeMembers, beyond.ne]
  | (n, v) :: rest, words => by
    have sign : x ≠ ',' := beyond.ne (by decide)
    have colon : x ≠ ':' := beyond.ne (by decide)
    rw [writeMembers, List.mem_append, List.mem_append, List.mem_cons, List.mem_cons,
      or_iff_right sign, or_iff_right colon, mem_writeString_iff beyond,
      mem_write_iff beyond v words.1, mem_writeMembers_iff beyond rest words.2, stringsOf,
      heldBy_append, heldBy_cons]

end

/-! ### Characters of documents -/

/-- Of the characters that are no control characters, markup forbids two. -/
theorem isXmlChar_iff {c : Char} (printable : 0x20 ≤ c.toNat) :
    Markup.isXmlChar c ↔ c ≠ '\ufffe' ∧ c ≠ '\uffff' := by
  have scalar : c.toNat < 0xd800 ∨ (0xdfff < c.toNat ∧ c.toNat < 0x110000) := c.valid
  have number (d : Char) : c = d ↔ c.toNat = d.toNat := Char.toNat_inj.symm
  simp only [Markup.isXmlChar, Bool.or_eq_true, Bool.and_eq_true, decide_eq_true_eq, ne_eq, number]
  simp only [show '\t'.toNat = 9 from rfl, show '\n'.toNat = 10 from rfl,
    show '\r'.toNat = 13 from rfl, show '\ufffe'.toNat = 0xfffe from rfl,
    show '\uffff'.toNat = 0xffff from rfl]
  omega

/-- The text of a value can stand in a document exactly if no string of the value
holds one of the two characters. -/
theorem carriable_text_iff {v : Json} (words : v.InWords) :
    Markup.Carriable v.text ↔ ∀ s ∈ v.strings, '\ufffe' ∉ s.toList ∧ '\uffff' ∉ s.toList := by
  have held (x : Char) (beyond : Beyond x) : x ∉ v.write ↔ ∀ s ∈ v.strings, x ∉ s.toList := by
    rw [mem_write_iff beyond v words, HeldBy]
    simp
  rw [forall₂_and, ← held '\ufffe' (by decide), ← held '\uffff' (by decide), Markup.Carriable, text,
    String.toList_ofList]
  constructor
  · intro carried
    constructor
    · exact fun hx => absurd (carried _ hx) (by decide)
    · exact fun hx => absurd (carried _ hx) (by decide)
  · rintro ⟨first, second⟩ c hc
    refine (isXmlChar_iff (printable_write v words c hc)).2 ⟨?_, ?_⟩
    · exact ne_of_mem_of_not_mem hc first
    · exact ne_of_mem_of_not_mem hc second

end Json

end VoiceDialogue
