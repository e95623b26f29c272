/-
VoiceDialogue/Proofs/Json/Writing.lean

What the writer makes of JSON values.

The text of a value keeps to the grammar and stands for the value, whatever
characters its strings hold (`isText_text`), and it has no control characters,
so it is one line (`printable_write`).  Doubles are left out: all numbers have
to be whole and fit in 64 bits.  The reader then gives the value back
(`read_text_self`).
-/
import VoiceDialogue.Json.Printer
import VoiceDialogue.Proofs.Json.Reading

namespace VoiceDialogue

namespace Json

/-! ### Numbers -/

theorem countOf_toDigits (n : Nat) : countOf (Nat.toDigits 10 n) = n :=
  Nat.ofDigitChars_ten_toDigits

/-- Only zero is written with a zero in front. -/
theorem toDigits_of_head? {n : Nat} (first : (Nat.toDigits 10 n).head? = some '0') :
    Nat.toDigits 10 n = ['0'] := by
  induction n using Nat.strongRecOn with
  | ind n ih =>
    by_cases small : n < 10
    · rw [Nat.toDigits_of_lt_base small] at first ⊢
      rw [Option.some.inj first]
    · -- the digits start with those of a tenth, which is not zero
      have more : 10 ≤ n := Nat.le_of_not_lt small
      obtain ⟨d, ds, digits⟩ :=
        List.exists_cons_of_ne_nil (Nat.toDigits_ne_nil (b := 10) (n := n / 10))
      rw [Nat.toDigits_of_base_le (by decide) more, digits] at first
      have tenth := congrArg countOf (ih (n / 10) (by omega) (digits ▸ first))
      rw [countOf_toDigits] at tenth
      have zero : n / 10 = 0 := tenth
      omega

theorem isCount_toDigits (n : Nat) : IsCount (Nat.toDigits 10 n) :=
  ⟨⟨Nat.toDigits_ne_nil, fun _ hc => Nat.isDigit_of_mem_toDigits (by decide) (by decide) hc⟩,
    toDigits_of_head?⟩

theorem isValue_writeInt (n : Int) : IsValue (writeInt n) (.int n) := by
  have count : IsCount (Nat.toDigits 10 n.natAbs) := isCount_toDigits n.natAbs
  have value : countOf (Nat.toDigits 10 n.natAbs) = n.natAbs := countOf_toDigits n.natAbs
  by_cases sign : n < 0
  · have nonzero : countOf (Nat.toDigits 10 n.natAbs) ≠ 0 := by
      rw [value]
      omega
    have negative := IsValue.negative count nonzero
    rw [value, show -(n.natAbs : Int) = n by omega] at negative
    rwa [writeInt, if_pos sign]
  · have whole := IsValue.count count
    rw [value, show (n.natAbs : Int) = n by omega] at whole
    rwa [writeInt, if_neg sign]

/-! ### Strings -/

/-- A character is written so that it stands for itself. -/
theorem isQuoted_escape (c : Char) {raw text : List Char} (h : IsQuoted raw text) :
    IsQuoted (escape c ++ raw) (c :: text) := by
  have short {e : Char} (known : (e, c) ∈ shortEscapes) :
      IsQuoted (['\\', e] ++ raw) (c :: text) := .short known h
  unfold escape
  split
  · next same => exact short (by simp [same, shortEscapes])
  split
  · next same => exact short (by simp [same, shortEscapes])
  split
  · next same => exact short (by simp [same, shortEscapes])
  split
  · next same => exact short (by simp [same, shortEscapes])
  split
  · next same => exact short (by simp [same, shortEscapes])
  split
  · next same => exact short (by simp [same, shortEscapes])
  split
  · next same => exact short (by simp [same, shortEscapes])
  split
  · next control =>
    have digits : ∀ n < 0x20, unit? '0' '0' (hexDigit (n / 16)) (hexDigit n) = some n := by decide
    have unit := IsQuoted.unit (digits c.toNat control) (.inl (by omega)) h
    rwa [Char.ofNat_toNat] at unit
  · next quote slash _ _ _ _ _ printable => exact .plain quote slash (Nat.le_of_not_lt printable) h

theorem isQuoted_escapes (text : List Char) : IsQuoted (text.flatMap escape) text := by
  induction text with
  | nil => exact .nil
  | cons c text ih =>
    rw [List.flatMap_cons]
    exact isQuoted_escape c ih

theorem isValue_writeString (s : String) : IsValue (writeString s) (.str s) := by
  have value := IsValue.str (isQuoted_escapes s.toList)
  rwa [String.ofList_toList] at value

/-! ### Values -/

theorem isBlanks_nil : IsBlanks [] := nofun

theorem isMember_write (name : String) {raw : List Char} {v : Json} (value : IsValue raw v) :
    IsMember (writeString name ++ ':' :: raw) (name, v) := by
  have member := IsMember.named isBlanks_nil (isQuoted_escapes name.toList) isBlanks_nil
    isBlanks_nil value isBlanks_nil
  rw [String.ofList_toList] at member
  simpa [writeString] using member

mutual

/-- A value is written as the grammar wants it. -/
theorem isValue_write : (v : Json) → v.InWords → IsValue v.write v
  | .null, _ => .null
  | .bool true, _ => .yes
  | .bool false, _ => .no
  | .int n, _ => isValue_writeInt n
  | .float _, words => words.elim
  | .str s, _ => isValue_writeString s
  | .arr [], _ => .emptyArr isBlanks_nil
  | .arr (v :: rest), words => by
    obtain ⟨raw, written, isItems⟩ := isItems_write rest words.2.2 (isValue_write v words.2.1)
    rw [write, List.cons_append, written]
    exact .arr isItems
  | .obj [], _ => .emptyObj isBlanks_nil
  | .obj ((n, v) :: rest), words => by
    obtain ⟨raw, written, isMembers⟩ :=
      isMembers_write rest words.2.2 (isMember_write n (isValue_write v words.2.1))
    rw [write, List.cons_append, List.cons_append, written]
    exact .obj isMembers

/-- An item and what is written after it are items and a closing bracket. -/
theorem isItems_write : (items : List Json) → EverywhereIn FitsWord items →
    ∀ {raw v}, IsValue raw v →
      ∃ raw', raw ++ writeItems items = raw' ++ [']'] ∧ IsItems raw' (v :: items)
  | [], _, raw, _, value => by
    have last := IsItems.last isBlanks_nil value isBlanks_nil
    exact ⟨raw, rfl, by simpa using last⟩
  | w :: rest, words, raw, _, value => by
    obtain ⟨raw', written, isItems⟩ := isItems_write rest words.2 (isValue_write w words.1)
    have more := IsItems.more isBlanks_nil value isBlanks_nil isItems
    refine ⟨raw ++ ',' :: raw', ?_, by simpa using more⟩
    rw [writeItems, List.cons_append, written]
    simp

/-- A member and what is written after it are members and a closing brace. -/
theorem isMembers_write : (members : List (String × Json)) → EverywhereOf FitsWord members →
    ∀ {raw m}, IsMember raw m →
      ∃ raw', raw ++ writeMembers members = raw' ++ ['\x7d'] ∧ IsMembers raw' (m :: members)
  | [], _, raw, _, member => ⟨raw, rfl, .last member⟩
  | (n, v) :: rest, words, raw, _, member => by
    obtain ⟨raw', written, isMembers⟩ :=
      isMembers_write rest words.2 (isMember_write n (isValue_write v words.1))
    refine ⟨raw ++ ',' :: raw', ?_, .more member isMembers⟩
    rw [writeMembers, List.cons_append, List.cons_append, written]
    simp

end

/-! ### Whole texts -/

/-- The text of a value stands for the value. -/
theorem isText_text {v : Json} (words : v.InWords) : IsText v.text v := by
  refine ⟨[], v.write, [], ?_, isBlanks_nil, isValue_write v words, isBlanks_nil⟩
  rw [text, String.toList_ofList, List.nil_append, List.append_nil]

/-- So it reads back. -/
theorem read_text_self {v : Json} (words : v.InWords) : read v.text = .ok v :=
  read_text (isText_text words) words

/-! ### Control characters -/

/-- Whether a text has no control characters below the space. -/
def Printable (cs : List Char) : Prop := ∀ c ∈ cs, 0x20 ≤ c.toNat

theorem printable_append {cs ds : List Char} (h : Printable cs) (h' : Printable ds) :
    Printable (cs ++ ds) :=
  List.forall_mem_append.2 ⟨h, h'⟩

theorem printable_cons {c : Char} {cs : List Char} (h : 0x20 ≤ c.toNat) (h' : Printable cs) :
    Printable (c :: cs) :=
  List.forall_mem_cons.2 ⟨h, h'⟩

/-- Control characters are written as escapes. -/
theorem printable_escape (c : Char) : Printable (escape c) := by
  have digit : ∀ n < 0x10, 0x20 ≤ n.digitChar.toNat := by decide
  have hex (n : Nat) : 0x20 ≤ (hexDigit n).toNat := digit (n % 16) (Nat.mod_lt n (by decide))
  unfold escape
  repeat' split
  all_goals simp_all [Printable]

theorem printable_writeString (s : String) : Printable (writeString s) := by
  have inside : Printable (s.toList.flatMap escape) := by
    intro c hc
    obtain ⟨x, -, hx⟩ := List.mem_flatMap.1 hc
    exact printable_escape x c hx
  have quote : Printable ['"'] := by simp [Printable]
  exact printable_cons (by decide) (printable_append inside quote)

theorem printable_writeInt (n : Int) : Printable (writeInt n) := by
  have digits : Printable (Nat.toDigits 10 n.natAbs) := by
    intro c hc
    have digit := Nat.isDigit_of_mem_toDigits (by decide) (by decide) hc
    have least : 48 ≤ c.toNat := by
      simp only [Char.isDigit, Bool.and_eq_true, decide_eq_true_eq, ge_iff_le,
        UInt32.le_iff_toNat_le] at digit
      exact digit.1
    omega
  unfold writeInt
  split
  · exact printable_cons (by decide) digits
  · exact digits

mutual

/-- A written value has no control characters. -/
theorem printable_write : (v : Json) → v.InWords → Printable v.write
  | .null, _ | .bool true, _ | .bool false, _ => by simp [write, Printable]
  | .int n, _ => printable_writeInt n
  | .float _, words => words.elim
  | .str s, _ => printable_writeString s
  | .arr [], _ | .obj [], _ => by simp [write, Printable]
  | .arr (v :: rest), words =>
    printable_append (printable_cons (by decide) (printable_write v words.2.1))
      (printable_writeItems rest words.2.2)
  | .obj ((n, v) :: rest), words => by
    rw [write]
    exact printable_append (printable_append (printable_cons (by decide) (printable_writeString n))
      (printable_cons (by decide) (printable_write v words.2.1)))
      (printable_writeMembers rest words.2.2)

theorem printable_writeItems :
    (items : List Json) → EverywhereIn FitsWord items → Printable (writeItems items)
  | [], _ => by simp [writeItems, Printable]
  | v :: rest, words =>
    printable_append (printable_cons (by decide) (printable_write v words.1))
      (printable_writeItems rest words.2)

theorem printable_writeMembers :
    (members : List (String × Json)) → EverywhereOf FitsWord members →
      Printable (writeMembers members)
  | [], _ => by simp [writeMembers, Printable]
  | (n, v) :: rest, words => by
    rw [writeMembers]
    exact printable_append (printable_append (printable_cons (by decide) (printable_writeString n))
      (printable_cons (by decide) (printable_write v words.1)))
      (printable_writeMembers rest words.2)

end

end Json

end VoiceDialogue
