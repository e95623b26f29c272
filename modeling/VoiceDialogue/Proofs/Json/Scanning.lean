/-
VoiceDialogue/Proofs/Json/Scanning.lean

What the scanners make of JSON.

Each scanner takes exactly what the grammar gives it.  Blanks are skipped; a
string ends at its closing quote (`scanString_quoted`), and a whole number at
the first sign that may follow a value (`scanNumber_count`), if it fits in 64
bits.  Whether a value is a string shows at its first sign (`IsValue.front`).
-/
import VoiceDialogue.Json.Reader
import VoiceDialogue.Proofs.Json.Grammar

namespace VoiceDialogue

namespace Json

/-! ### Blanks -/

theorem skipBlank_append {blank : List Char} (h : IsBlanks blank) (cs : List Char) :
    skipBlank (blank ++ cs) = skipBlank cs :=
  List.dropWhile_append_of_pos h

theorem skipBlank_cons {c : Char} (h : isBlank c = false) (cs : List Char) :
    skipBlank (c :: cs) = c :: cs :=
  List.dropWhile_cons_of_neg (by simp [h])

theorem skipBlank_skipBlank (cs : List Char) : skipBlank (skipBlank cs) = skipBlank cs := by
  have head := List.head?_dropWhile_not isBlank cs
  cases h : skipBlank cs with
  | nil => rfl
  | cons c rest =>
    rw [show List.dropWhile isBlank cs = c :: rest from h] at head
    exact skipBlank_cons head rest

/-! ### Strings -/

theorem scanString_plain {c : Char} (quote : c ≠ '"') (slash : c ≠ '\\')
    (printable : 0x20 ≤ c.toNat) (cs : List Char) :
    scanString (c :: cs) = (scanString cs).mapValue (c :: ·) := by
  have high : ¬ c.toNat < 0x20 := Nat.not_lt.2 printable
  rw [scanString, if_neg high] <;> simp [quote, slash]

theorem scanString_short {e c : Char} (h : (e, c) ∈ shortEscapes) (cs : List Char) :
    scanString ('\\' :: e :: cs) = (scanString cs).mapValue (c :: ·) := by
  simp only [shortEscapes, List.mem_cons, Prod.mk.injEq, List.not_mem_nil, or_false] at h
  rcases h with ⟨rfl, rfl⟩ | ⟨rfl, rfl⟩ | ⟨rfl, rfl⟩ | ⟨rfl, rfl⟩ | ⟨rfl, rfl⟩ | ⟨rfl, rfl⟩ |
    ⟨rfl, rfl⟩ | ⟨rfl, rfl⟩ <;> simp [scanString, escaped?]

theorem scanString_unit {a b c d : Char} {n : Nat} (value : unit? a b c d = some n)
    (outside : n < 0xd800 ∨ 0xdfff < n) (cs : List Char) :
    scanString ('\\' :: 'u' :: a :: b :: c :: d :: cs) =
      (scanString cs).mapValue (Char.ofNat n :: ·) := by
  have low : ¬ (0xdc00 ≤ n ∧ n ≤ 0xdfff) := by omega
  have high : n < 0xd800 ∨ 0xdbff < n := by omega
  rw [scanString, value]
  simp only [if_neg low, if_pos high]

theorem scanString_pair {a b c d a' b' c' d' : Char} {high low : Nat}
    (first : unit? a b c d = some high) (isHigh : 0xd800 ≤ high ∧ high ≤ 0xdbff)
    (second : unit? a' b' c' d' = some low) (isLow : 0xdc00 ≤ low ∧ low ≤ 0xdfff)
    (cs : List Char) :
    scanString ('\\' :: 'u' :: a :: b :: c :: d :: '\\' :: 'u' :: a' :: b' :: c' :: d' :: cs) =
      (scanString cs).mapValue (joined high low :: ·) := by
  have notLow : ¬ (0xdc00 ≤ high ∧ high ≤ 0xdfff) := by omega
  have notAlone : ¬ (high < 0xd800 ∨ 0xdbff < high) := by omega
  have fits : ¬ (low < 0xdc00 ∨ 0xdfff < low) := by omega
  rw [scanString, first]
  simp only [if_neg notLow, if_neg notAlone, second, if_neg fits]
  rfl

/-- A string is read up to its closing quote. -/
theorem scanString_quoted {raw text : List Char} (h : IsQuoted raw text) (rest : List Char) :
    scanString (raw ++ '"' :: rest) = .ok (text, rest) := by
  induction h with
  | nil => rfl
  | plain quote slash printable _ ih =>
    rw [List.cons_append, scanString_plain quote slash printable, ih, Scan.mapValue_ok]
  | short known _ ih =>
    rw [List.cons_append, List.cons_append, scanString_short known, ih, Scan.mapValue_ok]
  | unit value outside _ ih =>
    simp only [List.cons_append]
    rw [scanString_unit value outside, ih, Scan.mapValue_ok]
  | pair first isHigh second isLow _ ih =>
    simp only [List.cons_append]
    rw [scanString_pair first isHigh second isLow, ih, Scan.mapValue_ok]

/-! ### Numbers -/

/-- What may follow a value: nothing, a blank or the sign that goes on. -/
def Closes (rest : List Char) : Prop :=
  ∀ c, rest.head? = some c → isBlank c ∨ c ∈ [',', ']', '\x7d']

theorem closes_nil : Closes [] := nofun

theorem closes_cons {c : Char} (h : isBlank c ∨ c ∈ [',', ']', '\x7d']) (cs : List Char) :
    Closes (c :: cs) := by
  rintro _ ⟨⟩
  exact h

theorem Closes.append {blank rest : List Char} (h : IsBlanks blank) (closes : Closes rest) :
    Closes (blank ++ rest) := by
  cases blank with
  | nil => exact closes
  | cons c blank => exact closes_cons (.inl (h c List.mem_cons_self)) _

/-- No number goes on with a sign that may follow a value. -/
theorem Closes.not_number {c : Char} {cs : List Char} (h : Closes (c :: cs)) :
    c.isDigit = false ∧ c ≠ '.' ∧ c ≠ 'e' ∧ c ≠ 'E' := by
  have signs : isBlank c ∨ c ∈ [',', ']', '\x7d'] := h c rfl
  simp only [isBlank, Bool.or_eq_true, decide_eq_true_eq, List.mem_cons, List.not_mem_nil,
    or_false] at signs
  rcases signs with (((rfl | rfl) | rfl) | rfl) | rfl | rfl | rfl <;> decide

/-- More digits make a greater number. -/
theorem le_ofDigitChars (m : Nat) (ds : List Char) : m ≤ Nat.ofDigitChars 10 ds m := by
  induction ds generalizing m with
  | nil => exact Nat.le_of_eq Nat.ofDigitChars_nil.symm
  | cons d ds ih =>
    rw [Nat.ofDigitChars_cons]
    exact Nat.le_trans (by omega) (ih _)

/-- All digits of a number that fits are gathered. -/
theorem gather_of_lt {m : Nat} {ds : List Char} (fits : Nat.ofDigitChars 10 ds m < UInt64.size) :
    gather m ds = (Nat.ofDigitChars 10 ds m, 0) := by
  induction ds generalizing m with
  | nil => simp [gather]
  | cons d ds ih =>
    rw [Nat.ofDigitChars_cons, Nat.mul_comm] at fits
    have step : m * 10 + (d.toNat - '0'.toNat) < UInt64.size :=
      Nat.lt_of_le_of_lt (le_ofDigitChars _ ds) fits
    rw [gather, Nat.ofDigitChars_cons, Nat.mul_comm 10 m]
    simp only [if_pos step]
    exact ih fits

theorem takeWhile_digits {ds rest : List Char} (digits : IsDigits ds) (closes : Closes rest) :
    (ds ++ rest).takeWhile Char.isDigit = ds ∧ (ds ++ rest).dropWhile Char.isDigit = rest := by
  rw [List.takeWhile_append_of_pos digits.2, List.dropWhile_append_of_pos digits.2]
  cases rest with
  | nil => simp
  | cons c rest => simp [closes.not_number.1]

/-- A whole number is read to its end. -/
theorem scanNumber_count (sign : Bool) {ds rest : List Char} (count : IsCount ds)
    (fits : countOf ds < UInt64.size) (closes : Closes rest) :
    scanNumber sign (ds ++ rest) = .ok (wholeNumber sign (countOf ds), rest) := by
  obtain ⟨digits, zero⟩ := count
  obtain ⟨taken, dropped⟩ := takeWhile_digits digits closes
  have nonempty : ds.isEmpty = false := by simpa using digits.1
  have alone : ¬ (ds.head? = some '0' ∧ 1 < ds.length) := by
    rintro ⟨first, long⟩
    rw [zero first] at long
    exact absurd long (by decide)
  have gathered : gather 0 ds = (countOf ds, 0) := gather_of_lt fits
  rw [scanNumber, taken, dropped]
  simp only [nonempty, if_neg alone, gathered, if_true, Bool.false_eq_true, if_false]
  split
  · next tail => exact absurd rfl closes.not_number.2.1
  · next tail => exact absurd rfl closes.not_number.2.2.1
  · next tail => exact absurd rfl closes.not_number.2.2.2
  · rfl

/-! ### Beginnings of values -/

theorem ne_of_isDigit {c x : Char} (digit : c.isDigit) (other : x.isDigit = false) : c ≠ x := by
  rintro rfl
  rw [other] at digit
  cases digit

theorem isBlank_digit {c : Char} (digit : c.isDigit) : isBlank c = false := by
  have apart (x : Char) (other : x.isDigit = false) : c ≠ x := ne_of_isDigit digit other
  simp [isBlank, apart ' ' rfl, apart '\t' rfl, apart '\n' rfl, apart '\r' rfl]

/-- A value starts with no blank and nothing that ends an array, and strings
and null show at their first sign. -/
theorem IsValue.front {raw : List Char} {v : Json} (h : IsValue raw v) :
    ∃ c cs, raw = c :: cs ∧ isBlank c = false ∧ c ≠ ']' ∧ (c = '"' → ∃ s, v = .str s) ∧
      (c = 'n' → v = .null) := by
  have digit {ds : List Char} (h : IsCount ds) (rest : List Char) :
      ∃ c cs, ds ++ rest = c :: cs ∧ isBlank c = false ∧ c ≠ ']' ∧ (c = '"' → ∃ s, v = .str s) ∧
        (c = 'n' → v = .null) := by
    obtain ⟨⟨nonempty, digits⟩, -⟩ := h
    obtain ⟨d, ds, rfl⟩ := List.exists_cons_of_ne_nil nonempty
    have isDigit : d.isDigit := digits d List.mem_cons_self
    exact ⟨d, ds ++ rest, rfl, isBlank_digit isDigit, ne_of_isDigit isDigit rfl,
      fun same => absurd same (ne_of_isDigit isDigit rfl),
      fun same => absurd same (ne_of_isDigit isDigit rfl)⟩
  cases h with
  | null => exact ⟨'n', _, rfl, rfl, by decide, nofun, fun _ => rfl⟩
  | str _ => exact ⟨'"', _, rfl, rfl, by decide, fun _ => ⟨_, rfl⟩, nofun⟩
  | count h => simpa using digit h []
  | number x h =>
    obtain @⟨sign, _, fraction, exponent, known, h, -, -⟩ := h
    rcases List.mem_cons.1 known with rfl | known
    · simpa using digit h (fraction ++ exponent)
    · obtain rfl := List.mem_singleton.1 known
      exact ⟨'-', _, rfl, rfl, by decide, nofun, nofun⟩
  | _ => exact ⟨_, _, rfl, rfl, by decide, nofun, nofun⟩

/-! ### Ends of texts -/

section

variable {α : Type} {scan : List Char → Scan α} {cs : List Char}

/-- Blanks may follow what was scanned. -/
theorem whole_of_ok {a : α} {after : List Char} (h : scan cs = .ok (a, after))
    (blank : IsBlanks after) : whole scan cs = .ok a := by
  have nothing : skipBlank after = [] := by
    rw [← List.append_nil after, skipBlank_append blank]
    rfl
  rw [whole, h]
  show (if (skipBlank after).isEmpty then Except.ok a else .error Fault.malformed) = .ok a
  rw [nothing]
  rfl

theorem whole_of_error {f : Fault} (h : scan cs = .error f) : whole scan cs = .error f := by
  rw [whole, h]
  rfl

end

end Json

end VoiceDialogue
