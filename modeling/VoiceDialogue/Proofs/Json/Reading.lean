/-
VoiceDialogue/Proofs/Json/Reading.lean

What the reader makes of JSON.

Whatever the grammar allows is read, and read as what it stands for
(`read_text`), if all numbers in it are whole and fit in 64 bits.

Nesting of calls is bounded by three times the length of the text.  What is
shown of a bound is shown for values, items, members and lists of members
together, each with the part of the bound that it needs (`reads`).
-/
import VoiceDialogue.Proofs.Json.Everywhere
import VoiceDialogue.Proofs.Json.Scanning

namespace VoiceDialogue

namespace Json

/-! ### Beginnings of lists -/

theorem IsItems.front {raw : List Char} {items : List Json} (h : IsItems raw items)
    (rest : List Char) : ∃ c cs, skipBlank (raw ++ rest) = c :: cs ∧ c ≠ ']' := by
  have item {before raw after rest : List Char} {v : Json} (blank : IsBlanks before)
      (value : IsValue raw v) :
      ∃ c cs, skipBlank (before ++ raw ++ after ++ rest) = c :: cs ∧ c ≠ ']' := by
    obtain ⟨c, cs, rfl, solid, inside, -⟩ := value.front
    refine ⟨c, cs ++ after ++ rest, ?_, inside⟩
    rw [List.append_assoc, List.append_assoc, skipBlank_append blank, List.cons_append,
      skipBlank_cons solid, List.append_assoc]
  cases h with
  | last blank value _ => exact item blank value
  | more blank value _ _ =>
    rw [List.append_assoc]
    exact item blank value

theorem IsMembers.front {raw : List Char} {members : List (String × Json)}
    (h : IsMembers raw members) (rest : List Char) :
    ∃ cs, skipBlank (raw ++ rest) = '"' :: cs := by
  have member {raw rest : List Char} {m : String × Json} (h : IsMember raw m) :
      ∃ cs, skipBlank (raw ++ rest) = '"' :: cs := by
    obtain ⟨blank, -, -, -, -, -⟩ := h
    simp only [List.append_assoc, List.cons_append]
    exact ⟨_, skipBlank_append blank _⟩
  cases h with
  | last h => exact member h
  | more h _ =>
    rw [List.append_assoc]
    exact member h

/-! ### Readers -/

theorem readValue_skipBlank (bound : Nat) (cs : List Char) :
    readValue bound (skipBlank cs) = readValue bound cs := by
  cases bound with
  | zero => rfl
  | succ bound => rw [readValue, readValue, skipBlank_skipBlank]

theorem readItems_skipBlank (bound : Nat) (cs : List Char) :
    readItems bound (skipBlank cs) = readItems bound cs := by
  cases bound with
  | zero => rfl
  | succ bound => rw [readItems, readItems, readValue_skipBlank]

theorem readMembers_skipBlank (bound : Nat) (cs : List Char) :
    readMembers bound (skipBlank cs) = readMembers bound cs := by
  cases bound with
  | zero => rfl
  | succ bound =>
    have member : readMember bound (skipBlank cs) = readMember bound cs := by
      cases bound with
      | zero => rfl
      | succ bound => rw [readMember, readMember, skipBlank_skipBlank]
    rw [readMembers, readMembers, member]

/-- A digit starts a number. -/
theorem readValue_digit (bound : Nat) {c : Char} (digit : c.isDigit) (cs : List Char) :
    readValue (bound + 1) (c :: cs) = (scanNumber false (c :: cs)).mapValue ofNumber := by
  rw [readValue, skipBlank_cons (isBlank_digit digit)]
  split
  all_goals simp_all

/-! ### Readers of values -/

/-- Whether a bound is enough for the values that need no more. -/
def ReadsValues (bound : Nat) : Prop :=
  ∀ raw v rest, IsValue raw v → v.InWords → Closes rest → 3 * raw.length ≤ bound →
    readValue bound (raw ++ rest) = .ok (v, rest)

/-- Whether a bound is enough for the items that need no more. -/
def ReadsItems (bound : Nat) : Prop :=
  ∀ raw items rest, IsItems raw items → (∀ v ∈ items, v.InWords) → 3 * raw.length < bound →
    readItems bound (raw ++ ']' :: rest) = .ok (items, rest)

/-- Whether a bound is enough for the members that need no more.  Blanks after
the value of a member are left to what follows. -/
def ReadsMember (bound : Nat) : Prop :=
  ∀ raw m rest, IsMember raw m → m.2.InWords → Closes rest → 3 * raw.length ≤ bound →
    ∃ blank, IsBlanks blank ∧ readMember bound (raw ++ rest) = .ok (m, blank ++ rest)

/-- Whether a bound is enough for the lists of members that need no more. -/
def ReadsMembers (bound : Nat) : Prop :=
  ∀ raw members rest, IsMembers raw members → (∀ m ∈ members, m.2.InWords) →
    3 * raw.length < bound → readMembers bound (raw ++ '\x7d' :: rest) = .ok (members, rest)

variable {bound : Nat}

theorem readsValues_succ (items : ReadsItems bound) (members : ReadsMembers bound) :
    ReadsValues (bound + 1) := by
  intro raw v rest h words closes enough
  cases h with
  | null => rfl
  | yes => rfl
  | no => rfl
  | count h =>
    obtain ⟨c, ds, rfl⟩ := List.exists_cons_of_ne_nil h.1.1
    have fits : countOf (c :: ds) < UInt64.size := Int.ofNat_lt.1 words.2
    rw [List.cons_append, readValue_digit bound (h.1.2 c List.mem_cons_self), ← List.cons_append,
      scanNumber_count false h fits closes]
    rfl
  | @negative ds h nonzero =>
    have size : countOf ds ≤ Nat.pow 2 63 := by
      have lower : -(Nat.pow 2 63 : Int) ≤ -(countOf ds : Int) := words.1
      omega
    have fits : countOf ds < UInt64.size := Nat.lt_of_le_of_lt size (by decide)
    -- beyond the signed words, or for minus zero, the scanner makes it a double
    have whole : ¬ (countOf ds = 0 ∨ Nat.pow 2 63 < countOf ds) :=
      not_or.2 ⟨nonzero, Nat.not_lt.2 size⟩
    show (scanNumber true (ds ++ rest)).mapValue ofNumber = _
    rw [scanNumber_count true h fits closes, wholeNumber, if_pos rfl, if_neg whole]
    rfl
  | number x h => exact words.elim
  | @str raw text h =>
    show (scanString (raw ++ ['"'] ++ rest)).mapValue (fun s => str (String.ofList s)) = _
    rw [List.append_assoc, List.singleton_append, scanString_quoted h, Scan.mapValue_ok]
  | @emptyArr blank h =>
    have front : skipBlank (blank ++ [']'] ++ rest) = ']' :: rest := by
      rw [List.append_assoc, skipBlank_append h]
      rfl
    rw [List.cons_append, List.cons_append, readValue, skipBlank_cons rfl]
    simp only [front]
  | @arr raw vs h =>
    obtain ⟨c, cs, front, inner⟩ := h.front (']' :: rest)
    have read : readItems bound (raw ++ ']' :: rest) = .ok (vs, rest) := by
      apply items raw vs rest h ((everywhere_arr_iff vs).1 words).2
      simp at enough
      omega
    rw [← readItems_skipBlank, front] at read
    rw [List.cons_append, List.cons_append, readValue, skipBlank_cons rfl, List.append_assoc,
      List.singleton_append]
    simp only [front]
    split
    · next same => exact absurd (List.cons.inj same).1 inner
    · rw [read, Scan.mapValue_ok]
  | @emptyObj blank h =>
    have front : skipBlank (blank ++ ['\x7d'] ++ rest) = '\x7d' :: rest := by
      rw [List.append_assoc, skipBlank_append h]
      rfl
    rw [List.cons_append, List.cons_append, readValue, skipBlank_cons rfl]
    simp only [front]
  | @obj raw ms h =>
    obtain ⟨cs, front⟩ := h.front ('\x7d' :: rest)
    have read : readMembers bound (raw ++ '\x7d' :: rest) = .ok (ms, rest) := by
      apply members raw ms rest h ((everywhere_obj_iff ms).1 words).2
      simp at enough
      omega
    rw [← readMembers_skipBlank, front] at read
    rw [List.cons_append, List.cons_append, readValue, skipBlank_cons rfl, List.append_assoc,
      List.singleton_append]
    simp only [front]
    split
    · next same => exact absurd (List.cons.inj same).1 (by decide)
    · rw [read, Scan.mapValue_ok]

theorem readsItems_succ (values : ReadsValues bound) (items : ReadsItems bound) :
    ReadsItems (bound + 1) := by
  intro raw vs rest h words enough
  -- an item is read with the blanks in front of it, and those after it are left
  have item {before raw after tail : List Char} {v : Json} (blank : IsBlanks before)
      (value : IsValue raw v) (inWords : v.InWords) (more : Closes (after ++ tail))
      (size : 3 * raw.length ≤ bound) :
      readValue bound (before ++ raw ++ after ++ tail) = .ok (v, after ++ tail) := by
    rw [← readValue_skipBlank, List.append_assoc, List.append_assoc, skipBlank_append blank,
      readValue_skipBlank]
    exact values raw v (after ++ tail) value inWords more size
  cases h with
  | @last before raw after v blank value blank' =>
    have size : 3 * raw.length ≤ bound := by
      simp at enough
      omega
    rw [readItems, item blank value (words v List.mem_cons_self)
      (Closes.append blank' (closes_cons (by simp) rest)) size, Scan.next_ok,
      skipBlank_append blank']
    rfl
  | @more before raw after v raw' vs blank value blank' others =>
    have size : 3 * raw.length ≤ bound ∧ 3 * raw'.length < bound := by
      simp at enough
      omega
    rw [readItems, List.append_assoc, List.cons_append,
      item blank value (words v List.mem_cons_self)
        (Closes.append blank' (closes_cons (by simp) _)) size.1, Scan.next_ok,
      skipBlank_append blank', skipBlank_cons rfl]
    simp only [items raw' vs rest others (fun w hw => words w (List.mem_cons_of_mem v hw)) size.2,
      Scan.mapValue_ok]

theorem readsMember_succ (values : ReadsValues bound) : ReadsMember (bound + 1) := by
  intro raw m rest h words closes enough
  obtain @⟨before, name, text, between, left, raw, v, after, blank, quoted, blank₁, blank₂, value,
    blank₃⟩ := h
  have size : 3 * raw.length ≤ bound := by
    simp at enough
    omega
  have read : readValue bound (left ++ (raw ++ (after ++ rest))) = .ok (v, after ++ rest) := by
    rw [← readValue_skipBlank, skipBlank_append blank₂, readValue_skipBlank]
    exact values raw v (after ++ rest) value words (closes.append blank₃) size
  refine ⟨after, blank₃, ?_⟩
  simp only [List.append_assoc, List.cons_append]
  rw [readMember, skipBlank_append blank, skipBlank_cons rfl]
  simp only [scanString_quoted quoted, Scan.next_ok]
  rw [skipBlank_append blank₁, skipBlank_cons rfl]
  simp only [read, Scan.mapValue_ok]

theorem readsMembers_succ (member : ReadsMember bound) (members : ReadsMembers bound) :
    ReadsMembers (bound + 1) := by
  intro raw ms rest h words enough
  cases h with
  | @last raw m h =>
    obtain ⟨blank, isBlanks, read⟩ := member raw m ('\x7d' :: rest) h (words m List.mem_cons_self)
      (closes_cons (by simp) rest) (by omega)
    rw [readMembers, read, Scan.next_ok, skipBlank_append isBlanks]
    rfl
  | @more raw m raw' ms h others =>
    have size : 3 * raw.length ≤ bound ∧ 3 * raw'.length < bound := by
      simp at enough
      omega
    obtain ⟨blank, isBlanks, read⟩ := member raw m (',' :: (raw' ++ '\x7d' :: rest)) h
      (words m List.mem_cons_self) (closes_cons (by simp) _) size.1
    rw [readMembers, List.append_assoc, List.cons_append, read, Scan.next_ok,
      skipBlank_append isBlanks, skipBlank_cons rfl]
    simp only [members raw' ms rest others (fun x hx => words x (List.mem_cons_of_mem m hx)) size.2,
      Scan.mapValue_ok]

/-- Every bound is enough for what needs no more. -/
theorem reads (bound : Nat) :
    ReadsValues bound ∧ ReadsItems bound ∧ ReadsMember bound ∧ ReadsMembers bound := by
  induction bound with
  | zero =>
    refine ⟨?_, ?_, ?_, ?_⟩
    · intro raw v rest h _ _ none
      obtain ⟨c, cs, rfl, -⟩ := h.front
      simp at none
    · intro raw items rest _ _ none
      exact absurd none (Nat.not_lt_zero _)
    · intro raw m rest h _ _ none
      cases h
      simp at none
    · intro raw members rest _ _ none
      exact absurd none (Nat.not_lt_zero _)
  | succ bound ih =>
    obtain ⟨values, items, member, members⟩ := ih
    exact ⟨readsValues_succ items members, readsItems_succ values items, readsMember_succ values,
      readsMembers_succ member members⟩

/-! ### Whole texts -/

/-- A text whose numbers are whole and fit in 64 bits is read as what it stands
for. -/
theorem read_text {text : String} {v : Json} (h : IsText text v) (words : v.InWords) :
    read text = .ok v := by
  obtain ⟨before, raw, after, parts, blank, value, blank'⟩ := h
  have closes : Closes after := by simpa using Closes.append blank' closes_nil
  have enough : 3 * raw.length ≤ 3 * text.toList.length + 1 := by
    rw [parts]
    simp
    omega
  have front : readValue (3 * text.toList.length + 1) text.toList = .ok (v, after) := by
    have inner := (reads (3 * text.toList.length + 1)).1 raw v after value words closes enough
    rw [← readValue_skipBlank, ← skipBlank_append blank, readValue_skipBlank, ← List.append_assoc,
      ← parts] at inner
    exact inner
  exact whole_of_ok front blank'

end Json

end VoiceDialogue
