/-
VoiceDialogue/Proofs/Compile/Characters.lean

Characters that markup cannot carry, in the documents of compilations.

A compiler searches documents twice: what the adapters of the turn leave, and
what its own adapters leave after them (`Compiler.Searches`).  The search walks
over the tree, and the text is written later, by another walk.  But both meet
the same characters in the same order, as far as the first bad one
(`Element.firstInvalid?_write`).  So a text that a compiler returns is free of
such characters, whatever the adapters did, and a compilation that is rejected
for a character is rejected for the first bad one in the text of a document
that was searched.

The message of the rejection shows the number of the character, in
hexadecimal digits, and no other character has that number
(`Obstacle.codePoint_injective`).
-/
import VoiceDialogue.Proofs.Compile.CompilerAdapters
import VoiceDialogue.Proofs.Markup.Carriable

namespace VoiceDialogue

/-! ### Numbers of characters -/

namespace Obstacle

/-- The number that a hexadecimal digit in upper case stands for. -/
def digitValue (c : Char) : Nat := if c.isDigit then c.toNat - 48 else c.toNat - 55

/-- The number that hexadecimal digits in upper case stand for. -/
def digitsValue (digits : List Char) : Nat := digits.foldl (fun n c => 16 * n + digitValue c) 0

theorem digitsValue_append_singleton (digits : List Char) (c : Char) :
    digitsValue (digits ++ [c]) = 16 * digitsValue digits + digitValue c := by
  rw [digitsValue, List.foldl_append]
  rfl

/-- Zeros in front do not count. -/
theorem digitsValue_replicate_append (k : Nat) (digits : List Char) :
    digitsValue (List.replicate k '0' ++ digits) = digitsValue digits := by
  induction k with
  | zero => rfl
  | succ k ih => rw [List.replicate_succ]; exact ih

/-- The digits of a number, in upper case, stand for it. -/
theorem digitsValue_toDigits (n : Nat) :
    digitsValue ((Nat.toDigits 16 n).map Char.toUpper) = n := by
  have digit : ∀ d < 16, digitValue d.digitChar.toUpper = d := by decide
  induction n using Nat.strongRecOn with
  | ind n ih =>
    by_cases small : n < 16
    · rw [Nat.toDigits_of_lt_base small]
      show 16 * 0 + digitValue n.digitChar.toUpper = n
      rw [digit n small, Nat.mul_zero, Nat.zero_add]
    · have more : 16 ≤ n := Nat.le_of_not_lt small
      rw [Nat.toDigits_of_base_le (by decide) more, List.map_append, List.map_singleton,
        digitsValue_append_singleton, ih (n / 16) (by omega), digit (n % 16) (by omega)]
      omega

/-- A character is known by its number. -/
theorem codePoint_injective : Function.Injective codePoint := by
  intro c c' h
  have digits := congrArg digitsValue (String.ofList_injective ((String.append_right_inj _).1 h))
  rw [digitsValue_replicate_append, digitsValue_replicate_append, digitsValue_toDigits,
    digitsValue_toDigits] at digits
  exact Char.toNat_inj.1 digits

end Obstacle

variable {σ : Type}

/-! ### Texts -/

/-- The search of a tree finds the first bad character of its markup. -/
theorem Element.firstInvalid?_eq_find? (e : Element) :
    e.firstInvalid? = e.markup.toList.find? fun x => !Markup.isXmlChar x := by
  have written : e.markup.toList = e.write := String.toList_ofList
  rw [written, ← Element.firstInvalid?_write]
  rfl

/-- The declaration in front of a document has no bad characters. -/
theorem Document.firstInvalid?_text (d : Document) :
    Markup.firstInvalid? d.text.toList = d.firstInvalid? := by
  have declared : Markup.firstInvalid? Document.declaration.toList = none := by decide
  rw [text, String.toList_append, Markup.firstInvalid?_append, declared, Option.none_or]
  exact (Element.firstInvalid?_eq_find? d.root).symm

/-! ### Verdicts -/

/-- A verdict that names a character: the run did not fail, and the character
is the first bad one in the document that it left. -/
theorem Passage.verdict_eq_forbidden_iff {turn : String} {r : Passage σ} {n : String} {x : Char} :
    r.verdict turn = .error ⟨n, .obstacle (.forbidden x)⟩
      ↔ n = turn ∧ r.failure = none ∧ r.document.firstInvalid? = some x := by
  cases hf : r.failure with
  | some e => simp [verdict_of_failure hf]
  | none =>
    cases hx : r.document.firstInvalid? with
    | some y => simp [verdict_of_forbidden hf hx, eq_comm]
    | none => simp [verdict_of_carriable hf hx]

/-- The same for a compilation without a compiler's adapters. -/
theorem result_compile_eq_error_forbidden_iff {p : Platform} {t : Turn σ} {s : σ} {n : String}
    {x : Char} :
    (compile p t s).result = .error ⟨n, .obstacle (.forbidden x)⟩
      ↔ n = t.name ∧ ∃ d, Render.document p t.payload = .ok d
        ∧ (Pipeline.runAll t.adapters d s).failure = none
        ∧ (Pipeline.runAll t.adapters d s).document.firstInvalid? = some x := by
  rw [← result_compile_eq_forbidden_iff]
  constructor
  · intro h
    have name : n = t.name := by
      cases hd : Render.document p t.payload with
      | error o =>
        rw [result_compile_of_error s hd] at h
        exact (CompileError.mk.inj (Except.error.inj h)).1.symm
      | ok d =>
        rw [result_compile_of_ok s hd] at h
        exact (Passage.verdict_eq_forbidden_iff.1 h).1
    subst name
    exact ⟨rfl, h⟩
  · rintro ⟨rfl, h⟩
    exact h

/-! ### Documents that are searched -/

/-- The documents that a compilation searches: one when the adapters of the
turn have run, and one when those of the compiler have. -/
inductive Compiler.Searches (c : Compiler σ) (t : Turn σ) (s : σ) : Document → Prop
  | turn {d : Document} :
      Render.document c.platform t.payload = .ok d →
      (Pipeline.runAll t.adapters d s).failure = none →
      Searches c t s (Pipeline.runAll t.adapters d s).document
  | compiler {d : Document} :
      (VoiceDialogue.compile c.platform t s).result = .ok d →
      (c.pipeline.run d (VoiceDialogue.compile c.platform t s).state).failure = none →
      Searches c t s (c.pipeline.run d (VoiceDialogue.compile c.platform t s).state).document

namespace Compiler

variable {c : Compiler σ} {t : Turn σ} {s : σ}

/-- What a compiler returns was searched, and nothing was found. -/
theorem firstInvalid?_of_compile {d : Document} (h : (c.compile t s).result = .ok d) :
    d.firstInvalid? = none := by
  cases own : (VoiceDialogue.compile c.platform t s).result with
  | error e =>
    rw [result_compile_of_error own] at h
    cases h
  | ok d' =>
    rw [result_compile_of_ok own] at h
    obtain ⟨-, fine, rfl⟩ := Passage.verdict_eq_ok_iff.1 h
    exact fine

/-- A compiler rejects a turn for a character exactly if it is the first bad
one of a document that was searched. -/
theorem result_compile_eq_error_forbidden_iff {n : String} {x : Char} :
    (c.compile t s).result = .error ⟨n, .obstacle (.forbidden x)⟩
      ↔ n = t.name ∧ ∃ d, c.Searches t s d ∧ d.firstInvalid? = some x := by
  constructor
  · intro h
    cases own : (VoiceDialogue.compile c.platform t s).result with
    | error e =>
      rw [result_compile_of_error own] at h
      obtain rfl := Except.error.inj h
      obtain ⟨name, d, rendered, ran, hx⟩ := VoiceDialogue.result_compile_eq_error_forbidden_iff.1 own
      exact ⟨name, _, .turn rendered ran, hx⟩
    | ok d =>
      rw [result_compile_of_ok own] at h
      obtain ⟨name, ran, hx⟩ := Passage.verdict_eq_forbidden_iff.1 h
      exact ⟨name, _, .compiler own ran, hx⟩
  · rintro ⟨rfl, _, searched, hx⟩
    cases searched with
    | turn rendered ran =>
      apply result_compile_of_error
      exact VoiceDialogue.result_compile_eq_error_forbidden_iff.2 ⟨rfl, _, rendered, ran, hx⟩
    | compiler own ran =>
      rw [result_compile_of_ok own]
      exact Passage.verdict_eq_forbidden_iff.2 ⟨rfl, ran, hx⟩

end Compiler

/-! ### Trees, texts and messages -/

/-- The search of a tree and a search of its markup find the same character, or
both find none; so every text that a compiler returns has characters of markup
only, and a turn is rejected for a character exactly if it is the first bad one
in the text of a document that was searched, which the wording tells. -/
theorem search_agrees_with_text (c : Compiler σ) (t : Turn σ) (s : σ) :
    (∀ e : Element, (e.firstInvalid? = e.markup.toList.find? fun x => !Markup.isXmlChar x) ∧
        (e.firstInvalid? = none ↔ Markup.Carriable e.markup)) ∧
      (∀ d, (c.compile t s).result = .ok d → Markup.Carriable d.text) ∧
      (∀ n x, (c.compile t s).result = .error ⟨n, .obstacle (.forbidden x)⟩ ↔
        n = t.name ∧ ∃ d, c.Searches t s d ∧
          d.text.toList.find? (fun x => !Markup.isXmlChar x) = some x) ∧
      Function.Injective fun x => (Obstacle.forbidden x).reason := by
  have tree (e : Element) :
      e.firstInvalid? = e.markup.toList.find? fun x => !Markup.isXmlChar x :=
    e.firstInvalid?_eq_find?
  refine ⟨?_, ?_, ?_, ?_⟩
  · intro e
    refine ⟨tree e, ?_⟩
    rw [tree e]
    exact Markup.firstInvalid?_eq_none_iff e.markup.toList
  · intro d h
    have fine : d.firstInvalid? = none := Compiler.firstInvalid?_of_compile h
    rw [← Document.firstInvalid?_text] at fine
    exact (Markup.firstInvalid?_eq_none_iff d.text.toList).1 fine
  · intro n x
    rw [Compiler.result_compile_eq_error_forbidden_iff]
    apply and_congr_right
    intro _
    apply exists_congr
    intro d
    rw [← Document.firstInvalid?_text]
    rfl
  · -- the number stands between two fixed pieces of text
    intro x y same
    have numbers : Obstacle.codePoint x = Obstacle.codePoint y :=
      (String.append_right_inj _).1 ((String.append_left_inj _).1 same)
    exact Obstacle.codePoint_injective numbers

/-- A greeting whose root gets an attribute from an adapter of the turn. -/
def stampedGreeting (value : String) : Turn Unit :=
  ⟨"greeting", .message ⟨[.speech "Welcome"], none, none⟩, [stampRoot 0 "x" value]⟩

/-- A compiler that gives the root a further attribute. -/
def stampingCompiler : Compiler Unit where
  platform := SettledConventions.default.platform
  pipeline := .ofList [stampRoot 1 "y" "ok"]

/-- It returns a text without bad characters, or rejects the turn for the one
that the adapter of the turn brought in. -/
theorem search_finds_stamp :
    (∃ d, (stampingCompiler.compile (stampedGreeting "ok") ()).result = .ok d ∧
        Markup.Carriable d.text) ∧
      ∃ d, stampingCompiler.Searches (stampedGreeting "\x01") () d ∧
        d.text.toList.find? (fun x => !Markup.isXmlChar x) = some '\x01' := by
  constructor
  · obtain ⟨d, h⟩ : ∃ d, (stampingCompiler.compile (stampedGreeting "ok") ()).result = .ok d :=
      ⟨_, rfl⟩
    exact ⟨d, h, (search_agrees_with_text stampingCompiler _ ()).2.1 d h⟩
  · have rejected : (stampingCompiler.compile (stampedGreeting "\x01") ()).result
        = .error ⟨"greeting", .obstacle (.forbidden '\x01')⟩ := rfl
    have found := (search_agrees_with_text stampingCompiler (stampedGreeting "\x01") ()).2.2.1
    exact ((found "greeting" '\x01').1 rejected).2

end VoiceDialogue
