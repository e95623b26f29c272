/-
VoiceDialogue/Proofs/Markup/Grammar.lean

What markup is well formed, and what it stands for, as a grammar.

The rules are those of XML 1.0 for the part of the language that the writer
uses.  They say how a tag, a value and character data look and what they stand
for, without saying how they are found: blanks may stand wherever the language
allows them, character data may hold references, and an element may be written
with one tag or with two.  That no attribute occurs twice need not be said,
because the attributes of an element cannot repeat a name.

The reader keeps to the grammar (`isDocument_of_read?`): whatever it accepts
is a document, and what it gives is what the document stands for.  All names
in a tree that a document stands for are legal (`IsDocument.legallyNamed`).
-/
import VoiceDialogue.Markup.Reader
import VoiceDialogue.Proofs.Markup.Everywhere

namespace VoiceDialogue

namespace Markup

/-! ### The grammar -/

/-- The references and the characters that they stand for. -/
def references : List (List Char × Char) :=
  [("&amp;".toList, '&'), ("&lt;".toList, '<'), ("&gt;".toList, '>'), ("&quot;".toList, '"'),
    ("&#9;".toList, '\t'), ("&#10;".toList, '\n'), ("&#13;".toList, '\r')]

/-- Characters and references, and the text that they stand for. -/
inductive IsData : List Char → List Char → Prop
  | nil : IsData [] []
  | char {c raw text} : c ≠ '<' → c ≠ '&' → IsData raw text → IsData (c :: raw) (c :: text)
  | reference {r c raw text} :
      (r, c) ∈ references → IsData raw text → IsData (r ++ raw) (c :: text)

/-- The inside of a quoted value, and the value that it stands for. -/
def IsValue (raw value : List Char) : Prop := '"' ∉ raw ∧ IsData (raw.map plainInValue) value

/-- Blanks, maybe none. -/
def IsBlank (cs : List Char) : Prop := ∀ c ∈ cs, isSpace c

/-- Attributes in a tag, each after a blank, and their names and values. -/
inductive IsAttributes : List Char → List (String × String) → Prop
  | nil : IsAttributes [] []
  | cons {blank name left right raw value rest entries} :
      blank ≠ [] → IsBlank blank → isXmlName name → IsBlank left → IsBlank right →
      IsValue raw value → IsAttributes rest entries →
      IsAttributes (blank ++ name ++ left ++ '=' :: right ++ '"' :: raw ++ '"' :: rest)
        ((String.ofList name, String.ofList value) :: entries)

mutual

/-- An element with its tags, and the element that they stand for. -/
inductive IsElement : List Char → Element → Prop
  | empty {name raw attributes blank} :
      isXmlName name → IsAttributes raw attributes.entries → IsBlank blank →
      IsElement ('<' :: name ++ raw ++ blank ++ ['/', '>']) ⟨String.ofList name, attributes, []⟩
  | pair {name raw attributes blank inner children after} :
      isXmlName name → IsAttributes raw attributes.entries → IsBlank blank →
      IsContent inner children → IsBlank after →
      IsElement ('<' :: name ++ raw ++ blank ++ '>' :: inner ++ '<' :: '/' :: name ++ after ++ ['>'])
        ⟨String.ofList name, attributes, children⟩

/-- What stands between two tags, and the children that it stands for.
Character data reaches to the next tag. -/
inductive IsContent : List Char → List Node → Prop
  | nil : IsContent [] []
  | element {raw e rest children} :
      IsElement raw e → IsContent rest children →
      IsContent (raw ++ rest) (.element e :: children)
  | text {raw s rest children} :
      raw ≠ [] → holdsSectionEnd raw = false → IsData raw s →
      (∀ c, rest.head? = some c → c = '<') → IsContent rest children →
      IsContent (raw ++ rest) (.text (String.ofList s) :: children)

end

/-- The declaration in front of a document, if there is one. -/
inductive IsDeclaration : List Char → Prop
  | nil : IsDeclaration []
  | stated {raw entries blank after} :
      entries ∈ declarations → IsAttributes raw entries → IsBlank blank → IsBlank after →
      IsDeclaration ("<?xml".toList ++ raw ++ blank ++ '?' :: '>' :: after)

/-- A well-formed document, and the element that it stands for. -/
def IsDocument (text : String) (e : Element) : Prop :=
  (∀ c ∈ text.toList, isXmlChar c) ∧ ∃ declaration raw blank,
    unifyLines text.toList = declaration ++ raw ++ blank ∧
      IsDeclaration declaration ∧ IsElement raw e ∧ IsBlank blank

/-! ### Readers of characters -/

theorem isData_of_expand {cs text : List Char} (plain : '<' ∉ cs) (h : expand cs = some text) :
    IsData cs text := by
  have reference : ∀ {r : List Char} {c rest text}, (r, c) ∈ references →
      (∀ {u}, expand rest = some u → IsData rest u) →
      (expand rest).map (c :: ·) = some text → IsData (r ++ rest) text := by
    intro r c rest text known ih h
    obtain ⟨u, hu, rfl⟩ := Option.map_eq_some_iff.1 h
    exact .reference known (ih hu)
  fun_induction expand cs generalizing text with
  | case1 =>
    cases h
    exact .nil
  | case2 _ ih => exact reference (r := "&amp;".toList) (by decide) (ih (by simp_all)) h
  | case3 _ ih => exact reference (r := "&lt;".toList) (by decide) (ih (by simp_all)) h
  | case4 _ ih => exact reference (r := "&gt;".toList) (by decide) (ih (by simp_all)) h
  | case5 _ ih => exact reference (r := "&quot;".toList) (by decide) (ih (by simp_all)) h
  | case6 _ ih => exact reference (r := "&#9;".toList) (by decide) (ih (by simp_all)) h
  | case7 _ ih => exact reference (r := "&#10;".toList) (by decide) (ih (by simp_all)) h
  | case8 _ ih => exact reference (r := "&#13;".toList) (by decide) (ih (by simp_all)) h
  | case9 => cases h
  | case10 c rest _ _ _ _ _ _ _ hc ih =>
    rw [List.mem_cons, not_or] at plain
    obtain ⟨u, hu, rfl⟩ := Option.map_eq_some_iff.1 h
    exact .char (Ne.symm plain.1) hc (ih plain.2 hu)

/-- Skipping blanks skips blanks, and leaves everything else. -/
theorem exists_blank (cs : List Char) : ∃ blank, cs = blank ++ skipSpace cs ∧ IsBlank blank :=
  ⟨cs.takeWhile isSpace, List.takeWhile_append_dropWhile.symm,
    List.all_eq_true.1 List.all_takeWhile⟩

theorem readName_spec {cs name rest : List Char} (h : readName cs = some (name, rest)) :
    cs = name ++ rest ∧ isXmlName name := by
  simp only [readName] at h
  split at h
  · next legal =>
    cases h
    exact ⟨List.takeWhile_append_dropWhile.symm, legal⟩
  · cases h

theorem readEquals_spec {cs rest : List Char} (h : readEquals cs = some rest) :
    ∃ left right, cs = left ++ '=' :: right ++ '"' :: rest ∧ IsBlank left ∧ IsBlank right := by
  unfold readEquals at h
  split at h
  · next middle e =>
    split at h
    · next rest' e' =>
      cases h
      obtain ⟨left, hl, bl⟩ := exists_blank cs
      obtain ⟨right, hr, br⟩ := exists_blank middle
      refine ⟨left, right, ?_, bl, br⟩
      rw [hl, e, hr, e']
      simp
    · cases h
  · cases h

theorem readValue_spec {cs value rest : List Char} (h : readValue cs = some (value, rest)) :
    ∃ raw, cs = raw ++ '"' :: rest ∧ IsValue raw value := by
  have whole : cs = cs.takeWhile (· ≠ '"') ++ cs.dropWhile (· ≠ '"') :=
    List.takeWhile_append_dropWhile.symm
  have inside := List.all_eq_true.1 (List.all_takeWhile (p := (· ≠ '"')) (l := cs))
  unfold readValue at h
  split at h
  · next q rest' e =>
    -- what stops the search for the quote is the quote
    obtain rfl : q = '"' := by
      have := List.head?_dropWhile_not (· ≠ '"') cs
      rw [e] at this
      simpa using this
    dsimp only at h
    split at h
    · cases h
    · next plain =>
      obtain ⟨v, hv, e'⟩ := Option.map_eq_some_iff.1 h
      cases e'
      refine ⟨_, by rw [← e]; exact whole, ?_, isData_of_expand ?_ hv⟩
      · intro hq
        simpa using inside _ hq
      · -- settling blanks brings no less-than sign in
        intro hlt
        obtain ⟨c, hc, e'⟩ := List.mem_map.1 hlt
        unfold plainInValue at e'
        split at e'
        · cases e'
        · exact plain (e' ▸ hc)
  · cases h

/-! ### Readers of tags -/

theorem readAttributes_spec {bound : Nat} {seen attributes : Attributes} {cs rest : List Char}
    (h : readAttributes bound seen cs = some (attributes, rest)) :
    ∃ raw blank entries, cs = raw ++ blank ++ rest ∧ IsAttributes raw entries ∧ IsBlank blank ∧
      attributes.entries = seen.entries ++ entries := by
  induction bound generalizing seen cs with
  | zero => cases h
  | succ bound ih =>
    obtain ⟨blank, hb, isBlank⟩ := exists_blank cs
    unfold readAttributes at h
    split at h
    · cases h
    · next c tail =>
      dsimp only at h
      split at h
      · next starts =>
        -- a blank and then the start of a name: one more attribute
        rw [Bool.and_eq_true] at starts
        have nonempty : blank ≠ [] := by
          rintro rfl
          rw [List.nil_append, skipSpace, List.dropWhile_cons_of_pos starts.1] at hb
          have shorter := (List.dropWhile_suffix isSpace (l := tail)).length_le
          rw [← hb, List.length_cons] at shorter
          omega
        split at h
        · cases h
        · next name rest' hn =>
          obtain ⟨en, legal⟩ := readName_spec hn
          split at h
          · cases h
          · next value rest'' hv =>
            obtain ⟨middle, hm, hv⟩ := Option.bind_eq_some_iff.1 hv
            obtain ⟨left, right, em, isLeft, isRight⟩ := readEquals_spec hm
            obtain ⟨raw, er, isRaw⟩ := readValue_spec hv
            split at h
            · cases h
            · next fresh =>
              obtain ⟨raw', blank', entries, ec, isRaw', isBlank', ea⟩ := ih h
              refine ⟨_, blank', _, ?_, .cons nonempty isBlank legal isLeft isRight isRaw isRaw',
                isBlank', ?_⟩
              · rw [hb, en, em, er, ec]
                simp
              · rw [ea, Attributes.entries_set_of_not_mem _ fresh, List.append_assoc,
                  List.singleton_append]
      · -- anything else: the attributes end here
        cases h
        exact ⟨[], blank, [], hb, .nil, isBlank, (List.append_nil _).symm⟩

/-- The attributes of a tag that was read, and what follows them. -/
theorem readTag_spec {bound : Nat} {attributes : Attributes} {cs rest : List Char}
    (h : readAttributes bound .empty cs = some (attributes, rest)) :
    ∃ raw blank, cs = raw ++ blank ++ rest ∧ IsAttributes raw attributes.entries ∧
      IsBlank blank := by
  obtain ⟨raw, blank, entries, e, isRaw, isBlank, rfl⟩ := readAttributes_spec h
  exact ⟨raw, blank, e, isRaw, isBlank⟩

theorem readEnd_spec {name cs rest : List Char} (h : readEnd name cs = some rest) :
    ∃ after, cs = name ++ after ++ '>' :: rest ∧ IsBlank after := by
  unfold readEnd at h
  split at h
  · cases h
  · next name' middle hn =>
    obtain ⟨en, -⟩ := readName_spec hn
    obtain ⟨after, ha, isAfter⟩ := exists_blank middle
    split at h
    · next rest' e =>
      split at h
      · next same =>
        cases h
        refine ⟨after, ?_, isAfter⟩
        rw [en, ha, e, same, List.append_assoc]
      · cases h
    · cases h

/-! ### Readers of elements -/

/-- Whether a bound lets only elements of the grammar be read. -/
def ReadsElements (bound : Nat) : Prop :=
  ∀ cs e rest, readElement bound cs = some (e, rest) →
    ∃ raw, cs = raw ++ rest ∧ IsElement ('<' :: raw) e

/-- Whether a bound lets only contents of the grammar be read. -/
def ReadsContents (bound : Nat) : Prop :=
  ∀ cs children rest, readContent bound cs = some (children, rest) →
    ∃ raw, cs = raw ++ '<' :: '/' :: rest ∧ IsContent raw children

theorem readsElements_succ {bound : Nat} (content : ReadsContents bound) :
    ReadsElements (bound + 1) := by
  intro cs e rest h
  unfold readElement at h
  split at h
  · cases h
  · next name middle hn =>
    obtain ⟨en, legal⟩ := readName_spec hn
    split at h
    · -- one tag that ends itself
      next attributes rest₁ ha =>
      cases h
      obtain ⟨raw, blank, ea, isRaw, isBlank⟩ := readTag_spec ha
      refine ⟨name ++ raw ++ blank ++ ['/', '>'], ?_, .empty legal isRaw isBlank⟩
      rw [en, ea]
      simp
    · -- two tags with content between them
      next attributes rest₁ ha =>
      obtain ⟨raw, blank, ea, isRaw, isBlank⟩ := readTag_spec ha
      split at h
      · cases h
      · next children rest₂ hc =>
        obtain ⟨inner, ei, isInner⟩ := content _ _ _ hc
        obtain ⟨rest₃, he, e'⟩ := Option.map_eq_some_iff.1 h
        cases e'
        obtain ⟨after, ee, isAfter⟩ := readEnd_spec he
        refine ⟨_, ?_, .pair legal isRaw isBlank isInner isAfter⟩
        rw [en, ea, ei, ee]
        simp
    · cases h

/-- Character data in front of content. -/
theorem isContent_text {cs raw s : List Char} {children : List Node} {rest : List Char}
    (nonempty : cs ≠ []) (markup : ∀ tail, cs ≠ '<' :: tail)
    (ends : holdsSectionEnd (cs.takeWhile (· ≠ '<')) = false)
    (data : expand (cs.takeWhile (· ≠ '<')) = some s) (isRaw : IsContent raw children)
    (left : cs.dropWhile (· ≠ '<') = raw ++ '<' :: '/' :: rest) :
    IsContent (cs.takeWhile (· ≠ '<') ++ raw) (.text (String.ofList s) :: children) := by
  have plain := List.all_eq_true.1 (List.all_takeWhile (p := (· ≠ '<')) (l := cs))
  refine .text ?_ ends (isData_of_expand ?_ data) ?_ isRaw
  · intro none
    cases cs with
    | nil => exact nonempty rfl
    | cons c cs =>
      by_cases hc : c = '<'
      · exact markup cs (by rw [hc])
      · simp [hc] at none
  · intro hlt
    simpa using plain _ hlt
  · -- the data reaches to the next less-than sign
    intro c hc
    have := List.head?_dropWhile_not (· ≠ '<') cs
    rw [left, List.head?_append, hc] at this
    simpa using this

theorem readsContents_succ {bound : Nat} (element : ReadsElements bound)
    (content : ReadsContents bound) : ReadsContents (bound + 1) := by
  intro cs children rest h
  unfold readContent at h
  split at h
  · cases h
  · cases h
    exact ⟨[], rfl, .nil⟩
  · next cs' _ =>
    split at h
    · cases h
    · next e rest₁ he =>
      obtain ⟨⟨children', rest₂⟩, hc, e'⟩ := Option.map_eq_some_iff.1 h
      cases e'
      obtain ⟨raw, er, isRaw⟩ := element _ _ _ he
      obtain ⟨raw', er', isRaw'⟩ := content _ _ _ hc
      refine ⟨_, ?_, .element isRaw isRaw'⟩
      rw [er, er']
      simp
  · next notEmpty notEnd notStart =>
    have whole := List.takeWhile_append_dropWhile (p := (· ≠ '<')) (l := cs)
    dsimp only at h
    split at h
    · cases h
    · next s hs =>
      split at hs
      · cases hs
      · next ends =>
        obtain ⟨⟨children', rest₁⟩, hc, e'⟩ := Option.map_eq_some_iff.1 h
        cases e'
        obtain ⟨raw, er, isRaw⟩ := content _ _ _ hc
        refine ⟨_, ?_, isContent_text notEmpty notStart (Bool.eq_false_iff.2 ends) hs isRaw er⟩
        rw [List.append_assoc, ← er]
        exact whole.symm

/-- The readers of elements and of contents call each other with a smaller
bound, so what they accept is settled for both together. -/
theorem readsElements_readsContents (bound : Nat) : ReadsElements bound ∧ ReadsContents bound := by
  induction bound with
  | zero =>
    constructor
    · intro cs e rest h
      cases h
    · intro cs children rest h
      cases h
  | succ bound ih =>
    obtain ⟨element, content⟩ := ih
    exact ⟨readsElements_succ content, readsContents_succ element content⟩

/-! ### Documents -/

theorem readDeclaration_spec {cs rest : List Char} (h : readDeclaration cs = some rest) :
    ∃ declaration, cs = declaration ++ rest ∧ IsDeclaration declaration := by
  unfold readDeclaration at h
  split at h
  · next cs' =>
    split at h
    · next stated rest₁ hs =>
      obtain ⟨raw, blank, e, isRaw, isBlank⟩ := readTag_spec hs
      obtain ⟨after, ea, isAfter⟩ := exists_blank rest₁
      split at h
      · next known =>
        cases h
        refine ⟨_, ?_, .stated known isRaw isBlank isAfter⟩
        rw [e]
        conv => lhs; rw [ea]
        simp
      · cases h
    · cases h
  · cases h
    exact ⟨[], rfl, .nil⟩

/-- The reader keeps to the grammar. -/
theorem isDocument_of_read? {text : String} {e : Element} (h : read? text = some e) :
    IsDocument text e := by
  unfold read? at h
  split at h
  · next chars =>
    refine ⟨List.all_eq_true.1 chars, ?_⟩
    obtain ⟨cs, hd, hr⟩ := Option.bind_eq_some_iff.1 h
    obtain ⟨declaration, ed, isDeclaration⟩ := readDeclaration_spec hd
    unfold readRoot at hr
    split at hr
    · next rest =>
      split at hr
      · next e' rest₁ he =>
        split at hr
        · next blank =>
          cases hr
          obtain ⟨raw, er, isRaw⟩ := (readsElements_readsContents _).1 _ _ _ he
          obtain ⟨after, ea, isAfter⟩ := exists_blank rest₁
          rw [List.isEmpty_iff.1 blank, List.append_nil] at ea
          refine ⟨declaration, _, after, ?_, isDeclaration, isRaw, isAfter⟩
          rw [ed, er, ea]
          simp
        · cases hr
      · cases hr
    · cases hr
  · cases h

/-! ### Names -/

theorem IsAttributes.legal {raw : List Char} {entries : List (String × String)}
    (h : IsAttributes raw entries) : ∀ n ∈ namesOf entries, isXmlName n.toList := by
  induction h with
  | nil => simp
  | cons _ _ legal _ _ _ _ ih =>
    intro n hn
    rcases List.mem_cons.1 hn with rfl | hn
    · rw [String.toList_ofList]
      exact legal
    · exact ih n hn

mutual

/-- An element that was written has legal names only. -/
theorem IsElement.legallyNamed {raw : List Char} {e : Element} :
    IsElement raw e → e.LegallyNamed
  | .empty legal isRaw _ => ⟨⟨by rwa [String.toList_ofList], isRaw.legal⟩, trivial⟩
  | .pair legal isRaw _ isInner _ =>
      ⟨⟨by rwa [String.toList_ofList], isRaw.legal⟩, isInner.legallyNamed⟩

theorem IsContent.legallyNamed {raw : List Char} {children : List Node} :
    IsContent raw children → Node.AllEverywhere LegalTag (fun _ => True) children
  | .nil => trivial
  | .element isRaw isRest => ⟨isRaw.legallyNamed, isRest.legallyNamed⟩
  | .text _ _ _ _ isRest => ⟨trivial, isRest.legallyNamed⟩

end

theorem IsDocument.legallyNamed {text : String} {e : Element} (h : IsDocument text e) :
    e.LegallyNamed := by
  obtain ⟨-, _, _, _, -, -, isRaw, -⟩ := h
  exact isRaw.legallyNamed

end Markup

end VoiceDialogue
