/-
VoiceDialogue/Proofs/Markup/RoundTrip.lean

Reading what was written.

Main result (`markup_roundTrip`): if all names in a tree are legal and all its
strings can be carried, the reader accepts the markup of the tree, with or
without a declaration, and gives the tree in normal form.  So markup hides
nothing but the division of text.

The proof goes up with the reader.  An escape expands to the character that
it was made of, and no sign that would end a value or character data is left
by the escapes; so values and data are read back, and with them attributes,
tags and, along the tree, elements.

The reader joins pieces of text that the tree keeps apart.  What is read from
the markup of some children is therefore stated with a piece of text in front
of them, and the induction moves text from the children to this piece until
an element or the end comes (`readContent_write`).
-/
import VoiceDialogue.Proofs.Markup.Carriable
import VoiceDialogue.Proofs.Markup.Escapes
import VoiceDialogue.Proofs.Markup.Grammar
import VoiceDialogue.Proofs.Markup.Normal

namespace VoiceDialogue

namespace Markup

/-! ### Names and blanks -/

theorem isNameChar_of_isNameStart {c : Char} (h : isNameStart c) : isNameChar c := by
  simp [isNameChar, h]

theorem isXmlName_spec {name : List Char} (h : isXmlName name) :
    (∃ c rest, name = c :: rest ∧ isNameStart c) ∧ ∀ c ∈ name, isNameChar c := by
  cases name with
  | nil => cases h
  | cons c rest =>
    rw [isXmlName, Bool.and_eq_true, List.all_eq_true] at h
    refine ⟨⟨c, rest, rfl, h.1⟩, ?_⟩
    intro d hd
    rcases List.mem_cons.1 hd with rfl | hd
    · exact isNameChar_of_isNameStart h.1
    · exact h.2 d hd

theorem skipSpace_cons {c : Char} (h : isSpace c = false) (cs : List Char) :
    skipSpace (c :: cs) = c :: cs := by
  simp [skipSpace, h]

/-- No blank can start a name. -/
theorem isSpace_eq_false {c : Char} (h : isNameStart c) : isSpace c = false := by
  rw [Bool.eq_false_iff]
  intro blank
  simp only [isSpace, Bool.or_eq_true, decide_eq_true_eq] at blank
  rcases blank with ((rfl | rfl) | rfl) | rfl <;> revert h <;> decide

/-- A name is read up to the first character that cannot stand in one. -/
theorem readName_append {name rest : List Char} (h : isXmlName name)
    (stop : ∀ c, rest.head? = some c → isNameChar c = false) :
    readName (name ++ rest) = some (name, rest) := by
  obtain ⟨-, chars⟩ := isXmlName_spec h
  -- nothing of the rest is taken
  have none : rest.takeWhile isNameChar = [] ∧ rest.dropWhile isNameChar = rest := by
    cases rest with
    | nil => exact ⟨rfl, rfl⟩
    | cons c rest => simp [stop c rfl]
  simp [readName, List.takeWhile_append_of_pos chars, List.dropWhile_append_of_pos chars, none, h]

/-! ### Tags -/

/-- A value is read back from its quotes. -/
theorem readValue_escaped (value rest : List Char) :
    readValue (value.flatMap escapeInValue ++ '"' :: rest) = some (value, rest) := by
  -- the first quote is the one that ends the value, and settling blanks does nothing
  have plain : ∀ d ∈ value.flatMap escapeInValue,
      d ≠ '<' ∧ d ≠ '"' ∧ d ≠ '\r' ∧ plainInValue d = d := by
    intro d hd
    obtain ⟨c, -, h⟩ := List.mem_flatMap.1 hd
    exact escapeInValue_plain h
  have unquoted : ∀ d ∈ value.flatMap escapeInValue, decide (d ≠ '"') = true :=
    fun d hd => decide_eq_true (plain d hd).2.1
  have same : (value.flatMap escapeInValue).map plainInValue = value.flatMap escapeInValue := by
    rw [List.map_congr_left fun d hd => (plain d hd).2.2.2, List.map_id']
  have unopened : '<' ∉ value.flatMap escapeInValue := fun h => (plain _ h).1 rfl
  simp only [readValue, List.takeWhile_append_of_pos unquoted,
    List.dropWhile_append_of_pos unquoted]
  simp [unopened, same, expand_flatMap expand_escapeInValue]

/-- Attributes are read back, and reading stops at a sign that ends a tag. -/
theorem readAttributes_write {entries : List (String × String)} {seen : Attributes} {bound : Nat}
    {c : Char} {rest : List Char} (nodup : (namesOf (seen.entries ++ entries)).Nodup)
    (legal : ∀ n ∈ namesOf entries, isXmlName n.toList) (enough : entries.length < bound)
    (stop : isSpace c = false) :
    readAttributes bound seen (entries.flatMap writeAttribute ++ c :: rest)
      = some (⟨seen.entries ++ entries, nodup⟩, c :: rest) := by
  induction entries generalizing seen bound with
  | nil =>
    obtain ⟨bound, rfl⟩ := Nat.exists_eq_add_of_lt enough
    simp [readAttributes, stop, skipSpace_cons stop]
  | cons a entries ih =>
    obtain ⟨bound, rfl⟩ := Nat.exists_eq_add_one.2 (show 0 < bound by omega)
    obtain ⟨n, v⟩ := a
    have legalName := legal n (List.mem_cons_self ..)
    have legalRest : ∀ m ∈ namesOf entries, isXmlName m.toList :=
      fun m hm => legal m (List.mem_cons_of_mem _ hm)
    have fresh : n ∉ seen.names := by
      simp only [namesOf, List.map_append, List.map_cons] at nodup
      intro hn
      exact (List.nodup_append.1 nodup).2.2 n hn n (List.mem_cons_self ..) rfl
    -- the name must be seen to start, or the blank before it would end the tag
    obtain ⟨⟨d, more, en, start⟩, -⟩ := isXmlName_spec legalName
    -- the text as the steps of the reader see it
    let value := v.toList.flatMap escapeInValue ++ '"' ::
      (entries.flatMap writeAttribute ++ c :: rest)
    have shape : ((n, v) :: entries).flatMap writeAttribute ++ c :: rest
        = ' ' :: (n.toList ++ '=' :: '"' :: value) := by
      simp [writeAttribute, value]
    have skipped : skipSpace (' ' :: (n.toList ++ '=' :: '"' :: value))
        = n.toList ++ '=' :: '"' :: value := by
      rw [en, List.cons_append, skipSpace, List.dropWhile_cons_of_pos rfl, ← skipSpace,
        skipSpace_cons (isSpace_eq_false start)]
    have starts : (n.toList ++ '=' :: '"' :: value).head?.any isNameStart = true := by
      rw [en]
      exact start
    have name : readName (n.toList ++ '=' :: '"' :: value) = some (n.toList, '=' :: '"' :: value) :=
      readName_append legalName (by rintro _ ⟨⟩; rfl)
    have given : (readEquals ('=' :: '"' :: value)).bind readValue
        = some (v.toList, entries.flatMap writeAttribute ++ c :: rest) :=
      readValue_escaped _ _
    have entriesSet := Attributes.entries_set_of_not_mem v fresh
    have nodupRest : (namesOf ((seen.set n v).entries ++ entries)).Nodup := by
      rw [entriesSet, List.append_assoc]
      exact nodup
    have later := ih nodupRest legalRest (Nat.lt_of_succ_lt_succ enough)
    rw [shape, readAttributes]
    simp only [skipped, starts, name, given, String.ofList_toList, if_neg fresh, later]
    simp [isSpace, entriesSet]

theorem length_le_length_writeAttribute (entries : List (String × String)) :
    entries.length ≤ (entries.flatMap writeAttribute).length := by
  induction entries with
  | nil => exact Nat.le_refl _
  | cons a entries ih =>
    simp only [List.flatMap_cons, List.length_append, List.length_cons, writeAttribute]
    omega

/-- All attributes of an element are read back. -/
theorem readAttributes_all (attributes : Attributes)
    (legal : ∀ n ∈ attributes.names, isXmlName n.toList) {c : Char} (rest : List Char)
    (stop : isSpace c = false) :
    readAttributes ((attributes.entries.flatMap writeAttribute ++ c :: rest).length + 1) .empty
        (attributes.entries.flatMap writeAttribute ++ c :: rest)
      = some (attributes, c :: rest) := by
  have enough := length_le_length_writeAttribute attributes.entries
  have bounded : attributes.entries.length
      < (attributes.entries.flatMap writeAttribute ++ c :: rest).length + 1 := by
    rw [List.length_append]
    exact Nat.lt_succ_of_le (Nat.le_add_right_of_le enough)
  exact @readAttributes_write attributes.entries .empty _ c rest attributes.nodup legal bounded stop

/-- The tag of an element is read back, up to the sign that ends it. -/
theorem readTag_write {name : String} {attributes : Attributes} (legal : LegalTag name attributes)
    {c : Char} (rest : List Char) (blank : isSpace c = false) (stop : isNameChar c = false) :
    ∃ cs, readName (Element.writeTag name attributes ++ c :: rest) = some (name.toList, cs) ∧
      readAttributes (cs.length + 1) .empty cs = some (attributes, c :: rest) := by
  obtain ⟨legalName, legalNames⟩ := legal
  refine ⟨attributes.entries.flatMap writeAttribute ++ c :: rest, ?_, ?_⟩
  · rw [Element.writeTag, List.append_assoc]
    apply readName_append legalName
    -- the name ends at the blank before an attribute or at the given sign
    cases attributes.entries with
    | nil =>
      rintro _ ⟨⟩
      exact stop
    | cons a entries =>
      rintro _ ⟨⟩
      rfl
  · exact readAttributes_all attributes legalNames rest blank

theorem readEnd_write {name : List Char} (legal : isXmlName name) (rest : List Char) :
    readEnd name (name ++ '>' :: rest) = some rest := by
  have named : readName (name ++ '>' :: rest) = some (name, '>' :: rest) :=
    readName_append legal (by rintro _ ⟨⟩; rfl)
  rw [readEnd, named]
  simp [skipSpace_cons (show isSpace '>' = false from rfl)]

/-! ### Children -/

/-- Reading text that markup follows: the text becomes a child of its own. -/
theorem readContent_writeText {s : String} {bound : Nat} {cs rest : List Char}
    {children : List Node} (nonempty : s ≠ "")
    (h : readContent bound ('<' :: cs) = some (children, rest)) :
    readContent (bound + 1) (writeText s ++ '<' :: cs) = some (.text s :: children, rest) := by
  obtain ⟨lt, gt, -⟩ := not_mem_writeText s
  have unopened : ∀ d ∈ writeText s, decide (d ≠ '<') = true :=
    fun d hd => decide_eq_true fun e => lt (e ▸ hd)
  have taken : (writeText s ++ '<' :: cs).takeWhile (· ≠ '<') = writeText s := by
    rw [List.takeWhile_append_of_pos unopened]
    simp
  have left : (writeText s ++ '<' :: cs).dropWhile (· ≠ '<') = '<' :: cs := by
    rw [List.dropWhile_append_of_pos unopened]
    simp
  have expanded : expand (writeText s) = some s.toList := expand_flatMap expand_escapeInText _
  obtain ⟨d, ds, ed⟩ := List.exists_cons_of_ne_nil (mt (writeText_eq_nil_iff s).1 nonempty)
  have hd : d ≠ '<' := fun e => lt (by rw [ed, e]; exact List.mem_cons_self ..)
  rw [readContent]
  · simp only [taken, left, holdsSectionEnd_eq_false gt, expanded, h]
    simp
  -- the text is neither empty nor the start of a tag
  · simp
  · simp [ed, hd]
  · simp [ed, hd]

/-- Reading text in front of markup, if there is any. -/
theorem readContent_prependText {k bound : Nat} {cs rest : List Char} {children : List Node}
    (s : String) (markup : ∀ t, children.head? ≠ some (.text t))
    (h : ∀ bound, k < bound → readContent bound ('<' :: cs) = some (children, rest))
    (enough : (writeText s).length + k < bound) :
    readContent bound (writeText s ++ '<' :: cs)
      = some (Node.prependText s children, rest) := by
  by_cases hs : s = ""
  · subst hs
    rw [Node.prependText_empty]
    exact h bound (by omega)
  · have long : 0 < (writeText s).length :=
      List.length_pos_iff.2 (mt (writeText_eq_nil_iff s).1 hs)
    obtain ⟨bound, rfl⟩ := Nat.exists_eq_add_one.2 (show 0 < bound by omega)
    rw [readContent_writeText hs (h bound (by omega)), Node.prependText_of_markup hs markup]

/-! ### Elements -/

theorem readElement_empty {name : String} {attributes : Attributes}
    (legal : LegalTag name attributes) (bound : Nat) (rest : List Char) :
    readElement (bound + 1) (Element.writeTag name attributes ++ '/' :: '>' :: rest)
      = some (⟨name, attributes, []⟩, rest) := by
  obtain ⟨cs, named, attributed⟩ := readTag_write legal (c := '/') ('>' :: rest) rfl rfl
  rw [readElement, named]
  simp only [attributed, String.ofList_toList]

theorem readElement_pair {name : String} {attributes : Attributes}
    (legal : LegalTag name attributes) {bound : Nat} {inner : List Char} {children : List Node}
    (h : ∀ rest, readContent bound (inner ++ '<' :: '/' :: rest) = some (children, rest))
    (rest : List Char) :
    readElement (bound + 1) (Element.writeTag name attributes ++ '>' ::
        (inner ++ '<' :: '/' :: (name.toList ++ '>' :: rest)))
      = some (⟨name, attributes, children⟩, rest) := by
  obtain ⟨cs, named, attributed⟩ := readTag_write legal (c := '>')
    (inner ++ '<' :: '/' :: (name.toList ++ '>' :: rest)) rfl rfl
  rw [readElement, named]
  simp only [attributed, h, readEnd_write legal.1, Option.map_some, String.ofList_toList]

/-- A tag starts like a name. -/
theorem writeTag_start {name : String} {attributes : Attributes}
    (legal : LegalTag name attributes) :
    ∃ d more, Element.writeTag name attributes = d :: more ∧ isNameStart d := by
  obtain ⟨⟨d, more, en, start⟩, -⟩ := isXmlName_spec legal.1
  exact ⟨d, _, by rw [Element.writeTag, en, List.cons_append], start⟩

mutual

/-- An element is read back after its first sign, whatever follows it. -/
theorem readElement_write : (e : Element) → e.LegallyNamed →
    ∃ d cs, e.write = '<' :: d :: cs ∧ isNameStart d ∧ ∀ bound rest, e.write.length ≤ bound →
      readElement bound (d :: cs ++ rest) = some (e.normal, rest)
  | ⟨name, attributes, children⟩, ⟨legal, legalIn⟩ => by
    obtain ⟨d, more, tag, start⟩ := writeTag_start legal
    by_cases none : children = []
    · -- one tag, which ends itself
      subst none
      have shape : Element.write ⟨name, attributes, []⟩ = '<' :: d :: (more ++ ['/', '>']) := by
        rw [Element.write, tag]
        rfl
      refine ⟨d, _, shape, start, ?_⟩
      intro bound rest enough
      rw [shape] at enough
      obtain ⟨bound, rfl⟩ := Nat.exists_eq_add_one.2 (Nat.lt_of_lt_of_le (Nat.succ_pos _) enough)
      have read := readElement_empty legal bound rest
      simpa [tag, Element.normal, Element.normalAll] using read
    · -- two tags with the children between them
      have shape : Element.write ⟨name, attributes, children⟩ = '<' :: d ::
          (more ++ '>' :: (Element.writeAll children ++ '<' :: '/' :: (name.toList ++ ['>']))) := by
        rw [Element.write, tag, if_neg (by simpa using none)]
        simp
      refine ⟨d, _, shape, start, ?_⟩
      intro bound rest enough
      rw [shape] at enough
      simp only [List.length_cons, List.length_append] at enough
      obtain ⟨bound, rfl⟩ := Nat.exists_eq_add_one.2 (show 0 < bound by omega)
      have content : ∀ rest, readContent bound (Element.writeAll children ++ '<' :: '/' :: rest)
          = some (Element.normalAll children, rest) := by
        intro rest
        have inner := readContent_write children legalIn "" bound rest
        rw [writeText_empty, List.nil_append, Node.prependText_empty, List.length_nil] at inner
        exact inner (by omega)
      have read := readElement_pair legal content rest
      simpa [tag, Element.normal] using read

/-- Children are read back up to the end tag, joined to text in front of
them. -/
theorem readContent_write : (children : List Node) →
    Node.AllEverywhere LegalTag (fun _ => True) children → ∀ s bound rest,
      (writeText s).length + (Element.writeAll children).length < bound →
      readContent bound (writeText s ++ (Element.writeAll children ++ '<' :: '/' :: rest))
        = some (Node.prependText s (Element.normalAll children), rest)
  | [], _ => by
    intro s bound rest enough
    -- the end tag closes the text in front
    apply readContent_prependText (k := 0) s (by simp [Element.normalAll]) ?_ enough
    intro bound h
    obtain ⟨bound, rfl⟩ := Nat.exists_eq_add_one.2 (show 0 < bound by omega)
    rfl
  | .text t :: children, ⟨_, legal⟩ => by
    intro s bound rest enough
    -- the text moves to the piece in front
    have later := readContent_write children legal (s ++ t) bound rest
    rw [writeText_append, List.append_assoc, Node.prependText_append] at later
    rw [Element.writeAll, List.append_assoc, Element.normalAll]
    apply later
    rw [Element.writeAll] at enough
    simpa only [List.length_append, Nat.add_assoc] using enough
  | .element e :: children, ⟨legal, legalIn⟩ => by
    intro s bound rest enough
    obtain ⟨d, cs, shape, start, element⟩ := readElement_write e legal
    rw [Element.writeAll, List.length_append] at enough
    -- the element closes the text in front, and a new piece starts behind it
    rw [Element.writeAll, Element.normalAll, shape, List.append_assoc, List.cons_append]
    apply readContent_prependText s (by simp) ?_ enough
    intro bound h
    obtain ⟨bound, rfl⟩ := Nat.exists_eq_add_one.2 (show 0 < bound by omega)
    have long : 0 < e.write.length := by
      rw [shape]
      exact Nat.succ_pos _
    have later := readContent_write children legalIn "" bound rest
    rw [writeText_empty, List.nil_append, Node.prependText_empty, List.length_nil] at later
    have notEnd : d ≠ '/' := by
      rintro rfl
      exact absurd start (by decide)
    have read := element bound (Element.writeAll children ++ '<' :: '/' :: rest) (by omega)
    rw [readContent]
    · rw [read]
      simp [later (by omega)]
    · simp [notEnd]

end

/-! ### Documents -/

theorem unifyLines_eq_self {cs : List Char} (h : '\r' ∉ cs) : unifyLines cs = cs := by
  fun_induction unifyLines cs with
  | case1 => rfl
  | case2 rest ih => simp at h
  | case3 rest _ ih => simp at h
  | case4 c rest _ _ ih => rw [ih fun hr => h (List.mem_cons_of_mem c hr)]

theorem not_mem_of_isXmlName {name : List Char} (legal : isXmlName name) : '\r' ∉ name := by
  intro h
  have inName : isNameChar '\r' := (isXmlName_spec legal).2 '\r' h
  exact absurd inName (by decide)

theorem not_mem_writeTag {name : String} {attributes : Attributes}
    (legal : LegalTag name attributes) : '\r' ∉ Element.writeTag name attributes := by
  intro h
  rcases List.mem_append.1 h with h | h
  · exact not_mem_of_isXmlName legal.1 h
  · obtain ⟨a, ha, h⟩ := List.mem_flatMap.1 h
    have legalName := not_mem_of_isXmlName (legal.2 a.1 (List.mem_map_of_mem ha))
    have value : '\r' ∉ a.2.toList.flatMap escapeInValue := by
      intro hv
      obtain ⟨c, -, hc⟩ := List.mem_flatMap.1 hv
      exact (escapeInValue_plain hc).2.2.1 rfl
    simp [writeAttribute, legalName, value] at h

mutual

/-- No carriage return stands in markup. -/
theorem not_mem_write : (e : Element) → e.LegallyNamed → '\r' ∉ e.write
  | ⟨name, attributes, children⟩, ⟨legal, legalIn⟩ => by
    have inTag := not_mem_writeTag legal
    have inName := not_mem_of_isXmlName legal.1
    have inChildren := not_mem_writeAll children legalIn
    rw [Element.write]
    split <;> simp [inTag, inName, inChildren]

theorem not_mem_writeAll : (children : List Node) →
    Node.AllEverywhere LegalTag (fun _ => True) children → '\r' ∉ Element.writeAll children
  | [], _ => by simp [Element.writeAll]
  | .element e :: children, ⟨legal, legalIn⟩ => by
    simp [Element.writeAll, not_mem_write e legal, not_mem_writeAll children legalIn]
  | .text s :: children, ⟨_, legalIn⟩ => by
    simp [Element.writeAll, (not_mem_writeText s).2.2, not_mem_writeAll children legalIn]

end

/-- The root is read back from its markup. -/
theorem readRoot_write {e : Element} (legal : e.LegallyNamed) :
    readRoot e.write = some e.normal := by
  obtain ⟨d, cs, shape, -, element⟩ := readElement_write e legal
  have read := element (2 * (d :: cs).length + 1) [] (by
    simp only [shape, List.length_cons]
    omega)
  rw [List.append_nil] at read
  rw [shape, readRoot, read]
  rfl

theorem readDeclaration_write {e : Element} (legal : e.LegallyNamed) :
    readDeclaration e.write = some e.write := by
  obtain ⟨d, cs, shape, start, -⟩ := readElement_write e legal
  have notDeclared : d ≠ '?' := by
    rintro rfl
    exact absurd start (by decide)
  rw [shape, readDeclaration]
  simp [notDeclared]

/-- The declaration that a document starts with is read. -/
theorem readDeclaration_declaration (cs : List Char) :
    readDeclaration (Document.declaration.toList ++ '<' :: cs) = some ('<' :: cs) := by
  let stated : Attributes := ⟨[("version", "1.0"), ("encoding", "UTF-8")], by decide⟩
  have text : Document.declaration.toList ++ '<' :: cs = '<' :: '?' :: 'x' :: 'm' :: 'l' ::
      (stated.entries.flatMap writeAttribute ++ '?' :: '>' :: '\n' :: '<' :: cs) := rfl
  have known : stated.entries ∈ declarations := by decide
  rw [text, readDeclaration, readAttributes_all stated (by decide) _ rfl]
  simp [known, skipSpace, isSpace]

theorem exists_write (e : Element) : ∃ cs, e.write = '<' :: cs := by
  obtain ⟨name, attributes, children⟩ := e
  rw [Element.write]
  split
  · exact ⟨_, rfl⟩
  · exact ⟨_, rfl⟩

/-- A text that is settled, and whose declaration has been read, is read as a
document. -/
theorem read?_eq {text : String} {cs : List Char} (carried : ∀ c ∈ text.toList, isXmlChar c)
    (settled : '\r' ∉ text.toList) (declared : readDeclaration text.toList = some cs) :
    read? text = readRoot cs := by
  rw [read?, if_pos (List.all_eq_true.2 carried), unifyLines_eq_self settled, readWhole?, declared,
    Option.bind_some]

theorem carried_write {e : Element} (carriable : e.Carriable) : ∀ c ∈ e.write, isXmlChar c := by
  rw [← firstInvalid?_eq_none_iff, Element.firstInvalid?_write,
    Element.firstInvalid?_eq_none_iff]
  exact carriable

theorem read?_markup {e : Element} (legal : e.LegallyNamed) (carriable : e.Carriable) :
    read? e.markup = some e.normal := by
  have text : e.markup.toList = e.write := String.toList_ofList
  have carried : ∀ c ∈ e.markup.toList, isXmlChar c := by
    rw [text]
    exact carried_write carriable
  have settled : '\r' ∉ e.markup.toList := by
    rw [text]
    exact not_mem_write e legal
  have declared : readDeclaration e.markup.toList = some e.write := by
    rw [text]
    exact readDeclaration_write legal
  exact (read?_eq carried settled declared).trans (readRoot_write legal)

/-- The text of a document is read as its root, whatever the names are. -/
theorem read?_text_eq {e : Element} (carriable : e.Carriable) (settled : '\r' ∉ e.write) :
    read? (Document.mk e).text = readRoot e.write := by
  obtain ⟨cs, start⟩ := exists_write e
  have text : (Document.mk e).text.toList = Document.declaration.toList ++ e.write := by
    rw [Document.text, String.toList_append, Element.markup, String.toList_ofList]
  have carried : ∀ c ∈ Document.declaration.toList, isXmlChar c := List.all_eq_true.1 (by decide)
  have lines : '\r' ∉ Document.declaration.toList := by decide
  refine read?_eq ?_ ?_ ?_
  · rw [text]
    exact List.forall_mem_append.2 ⟨carried, carried_write carriable⟩
  · rw [text, List.mem_append, not_or]
    exact ⟨lines, settled⟩
  · rw [text, start]
    exact readDeclaration_declaration cs

theorem read?_text {e : Element} (legal : e.LegallyNamed) (carriable : e.Carriable) :
    read? (Document.mk e).text = some e.normal :=
  (read?_text_eq carriable (not_mem_write e legal)).trans (readRoot_write legal)

/-- **Markup is read back.**  The reader accepts documents of the grammar
only.  It accepts what is written from a tree whose names are legal and whose
strings can be carried, with and without the declaration, and gives the tree
in normal form; the elements of that have the names, the attributes and the
texts that the tree gave them, so no value and no text turns into markup.
Trees with the same markup therefore have the same normal form. -/
theorem markup_roundTrip :
    (∀ text e, read? text = some e → IsDocument text e) ∧
    ∀ e : Element, e.LegallyNamed → e.Carriable →
      read? e.markup = some e.normal ∧
      read? (Document.mk e).text = some e.normal ∧
      e.normal.descendants.map Element.face = e.descendants.map Element.face ∧
      ∀ f : Element, f.LegallyNamed → f.Carriable → f.markup = e.markup → f.normal = e.normal := by
  refine ⟨fun text e h => isDocument_of_read? h, ?_⟩
  intro e legal carriable
  have back := read?_markup legal carriable
  refine ⟨back, read?_text legal carriable, Element.faces_normal e, ?_⟩
  intro f legal' carriable' same
  have back' := read?_markup legal' carriable'
  rw [same, back] at back'
  exact (Option.some.inj back').symm

/-- A tree with empty, adjacent and escaped texts, with a value full of signs
and with an element that has empty text only. -/
def knotty : Element :=
  ⟨"p:a", ⟨[("x", "<\"&>\t\n\r "), ("y", "")], by decide⟩,
    [.text "", .text "]]>\r\n", .text "<b/>&lt;", .element ⟨"b", .empty, [.text ""]⟩, .text ""]⟩

theorem markup_roundTrip_knotty :
    knotty.LegallyNamed ∧ knotty.Carriable ∧
      read? knotty.markup = some ⟨"p:a", ⟨[("x", "<\"&>\t\n\r "), ("y", "")], by decide⟩,
        [.text "]]>\r\n<b/>&lt;", .element ⟨"b", .empty, []⟩]⟩ := by
  have legal : knotty.LegallyNamed := by
    simp +decide [knotty, Element.LegallyNamed, Element.Everywhere, Node.AllEverywhere, LegalTag]
  have carriable : knotty.Carriable := (Element.firstInvalid?_eq_none_iff knotty).1 (by decide)
  exact ⟨legal, carriable, (markup_roundTrip.2 knotty legal carriable).1⟩

end Markup

end VoiceDialogue
