/-
VoiceDialogue/Proofs/Compile/WellFormed.lean

Well-formedness of what is compiled.

The text of a compiled turn is meant to be XML that reads back as the document,
with adjacent pieces of text joined.  Values and texts are taken care of: the
writer escapes them, and a character that no document can carry ends the
compilation.  Names are not.  Settled conventions have no empty names, but
nothing asks whether a name that they declare for fetch attempts is a name in
the sense of XML, and the writer writes it as it is.

So the text is as it should be exactly if the declared names that the document
shows are XML names (`wellFormed_iff`).
-/
import VoiceDialogue.Proofs.Compile.CompilerAdapters
import VoiceDialogue.Proofs.Markup.RoundTrip
import VoiceDialogue.Proofs.Render.Names

namespace VoiceDialogue

variable {σ : Type}

/-- A compiler without adapters compiles turns as they are. -/
theorem result_compile_without_adapters (p : Platform) (t : Turn σ) (s : σ) :
    (Compiler.compile { platform := p } t s).result = (compile p t s).result :=
  congrArg Prod.fst (outcome_compile_of_nil (c := { platform := p }) t s rfl)

/-- The text of a compiled turn is a document, and reads back as the tree that
was compiled, exactly if every name that the platform declares for fetch
attempts, and that the tree shows, is an XML name. -/
theorem wellFormed_iff (c : SettledConventions) (t : Turn σ) (s : σ) (d : Document)
    (own : t.adapters = [])
    (h : (Compiler.compile { platform := c.platform } t s).result = .ok d) :
    Markup.IsDocument d.text d.root.normal ∧ Markup.read? d.text = some d.root.normal
      ↔ ∀ n ∈ Render.attemptNames c.platform t.payload, Markup.isXmlName n.toList := by
  rw [result_compile_without_adapters, result_compile_eq_ok_iff c.platform s d own] at h
  obtain ⟨rendered, carried⟩ := h
  have carriable : d.root.Carriable := (Element.firstInvalid?_eq_none_iff d.root).1 carried
  rw [← Render.legallyNamed_iff rendered]
  constructor
  · -- a document has legal names, and joining text does not touch them
    rintro ⟨isDocument, -⟩
    exact (Element.everywhere_normal d.root).1 isDocument.legallyNamed
  · intro legal
    have read := Markup.read?_text legal carriable
    exact ⟨Markup.isDocument_of_read? read, read⟩

/-! ### A declared name -/

/-- An object call that asks for three attempts. -/
def lookup : Turn Unit := ⟨"lookup", .objectCall { fetch := some { attempts := some 3 } }, []⟩

/-- A platform that declares a name for attempts. -/
def declaring (name : String) (h : name ≠ "") : SettledConventions where
  names := { fetchAttemptsAttribute := some name }
  valid := by
    have given : some name ≠ some "" := fun e => h (Option.some.inj e)
    simp +decide [Conventions.validate, Convention.byImportance, Convention.all,
      Convention.isOptional, Conventions.get, given]

/-- Where the declared name is a name, the text reads back. -/
theorem wellFormed_lookup :
    Turn.objectCallOf "lookup" [.fetch { attempts := some 3 }] = .ok lookup ∧
      ∃ d, (Compiler.compile { platform := (declaring "x-attempts" (by decide)).platform } lookup
          ()).result = .ok d ∧
        Markup.IsDocument d.text d.root.normal ∧ Markup.read? d.text = some d.root.normal := by
  refine ⟨rfl, ?_⟩
  obtain ⟨d, h⟩ : ∃ d, (Compiler.compile
      { platform := (declaring "x-attempts" (by decide)).platform } lookup ()).result = .ok d :=
    ⟨_, rfl⟩
  exact ⟨d, h, (wellFormed_iff (declaring "x-attempts" (by decide)) lookup () d rfl h).2
    (by decide)⟩

/-- Where it is none, the turn compiles, and no reader of documents accepts the
text. -/
theorem illFormed_lookup :
    Turn.objectCallOf "lookup" [.fetch { attempts := some 3 }] = .ok lookup ∧
      ∃ d, (Compiler.compile { platform := (declaring "1 x" (by decide)).platform } lookup
          ()).result = .ok d ∧
        Markup.read? d.text = none ∧ ¬ Markup.IsDocument d.text d.root.normal := by
  refine ⟨rfl, ?_⟩
  obtain ⟨d, rendered, fine, settled, refused⟩ :
      ∃ d, Render.document (declaring "1 x" (by decide)).platform lookup.payload = .ok d ∧
        d.firstInvalid? = none ∧ '\r' ∉ d.root.write ∧ Markup.readRoot d.root.write = none :=
    ⟨_, rfl, rfl, by decide +kernel, by decide +kernel⟩
  have carriable : d.root.Carriable := (Element.firstInvalid?_eq_none_iff d.root).1 fine
  refine ⟨d, ?_, ?_, ?_⟩
  · rw [result_compile_without_adapters, result_compile_eq_ok_iff _ () d rfl]
    exact ⟨rendered, fine⟩
  · rw [← refused]
    exact Markup.read?_text_eq carriable settled
  · intro isDocument
    have legal : d.root.LegallyNamed :=
      (Element.everywhere_normal d.root).1 isDocument.legallyNamed
    have name := (Render.legallyNamed_iff rendered).1 legal "1 x" (by decide)
    exact absurd name (by decide)

end VoiceDialogue
