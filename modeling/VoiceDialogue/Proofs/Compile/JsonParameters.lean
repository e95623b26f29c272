/-
VoiceDialogue/Proofs/Compile/JsonParameters.lean

Parameters that pass JSON values.

A JSON value always makes a parameter: its text is a script expression and is
never empty.  Three parts have to work together for the value to arrive.  The
printer writes what reads back as the value; the builder keeps the text as it is;
and the search for forbidden characters lets it through, unless a string of the
value holds one of two characters (`Json.carriable_text_iff`).  The rest of the
turn does not matter, since a further parameter adds its own strings to the
document and nothing else (`exists_result_withParameter_iff`).
-/
import VoiceDialogue.Proofs.Compile.Outcome
import VoiceDialogue.Proofs.Compile.Values
import VoiceDialogue.Proofs.Json.Canonical
import VoiceDialogue.Proofs.Json.Strings
import VoiceDialogue.Proofs.Render.Strings
import VoiceDialogue.Proofs.Turn.Reachable

namespace VoiceDialogue

variable {σ : Type}

/-! ### A further parameter -/

/-- An object call with a further parameter. -/
def ObjectCall.withParameter (c : ObjectCall) (q : Parameter) : ObjectCall :=
  { c with parameters := c.parameters ++ [q] }

/-- The checks of an object call do not look at parameters. -/
theorem ObjectCall.Draft.objectCall_set_parameter {d : ObjectCall.Draft} {c : ObjectCall}
    (h : d.objectCall = .ok c) (q : Parameter) :
    (d.set (.parameter q)).objectCall = .ok (c.withParameter q) := by
  rw [objectCall] at h
  split at h
  · cases h
  next fine =>
  obtain ⟨classId, first, h⟩ := Built.bind_eq_ok_iff.1 h
  obtain ⟨codeBase, second, h⟩ := Built.bind_eq_ok_iff.1 h
  obtain ⟨codeType, third, h⟩ := Built.bind_eq_ok_iff.1 h
  obtain ⟨data, fourth, h⟩ := Built.bind_eq_ok_iff.1 h
  obtain ⟨mediaType, fifth, h⟩ := Built.bind_eq_ok_iff.1 h
  obtain ⟨script, sixth, h⟩ := Built.bind_eq_ok_iff.1 h
  obtain rfl := Except.ok.inj h
  rw [objectCall, set]
  simp only [fine, first, second, third, fourth, fifth, sixth]
  rfl

/-- A turn is built with a further parameter as it is without it. -/
theorem objectCallOf_concat_parameter {name : String} {settings : List ObjectCall.Setting}
    {t : Turn σ} {c : ObjectCall} (call : t.payload = .objectCall c)
    (h : Turn.objectCallOf name settings = .ok t) (q : Parameter) :
    Turn.objectCallOf name (settings ++ [.parameter q]) =
      .ok { t with payload := .objectCall (c.withParameter q) } := by
  obtain ⟨c', checked, named⟩ := Built.bind_eq_ok_iff.1 h
  obtain ⟨given, rfl⟩ := Turn.new_eq_ok_iff.1 named
  obtain rfl := Payload.objectCall.inj call
  rw [Turn.objectCallOf, List.foldl_append]
  refine Built.bind_eq_ok_iff.2 ⟨_, ObjectCall.Draft.objectCall_set_parameter checked q, ?_⟩
  exact Turn.new_eq_ok_iff.2 ⟨given, rfl⟩

/-! ### Compiling with a further parameter -/

/-- A turn without adapters compiles exactly if it can be rendered and all strings
of the document can be carried. -/
theorem exists_result_iff (p : Platform) {t : Turn σ} (s : σ) (own : t.adapters = []) :
    (∃ d, (compile p t s).result = .ok d) ↔
      (p.firstEmpty? = none ∧ t.payload.obstacle? = none) ∧
        ∀ x ∈ Render.strings p t.payload, Markup.Carriable x := by
  rw [← Render.exists_document_iff]
  constructor
  · rintro ⟨d, h⟩
    obtain ⟨rendered, fine⟩ := (result_compile_eq_ok_iff p s d own).1 h
    refine ⟨⟨d, rendered⟩, (Render.carriable_iff rendered).1 ?_⟩
    exact (Element.firstInvalid?_eq_none_iff d.root).1 fine
  · rintro ⟨⟨d, rendered⟩, carried⟩
    refine ⟨d, (result_compile_eq_ok_iff p s d own).2 ⟨rendered, ?_⟩⟩
    exact (Element.firstInvalid?_eq_none_iff d.root).2 ((Render.carriable_iff rendered).2 carried)

/-- A further parameter adds its strings to those of the document. -/
theorem forall_strings_withParameter_iff (p : Platform) (c : ObjectCall) (q : Parameter)
    (P : String → Prop) :
    (∀ x ∈ Render.strings p (.objectCall (c.withParameter q)), P x) ↔
      (∀ x ∈ Render.strings p (.objectCall c), P x) ∧ ∀ x ∈ q.strings, P x := by
  have more : (c.withParameter q).parameters.flatMap Parameter.strings =
      c.parameters.flatMap Parameter.strings ++ q.strings := by
    rw [ObjectCall.withParameter, List.flatMap_append, List.flatMap_singleton]
  have listed : (∀ x ∈ Render.payloadStrings p (.objectCall (c.withParameter q)), P x) ↔
      (∀ x ∈ Render.payloadStrings p (.objectCall c), P x) ∧ ∀ x ∈ q.strings, P x := by
    rw [Render.payloadStrings, more]
    simp only [Render.payloadStrings, List.forall_mem_append]
    constructor
    · rintro ⟨⟨⟨object, own, further⟩, script⟩, result⟩
      exact ⟨⟨⟨⟨object, own⟩, script⟩, result⟩, further⟩
    · rintro ⟨⟨⟨⟨object, own⟩, script⟩, result⟩, further⟩
      exact ⟨⟨⟨object, own, further⟩, script⟩, result⟩
  rw [Render.strings, Render.strings]
  simp only [List.forall_mem_append, List.forall_mem_cons, List.cons_append, listed, and_assoc]

section

variable {t : Turn σ} {c : ObjectCall}

/-- The turn of an object call with a further parameter. -/
def Turn.calling (t : Turn σ) (c : ObjectCall) : Turn σ := { t with payload := .objectCall c }

/-- With a further parameter a turn compiles exactly if its strings can be
carried. -/
theorem exists_result_withParameter_iff (p : Platform) (s : σ) (own : t.adapters = [])
    (call : t.payload = .objectCall c) (compiled : ∃ d, (compile p t s).result = .ok d)
    (q : Parameter) :
    (∃ d, (compile p (t.calling (c.withParameter q)) s).result = .ok d) ↔
      ∀ x ∈ q.strings, Markup.Carriable x := by
  rw [exists_result_iff p s own, call] at compiled
  obtain ⟨fine, carried⟩ := compiled
  have own' : (t.calling (c.withParameter q)).adapters = [] := own
  have fine' : p.firstEmpty? = none ∧ (t.calling (c.withParameter q)).payload.obstacle? = none :=
    fine
  rw [exists_result_iff p s own', and_iff_right fine', Turn.calling,
    forall_strings_withParameter_iff, and_iff_right carried]

/-- The element of a further parameter comes last. -/
theorem findAll_param_withParameter {p : Platform} {s : σ} (own : t.adapters = []) {q : Parameter}
    {d : Document} (h : (compile p (t.calling (c.withParameter q)) s).result = .ok d) :
    d.root.findAll "param" = c.parameters.map Render.param ++ [Render.param q] := by
  have own' : (t.calling (c.withParameter q)).adapters = [] := own
  obtain ⟨rendered, -⟩ := (result_compile_eq_ok_iff p s d own').1 h
  rw [Render.findAll_param_document rendered]
  exact List.map_append

end

/-! ### JSON values -/

namespace Parameter

/-- The text of a JSON value is never empty, so it makes a parameter. -/
theorem withJson_eq {v : Json} (words : v.InWords) {n : String} (named : n ≠ "") :
    withJson n v = .ok ⟨n, .expression v.canonical.text, none, none⟩ := by
  have back := Json.read_text_canonical words
  have nonempty : v.canonical.text ≠ "" := by
    intro empty
    rw [empty] at back
    cases back
  have payload : (nonEmpty "expression" v.canonical.text).map Payload.expression =
      .ok (.expression v.canonical.text) :=
    congrArg (Except.map Payload.expression) (nonEmpty_eq_ok_iff.2 ⟨nonempty, rfl⟩)
  exact Built.bind_eq_ok_iff.2 ⟨n, nonEmpty_eq_ok_iff.2 ⟨named, rfl⟩,
    Built.bind_eq_ok_iff.2 ⟨_, payload, rfl⟩⟩

end Parameter

/-- **A JSON value survives as a parameter.**  Where the numbers of a value are
whole and fit in 64 bits, the value makes a parameter of any name, with no literal
value and an expression that reads back as the value; values that differ have
expressions that differ.  If a turn without adapters calls an object and compiles,
and the name holds characters of markup only, then the turn compiles with this
parameter exactly if no string in the value, names of members included, holds
U+FFFE or U+FFFF.  The expression stands in the last element for a parameter just
as it is. -/
theorem withJson_survives {n : String} {v : Json} (words : v.InWords) (named : n ≠ "") :
    ∃ q, Parameter.withJson n v = .ok q ∧ q.name = n ∧ q.value? = none ∧
      q.expression? = some v.canonical.text ∧
      Json.read v.canonical.text = .ok v.canonical ∧
      (v.Ordered → v.canonical = v) ∧
      (∀ w : Json, w.InWords →
        (v.canonical.text = w.canonical.text ↔ v.canonical = w.canonical)) ∧
      ∀ (σ : Type) (p : Platform) (t : Turn σ) (c : ObjectCall) (s : σ),
        t.adapters = [] → t.payload = .objectCall c → (∃ d, (compile p t s).result = .ok d) →
        Markup.Carriable n →
          (∀ name settings, Turn.objectCallOf name settings = .ok t →
            Turn.objectCallOf name (settings ++ [.parameter q]) =
              .ok (t.calling (c.withParameter q))) ∧
          ((∃ d, (compile p (t.calling (c.withParameter q)) s).result = .ok d) ↔
            ∀ x ∈ v.canonical.strings, '\ufffe' ∉ x.toList ∧ '\uffff' ∉ x.toList) ∧
          ∀ d, (compile p (t.calling (c.withParameter q)) s).result = .ok d →
            ∃ e, d.root.findAll "param" = c.parameters.map Render.param ++ [e] ∧
              e.attributes.entries = [("name", n), ("expr", v.canonical.text)] := by
  have regular := Json.regular_canonical v words
  refine ⟨_, Parameter.withJson_eq words named, rfl, rfl, rfl,
    Json.read_text_canonical words, Json.canonical_of_ordered v,
    fun w words' => Json.text_canonical_inj words words', ?_⟩
  intro σ p t c s own call compiled name
  refine ⟨fun _ _ built => objectCallOf_concat_parameter call built _, ?_, fun d h => ?_⟩
  · rw [exists_result_withParameter_iff p s own call compiled,
      ← Json.carriable_text_iff regular.inWords]
    -- the strings of the parameter are its name and its expression
    show (∀ x ∈ [n, v.canonical.text], Markup.Carriable x) ↔ _
    simp [name]
  · exact ⟨_, findAll_param_withParameter own h, rfl⟩

/-! ### Two values -/

/-- An object call without parameters. -/
def plainCall : Turn Unit := ⟨"lookup", .objectCall {}, []⟩

/-- A value with control characters in a name and in a string. -/
def controlled : Json := .obj [("a\x01", .arr [.str "\x00", .int 7])]

/-- A value with a forbidden character in a name. -/
def spoilt : Json := .obj [("a\uffff", .null)]

/-- Control characters do no harm, in a name or in a string, and the forbidden
character of a name does. -/
theorem controlled_survives :
    controlled.InWords ∧ spoilt.InWords ∧ "filter" ≠ "" ∧ Markup.Carriable "filter" ∧
      (∃ d, (compile (.ofConventions {}) plainCall ()).result = .ok d) ∧
      (∃ q, Parameter.withJson "filter" controlled = .ok q ∧
        ∃ d, (compile (.ofConventions {}) (plainCall.calling (ObjectCall.withParameter {} q))
          ()).result = .ok d) ∧
      ∃ q, Parameter.withJson "filter" spoilt = .ok q ∧
        ¬ ∃ d, (compile (.ofConventions {}) (plainCall.calling (ObjectCall.withParameter {} q))
          ()).result = .ok d := by
  have words : controlled.InWords :=
    ⟨trivial, ⟨trivial, trivial, ⟨by decide, by decide⟩, trivial⟩, trivial⟩
  have words' : spoilt.InWords := ⟨trivial, trivial, trivial⟩
  have compiled : ∃ d, (compile (.ofConventions {}) plainCall ()).result = .ok d := ⟨_, rfl⟩
  refine ⟨words, words', by decide, by decide, compiled, ?_, ?_⟩
  · obtain ⟨q, built, -, -, -, -, -, -, rendered⟩ :=
      withJson_survives (n := "filter") words (by decide)
    obtain ⟨-, survives, -⟩ :=
      rendered Unit (.ofConventions {}) plainCall {} () rfl rfl compiled (by decide)
    exact ⟨q, built, survives.2 (by decide)⟩
  · obtain ⟨q, built, -, -, -, -, -, -, rendered⟩ :=
      withJson_survives (n := "filter") words' (by decide)
    obtain ⟨-, survives, -⟩ :=
      rendered Unit (.ofConventions {}) plainCall {} () rfl rfl compiled (by decide)
    exact ⟨q, built, fun found => absurd (survives.1 found) (by decide)⟩

end VoiceDialogue
