/-
VoiceDialogue/Proofs/Compile/Reports.lean

What the dialogue learns of the outcome of a transfer.

The document of a supervised transfer has one conditional, and whatever code is
reported, one of its branches runs: it calls the function that receives
outcomes, once, and goes on.  The branch of an outcome hands over the quoted
code of that outcome, and the last branch hands over the code that was
reported.  So the receiver gets a code that stands for the same outcome, and
can still log the one that was reported (`reported_outcome_arrives`).

Nobody sees the outcome of a blind transfer, and its document has neither a
conditional nor a script.
-/
import VoiceDialogue.Proofs.Compile.Outcome
import VoiceDialogue.Proofs.Render.Elements

namespace VoiceDialogue

variable {σ : Type}

/-! ### Reports -/

/-- Whatever code is reported after a supervised transfer, one branch of the
only conditional runs.  It calls the receiver of outcomes once and goes on, and
the receiver gets a code for the same outcome, with the same memory of what was
reported.  The document of a blind transfer reports nothing. -/
theorem reported_outcome_arrives (p : Platform) (t : Turn σ) (s : σ) (d : Document)
    (tr : Transfer) (kind : t.payload = .transfer tr) (own : t.adapters = [])
    (h : (compile p t s).result = .ok d) :
    (tr.style = .bridge ∨ tr.style = .consultation →
      ∃ e, d.root.findAll "if" = [e] ∧ ∀ reported, ∃ b v,
        e.running? reported = some b ∧
        b.body = [.element (Render.script (p.transferStatusCall (Outcome.expression reported))),
          .element (Render.onward p)] ∧
        value? reported (Outcome.expression reported) = some v ∧
        Outcome.ofCode v == Outcome.ofCode reported ∧
        (Outcome.ofCode v).raw? = (Outcome.ofCode reported).raw?) ∧
    (tr.style = .blind → d.root.findAll "if" = [] ∧ d.root.findAll "script" = []) := by
  obtain ⟨rendered, -⟩ := (result_compile_eq_ok_iff p s d own).1 h
  rw [kind] at rendered
  constructor
  · intro style
    have supervised : tr.style.isSupervised = true := by
      rcases style with style | style <;> rw [style] <;> rfl
    refine ⟨Render.outcomeBranches p, ?_, ?_⟩
    · rw [Render.findAll_transfer rendered (by decide), if_pos supervised,
        Render.findAll_outcomeBranches]
    · intro reported
      obtain ⟨b, runs, body⟩ := Render.running?_outcomeBranches p reported
      have same : Outcome.ofCode reported == Outcome.ofCode reported := decide_eq_true rfl
      exact ⟨b, reported, runs, body, Outcome.value?_expression reported, same, rfl⟩
  · intro style
    have unsupervised : ¬ tr.style.isSupervised = true := by
      rw [style]
      decide
    constructor
    · rw [Render.findAll_transfer rendered (by decide), if_neg unsupervised]
    · rw [Render.findAll_transfer rendered (by decide), if_neg unsupervised]

/-! ### A code of no outcome -/

/-- A call that is put through. -/
def putThrough : Turn Unit :=
  ⟨"putThrough", .transfer ⟨"tel:+15550100", .bridge, none, none, [], none, none⟩, []⟩

/-- A platform with short names for the receiver of outcomes. -/
def shortNames : Platform :=
  .ofConventions { scopeObject := "call", transferStatusFunction := "ended" }

/-- A code that no outcome has is handed over as it was reported. -/
theorem congestion_arrives :
    Turn.transferOf "putThrough" .bridge [.destination "tel:+15550100"] = .ok putThrough ∧
      ∃ d e b, (compile shortNames putThrough ()).result = .ok d ∧
        d.root.findAll "if" = [e] ∧ e.running? "congestion" = some b ∧
        b.body = [.element ((Element.new "script").appendText "call.ended(transfer);"),
          .element (Render.onward shortNames)] := by
  refine ⟨rfl, ?_⟩
  obtain ⟨d, rendered, fine⟩ : ∃ d, Render.document shortNames putThrough.payload = .ok d ∧
      d.firstInvalid? = none := ⟨_, rfl, by decide +kernel⟩
  have h : (compile shortNames putThrough ()).result = .ok d :=
    (result_compile_eq_ok_iff shortNames () d rfl).2 ⟨rendered, fine⟩
  obtain ⟨supervised, -⟩ := reported_outcome_arrives shortNames putThrough () d _ rfl rfl h
  obtain ⟨e, only, runs⟩ := supervised (.inl rfl)
  obtain ⟨b, v, found, body, -⟩ := runs "congestion"
  exact ⟨d, e, b, h, only, found, body⟩

end VoiceDialogue
