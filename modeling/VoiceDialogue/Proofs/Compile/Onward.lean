/-
VoiceDialogue/Proofs/Compile/Onward.lean

The dialogue goes on after every turn.

Whatever a turn without adapters is, and whatever happens when it is run, the
last thing that is run is a jump to where the platform wants the dialogue to
continue (`every_path_goes_on`).  This is a law of whole documents: the paths
of a supervised transfer are branches that stand side by side in one list of
children, and a single one without its jump would lose the callers with that
outcome.
-/
import VoiceDialogue.Proofs.Compile.Outcome
import VoiceDialogue.Proofs.Render.Paths

namespace VoiceDialogue

variable {σ : Type}

/-- In the document of a turn every path ends with the jump to where the
dialogue continues, and there is no other jump.  The handler of the release is
there exactly once, before what is filled, if the caller is released, and is
not there otherwise; parameters come before what is filled. -/
theorem every_path_goes_on (p : Platform) (t : Turn σ) (s : σ) (d : Document)
    (own : t.adapters = []) (h : (compile p t s).result = .ok d) :
    d.root.Continuing p.submitTarget ∧ t.payload.Placed d.root := by
  obtain ⟨rendered, -⟩ := (result_compile_eq_ok_iff p s d own).1 h
  cases kind : t.payload with
  | message m =>
    rw [kind] at rendered
    exact ⟨Render.continuing_message rendered, Render.placed_message rendered⟩
  | objectCall c =>
    rw [kind] at rendered
    exact ⟨Render.continuing_objectCall rendered, Render.placed_objectCall rendered⟩
  | transfer tr =>
    rw [kind] at rendered
    exact ⟨Render.continuing_transfer rendered, Render.placed_transfer rendered⟩

/-! ### A caller who is released -/

/-- A call that is put through if someone answers. -/
def consult : Turn Unit :=
  ⟨"consult", .transfer ⟨"tel:+15550100", .consultation, none, none, [.speech "One moment."],
    none, none⟩, []⟩

/-- A platform that goes on at a place of its own. -/
def elsewhere : Platform :=
  .ofConventions
    { scopeObject := "d", transferStatusFunction := "f", submitTarget := "#on", formId := "f" }

/-- A consultation has a handler of the release and nine branches, and all ten
paths go on at that place. -/
theorem consult_goes_on :
    Turn.transferOf "consult" .consultation [.destination "tel:+15550100",
        .item (.speech "One moment.")] = .ok consult ∧
      ∃ d, (compile elsewhere consult ()).result = .ok d ∧
        d.root.Continuing "#on" ∧ consult.payload.Placed d.root ∧ d.root.paths.length = 10 := by
  refine ⟨rfl, ?_⟩
  obtain ⟨d, rendered, fine⟩ : ∃ d, Render.document elsewhere consult.payload = .ok d ∧
      d.firstInvalid? = none := ⟨_, rfl, by decide +kernel⟩
  have count : d.root.paths.length = 10 := by
    rw [Render.paths_transfer rendered, Render.endings, Render.branches_outcomeBranches]
    rfl
  have h : (compile elsewhere consult ()).result = .ok d :=
    (result_compile_eq_ok_iff _ () d rfl).2 ⟨rendered, fine⟩
  obtain ⟨continuing, placed⟩ := every_path_goes_on elsewhere consult () d rfl h
  exact ⟨d, h, continuing, placed, count⟩

end VoiceDialogue
