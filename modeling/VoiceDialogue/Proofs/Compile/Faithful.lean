/-
VoiceDialogue/Proofs/Compile/Faithful.lean

Nothing of a turn is lost when it compiles.

If a document is the result of a turn, then it tells whether that was a
message, an object call or a transfer, and what was in it: every item in its
order, every setting, and whether a setting was made at all
(`payload_determined`).  The name of a turn is not in its document, nor are the
ways of writing the same thing that `Payload.rendered` brings together.
-/
import VoiceDialogue.Proofs.Compile.Outcome
import VoiceDialogue.Proofs.Render.Determined

namespace VoiceDialogue

variable {σ τ : Type}

/-- Turns without adapters and without fetch policies that compile to the same
document on the same platform do the same. -/
theorem payload_determined (p : Platform) (a : Turn σ) (b : Turn τ) (s : σ) (s' : τ) (d : Document)
    (ownA : a.adapters = []) (ownB : b.adapters = [])
    (fetchA : a.payload.fetch? = none) (fetchB : b.payload.fetch? = none)
    (hA : (compile p a s).result = .ok d) (hB : (compile p b s').result = .ok d) :
    a.payload.rendered = b.payload.rendered := by
  obtain ⟨renderedA, -⟩ := (result_compile_eq_ok_iff p s d ownA).1 hA
  obtain ⟨renderedB, -⟩ := (result_compile_eq_ok_iff p s' d ownB).1 hB
  exact Render.document_inj fetchA fetchB renderedA renderedB

/-! ### Archives -/

/-- An object call with two archives. -/
def twoArchives : Turn Unit := ⟨"lookup", .objectCall { archives := ["a.jar", "b.jar"] }, []⟩

/-- An object call with one archive that looks like the two. -/
def joinedArchives : Turn Unit := ⟨"lookup", .objectCall { archives := ["a.jar b.jar"] }, []⟩

/-- Archives are only known by their text: two of them, or one that has their
names in it, make the same document. -/
theorem payload_determined_archives :
    Turn.objectCallOf "lookup" [.archive "a.jar", .archive "b.jar"] = .ok twoArchives ∧
      Turn.objectCallOf "lookup" [.archive "a.jar b.jar"] = .ok joinedArchives ∧
      twoArchives.payload ≠ joinedArchives.payload ∧
      ∃ d, (compile (.ofConventions {}) twoArchives ()).result = .ok d ∧
        (compile (.ofConventions {}) joinedArchives ()).result = .ok d ∧
        twoArchives.payload.rendered = joinedArchives.payload.rendered := by
  refine ⟨rfl, rfl, by decide, ?_⟩
  obtain ⟨d, two, joined⟩ : ∃ d, (compile (.ofConventions {}) twoArchives ()).result = .ok d ∧
      (compile (.ofConventions {}) joinedArchives ()).result = .ok d := ⟨_, rfl, rfl⟩
  exact ⟨d, two, joined, payload_determined _ _ _ () () d rfl rfl rfl rfl two joined⟩

end VoiceDialogue
