/-
VoiceDialogue/Proofs/Render/Names.lean

The names in rendered documents.

The renderer gives elements and attributes names of its own, and all of these
are legal.  There is one exception: attributes that carry fetch attempts have
the names that the platform declares, and declared names are written as they
are.  So the names of a document are legal exactly if the declared names that
it shows are (`Render.legallyNamed_iff`).
-/
import VoiceDialogue.Proofs.Render.Parts

namespace VoiceDialogue

/-! ### Legal tags -/

section

variable (name : String) (a : Attributes)

@[simp] theorem legalTag_empty : LegalTag name .empty ↔ Markup.isXmlName name.toList := by
  simp [LegalTag, Attributes.names, Attributes.empty]

@[simp] theorem legalTag_set (n v : String) :
    LegalTag name (a.set n v) ↔ LegalTag name a ∧ Markup.isXmlName n.toList := by
  simp only [LegalTag, Attributes.mem_names_set, forall_eq_or_imp]
  constructor
  · rintro ⟨own, new, others⟩
    exact ⟨⟨own, others⟩, new⟩
  · rintro ⟨⟨own, others⟩, new⟩
    exact ⟨own, new, others⟩

@[simp] theorem legalTag_set? (n : String) (v : Option String) :
    LegalTag name (a.set? n v) ↔ LegalTag name a ∧ (v.isSome → Markup.isXmlName n.toList) := by
  cases v with
  | none => simp [Attributes.set?]
  | some v => simp [Attributes.set?]

theorem legalTag_setAll (entries : List (String × String)) :
    LegalTag name (a.setAll entries)
      ↔ LegalTag name a ∧ ∀ n ∈ namesOf entries, Markup.isXmlName n.toList := by
  induction entries generalizing a with
  | nil => simp [Attributes.setAll]
  | cons e rest ih =>
    have names : namesOf (e :: rest) = e.1 :: namesOf rest := rfl
    show LegalTag name ((a.set e.1 e.2).setAll rest) ↔ _
    rw [ih, legalTag_set, names, List.forall_mem_cons, and_assoc]

end

/-! ### Legal pieces -/

namespace Render

theorem legal_audioItem (i : AudioItem) : i.Everywhere LegalTag fun _ => True := by
  cases i with
  | speech s => exact fun _ => trivial
  | file location alternative => simp +decide [AudioItem.Everywhere]
  | pause duration => simp +decide [AudioItem.Everywhere]
  | recording expression => simp +decide [AudioItem.Everywhere]

theorem legal_script (code : String) : ScriptEverywhere LegalTag (fun _ => True) code := by
  simp +decide [ScriptEverywhere]

theorem legal_param (q : Parameter) : LegalTag "param" (param q).attributes := by
  simp +decide [param, Element.new]

theorem legal_objectAttributes (c : ObjectCall) : LegalTag "object" (objectAttributes c) := by
  simp +decide [objectAttributes]

theorem legal_transferTag (t : Transfer) : LegalTag "transfer" (transferTag t).attributes := by
  simp +decide [transferTag, Element.new]

theorem legal_branches (p : Platform) : BranchesEverywhere LegalTag (fun _ => True) p := by
  simp +decide [BranchesEverywhere, legal_script]

/-! ### Documents -/

/-- The declared names that the document of a payload shows. -/
def attemptNames (p : Platform) : Payload → List String
  | .objectCall c => namesOf (attemptEntries p c)
  | _ => []

theorem legal_payload_iff (p : Platform) (payload : Payload) :
    PayloadEverywhere LegalTag (fun _ => True) p payload
      ↔ ∀ n ∈ attemptNames p payload, Markup.isXmlName n.toList := by
  cases payload with
  | message m => simp +decide [PayloadEverywhere, attemptNames, promptAttributes, legal_audioItem]
  -- fixed names drop out, and the declared ones of the object are left
  | objectCall c =>
    simp +decide [PayloadEverywhere, attemptNames, legalTag_setAll, legal_objectAttributes,
      legal_param, legal_script]
  | transfer t =>
    simp +decide [PayloadEverywhere, attemptNames, legal_transferTag, legal_audioItem,
      legal_branches]

/-- The names of a document are legal exactly if the declared ones are. -/
theorem legallyNamed_iff {p : Platform} {payload : Payload} {d : Document}
    (h : document p payload = .ok d) :
    d.root.LegallyNamed ↔ ∀ n ∈ attemptNames p payload, Markup.isXmlName n.toList := by
  rw [Element.LegallyNamed, everywhere_document trivial h, legal_payload_iff]
  simp +decide [rootAttributes]

end Render

end VoiceDialogue
