/-
VoiceDialogue/Proofs/Turn/Drafts.lean

What comes of settings.

For each of the five kinds of drafts four things are known about what a list of
settings builds (`ExactBuild`).  It depends on the draft that the settings lead
to and on nothing else; settings of different fields may change places; it
succeeds exactly if all checks of that draft are passed, and then it shows what
is in the draft; and it fails with the error of the first check that is not
passed.

All four follow from what one setting does to a draft and from the checks that
decide a build (`ExactBuild.of_draft`), so each kind only has to name these.
The checks and their order are those of `checks`, the last values and the
gathered lists those of `given`.
-/
import VoiceDialogue.Proofs.Turn.Canonical
import VoiceDialogue.Proofs.Turn.Checks
import VoiceDialogue.Proofs.Turn.Settings

namespace VoiceDialogue

variable {σ : Type}

/-! ### Settings and what they build -/

section

variable {S D α : Type}

/-- What settings build is known from the draft that they lead to. -/
structure ExactBuild (result : List S → Built α) (field : S → String) (given : List S → D)
    (build : D → Built α) (checks : D → List (Option ValidationError)) (Shows : D → α → Prop) :
    Prop where
  /-- Only the draft that is left counts. -/
  settled : ∀ ss, result ss = build (given ss)
  /-- Settings of different fields may change places. -/
  swap : ∀ before a b after, field a ≠ field b →
    result (before ++ a :: b :: after) = result (before ++ b :: a :: after)
  /-- What is built has passed every check and shows what is in the draft. -/
  eq_ok_iff : ∀ ss x, result ss = .ok x ↔
    (∀ c ∈ checks (given ss), c = none) ∧ Shows (given ss) x
  /-- The first check that is not passed is the error. -/
  eq_error_iff : ∀ ss e, result ss = .error e ↔ (checks (given ss)).findSome? id = some e

variable {result : List S → Built α} {field : S → String} {given : List S → D}
  {build : D → Built α} {checks : D → List (Option ValidationError)} {Shows : D → α → Prop}

theorem ExactBuild.of_draft (set : D → S → D) (start : D)
    (built : ∀ ss, result ss = build (ss.foldl set start))
    (nothing : given [] = start) (further : ∀ ss s, given (ss ++ [s]) = set (given ss) s)
    (apart : ∀ a b, field a ≠ field b → ∀ d, set (set d a) b = set (set d b) a)
    (decided : ∀ d, (build d).DecidedBy (checks d) (Shows d))
    (unique : ∀ d x y, Shows d x → Shows d y → x = y) :
    ExactBuild result field given build checks Shows := by
  have settled (ss : List S) : result ss = build (given ss) := by
    rw [built, foldl_eq_given nothing further]
  refine ⟨settled, ?_, ?_, ?_⟩
  · intro before a b after different
    rw [built, built, foldl_swap (apart a b different)]
  · intro ss x
    rw [settled]
    constructor
    · intro h
      exact (decided (given ss)).of_eq_ok h
    · rintro ⟨passed, shown⟩
      -- something is built, and only one thing shows what is in the draft
      obtain ⟨y, h, shown'⟩ := (decided (given ss)).exists_ok passed
      rw [h, unique _ _ _ shown shown']
  · intro ss e
    rw [settled]
    exact (decided (given ss)).eq_error_iff

end

/-! ### The five kinds of drafts -/

theorem Message.exactBuild (name : String) :
    ExactBuild (Turn.messageOf name : List Setting → Built (Turn σ)) Setting.field
      (Draft.given name) Draft.build Draft.checks Draft.Shows := by
  apply ExactBuild.of_draft Draft.set { name } (fun _ => rfl) rfl (Draft.given_concat name)
  · intro a b apart d
    exact Draft.set_comm apart d
  · exact Draft.decidedBy_build
  · rintro d _ _ rfl rfl
    rfl

theorem ObjectCall.exactBuild (name : String) :
    ExactBuild (Turn.objectCallOf name : List Setting → Built (Turn σ)) Setting.field
      (Draft.given name) Draft.build Draft.checks Draft.Shows := by
  apply ExactBuild.of_draft Draft.set { name } (fun _ => rfl) rfl (Draft.given_concat name)
  · intro a b apart d
    exact Draft.set_comm apart d
  · exact Draft.decidedBy_build
  · rintro d _ _ rfl rfl
    rfl

theorem Transfer.exactBuild (name : String) (style : Style) :
    ExactBuild (Turn.transferOf name style : List Setting → Built (Turn σ)) Setting.field
      (Draft.given name style) Draft.build Draft.checks Draft.Shows := by
  apply ExactBuild.of_draft Draft.set { name, style } (fun _ => rfl) rfl
    (Draft.given_concat name style)
  · intro a b apart d
    exact Draft.set_comm apart d
  · exact Draft.decidedBy_build
  · rintro d _ _ ⟨location, given, rfl⟩ ⟨location', given', rfl⟩
    obtain rfl : location = location' := Option.some.inj (given.symm.trans given')
    rfl

/-- Which of the two kinds of payload a parameter has is known from its value
and its expression. -/
theorem Parameter.exactBuild (name : String) :
    ExactBuild (Parameter.ofSettings name) Setting.field (Draft.given name) Draft.build
      Draft.checks Draft.Shows := by
  apply ExactBuild.of_draft Draft.set { name } (fun _ => rfl) rfl (Draft.given_concat name)
  · intro a b apart d
    exact Draft.set_comm apart d
  · exact Draft.decidedBy_build
  · rintro d q r ⟨name, value, expression, valueType, mediaType⟩
      ⟨name', value', expression', valueType', mediaType'⟩
    have payload : q.payload = r.payload :=
      payload_inj.2 ⟨value.trans value'.symm, expression.trans expression'.symm⟩
    calc q = ⟨q.name, q.payload, q.valueType, q.mediaType⟩ := rfl
      _ = ⟨r.name, r.payload, r.valueType, r.mediaType⟩ := by
        rw [name, name', payload, valueType, valueType', mediaType, mediaType']
      _ = r := rfl

theorem FetchPolicy.exactBuild :
    ExactBuild FetchPolicy.ofSettings Setting.field Draft.given Draft.build Draft.checks
      Draft.Shows := by
  apply ExactBuild.of_draft Draft.set {} (fun _ => rfl) rfl Draft.given_concat
  · intro a b apart d
    exact Draft.set_comm apart d
  · exact Draft.decidedBy_build
  · rintro d _ _ rfl rfl
    rfl

/-- **What drafts build.**  For messages, object calls, transfers, parameters
and fetch policies, and any settings: what is built depends on the last value
of each field, and on everything that was given to a list; settings of
different fields may change places; the build succeeds if all checks are passed,
and then shows exactly these values; and otherwise the first check that is not
passed is the error. -/
theorem drafts_build_exactly (name : String) (style : Transfer.Style) :
    ExactBuild (Turn.messageOf name : List Message.Setting → Built (Turn σ))
        Message.Setting.field (Message.Draft.given name) Message.Draft.build
        Message.Draft.checks Message.Draft.Shows ∧
      ExactBuild (Turn.objectCallOf name : List ObjectCall.Setting → Built (Turn σ))
        ObjectCall.Setting.field (ObjectCall.Draft.given name) ObjectCall.Draft.build
        ObjectCall.Draft.checks ObjectCall.Draft.Shows ∧
      ExactBuild (Turn.transferOf name style : List Transfer.Setting → Built (Turn σ))
        Transfer.Setting.field (Transfer.Draft.given name style) Transfer.Draft.build
        Transfer.Draft.checks Transfer.Draft.Shows ∧
      ExactBuild (Parameter.ofSettings name) Parameter.Setting.field
        (Parameter.Draft.given name) Parameter.Draft.build Parameter.Draft.checks
        Parameter.Draft.Shows ∧
      ExactBuild FetchPolicy.ofSettings FetchPolicy.Setting.field FetchPolicy.Draft.given
        FetchPolicy.Draft.build FetchPolicy.Draft.checks FetchPolicy.Draft.Shows :=
  ⟨Message.exactBuild name, ObjectCall.exactBuild name, Transfer.exactBuild name style,
    Parameter.exactBuild name, FetchPolicy.exactBuild⟩

end VoiceDialogue
