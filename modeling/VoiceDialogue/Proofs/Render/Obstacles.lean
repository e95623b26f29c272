/-
VoiceDialogue/Proofs/Render/Obstacles.lean

The obstacles that rendering meets.

Whether a turn can be rendered is a matter of its platform and its payload
alone, and it can be told without rendering: the names of the platform come
first (`Platform.firstEmpty?`), and then the payload, where the first bad
audio item counts (`Payload.obstacle?`).  Every part of the renderer fails
exactly if this says so, and with that obstacle
(`Render.document_eq_error_iff`).

Characters are no obstacle to rendering.  They are searched for later.
-/
import VoiceDialogue.Render.Document

namespace VoiceDialogue

/-! ### What stands in the way -/

namespace Platform

/-- Whether no name that a platform gives is empty. -/
structure WellNamed (p : Platform) : Prop where
  scopeObject : p.scopeObject ≠ ""
  valueResultFunction : p.valueResultFunction ≠ ""
  transferStatusFunction : p.transferStatusFunction ≠ ""
  submitTarget : p.submitTarget ≠ ""
  formId : p.formId ≠ ""
  applicationRoot : p.applicationRoot ≠ some ""
  fetchAttemptsAttribute : p.fetchAttemptsAttribute ≠ some ""
  fetchAttemptTimeoutAttribute : p.fetchAttemptTimeoutAttribute ≠ some ""

theorem firstEmpty?_eq_none_iff (p : Platform) : p.firstEmpty? = none ↔ p.WellNamed := by
  rw [firstEmpty?]
  constructor
  · -- an empty name would have been found, at its turn or before
    intro h
    constructor <;> grind
  · intro h
    simp [h.scopeObject, h.valueResultFunction, h.transferStatusFunction, h.submitTarget, h.formId,
      h.applicationRoot, h.fetchAttemptsAttribute, h.fetchAttemptTimeoutAttribute]

end Platform

namespace AudioItem

/-- Why an item has no markup. -/
def obstacle? : AudioItem → Option Obstacle
  | .speech text => if text = "" then some .emptySpeech else none
  | .file location _ => if location = "" then some .emptyLocation else none
  | .pause _ => none
  | .recording expression => if expression = "" then some .emptyRecording else none

/-- Whether an item has something to play. -/
def Playable : AudioItem → Prop
  | .speech text => text ≠ ""
  | .file location _ => location ≠ ""
  | .pause _ => True
  | .recording expression => expression ≠ ""

theorem obstacle?_eq_none_iff (i : AudioItem) : i.obstacle? = none ↔ i.Playable := by
  cases i with
  | speech text => simp [obstacle?, Playable]
  | file location alternative => simp [obstacle?, Playable]
  | pause duration => simp [obstacle?, Playable]
  | recording expression => simp [obstacle?, Playable]

/-- What can be wrong with an item. -/
theorem mem_of_obstacle? {i : AudioItem} {o : Obstacle} (h : i.obstacle? = some o) :
    o ∈ [.emptySpeech, .emptyLocation, .emptyRecording] := by
  cases i with
  | speech text =>
    obtain ⟨-, ⟨⟩⟩ := Option.ite_none_right_eq_some.1 h
    simp
  | file location alternative =>
    obtain ⟨-, ⟨⟩⟩ := Option.ite_none_right_eq_some.1 h
    simp
  | pause duration => cases h
  | recording expression =>
    obtain ⟨-, ⟨⟩⟩ := Option.ite_none_right_eq_some.1 h
    simp

end AudioItem

namespace Payload

/-- The audio items of a payload. -/
def items : Payload → List AudioItem
  | .message m => m.items
  | .objectCall _ => []
  | .transfer t => t.items

/-- What keeps a payload from being rendered, apart from its audio items. -/
def ownObstacle? : Payload → Option Obstacle
  | .message _ => none
  | .objectCall c => if "" ∈ c.archives then some .emptyArchive else none
  | .transfer t => if t.destination = "" then some .emptyDestination else none

/-- What keeps a payload from being rendered. -/
def obstacle? (p : Payload) : Option Obstacle :=
  p.ownObstacle?.or (p.items.findSome? AudioItem.obstacle?)

theorem obstacle?_eq_none_iff (p : Payload) :
    p.obstacle? = none ↔ p.ownObstacle? = none ∧ ∀ i ∈ p.items, i.Playable := by
  simp only [obstacle?, Option.or_eq_none_iff, List.findSome?_eq_none_iff,
    AudioItem.obstacle?_eq_none_iff]

/-- What can be wrong with a payload: something in an item, an archive or the
destination. -/
theorem mem_of_obstacle? {p : Payload} {o : Obstacle} (h : p.obstacle? = some o) :
    o ∈ [.emptySpeech, .emptyLocation, .emptyRecording, .emptyArchive, .emptyDestination] := by
  rcases Option.or_eq_some_iff.1 h with own | ⟨-, item⟩
  · cases p with
    | message m => cases own
    | objectCall c =>
      obtain ⟨-, ⟨⟩⟩ := Option.ite_none_right_eq_some.1 own
      simp
    | transfer t =>
      obtain ⟨-, ⟨⟩⟩ := Option.ite_none_right_eq_some.1 own
      simp
  · obtain ⟨i, -, hi⟩ := List.exists_of_findSome?_eq_some item
    exact List.mem_append_left [.emptyArchive, .emptyDestination] (AudioItem.mem_of_obstacle? hi)

end Payload

/-! ### What rendering says -/

/-- Something that fails exactly where there is an obstacle succeeds exactly
where there is none. -/
theorem exists_ok_iff {ε α : Type} {x : Except ε α} {obstacle? : Option ε}
    (h : ∀ e, x = .error e ↔ obstacle? = some e) : (∃ a, x = .ok a) ↔ obstacle? = none := by
  cases x with
  | error e => simp [(h e).1 rfl]
  | ok a =>
    cases obstacle? with
    | none => simp
    | some e => exact nomatch (h e).2 rfl

namespace Render

theorem appendItem_eq_error_iff (e : Element) (i : AudioItem) (o : Obstacle) :
    appendItem e i = .error o ↔ i.obstacle? = some o := by
  cases i with
  | speech text =>
    by_cases h : text = ""
    · simp [appendItem, AudioItem.obstacle?, h]
    · by_cases h' : endsInText e <;> simp [appendItem, AudioItem.obstacle?, h, h']
  | file location alternative =>
    by_cases h : location = "" <;> simp [appendItem, AudioItem.obstacle?, h]
  | pause duration => simp [appendItem, AudioItem.obstacle?]
  | recording expression =>
    by_cases h : expression = "" <;> simp [appendItem, AudioItem.obstacle?, h]

/-- The first item that cannot be rendered decides. -/
theorem appendItems_eq_error_iff (e : Element) (is : List AudioItem) (o : Obstacle) :
    appendItems e is = .error o ↔ is.findSome? AudioItem.obstacle? = some o := by
  induction is generalizing e with
  | nil => simp [appendItems]
  | cons i is ih =>
    rw [appendItems, List.findSome?_cons]
    cases h : appendItem e i with
    | error o' =>
      rw [(appendItem_eq_error_iff e i o').1 h]
      simp
    | ok e' =>
      rw [(exists_ok_iff (appendItem_eq_error_iff e i)).1 ⟨e', h⟩]
      exact ih e'

theorem item_eq_error_iff (p : Platform) (payload : Payload) (o : Obstacle) :
    item p payload = .error o ↔ payload.obstacle? = some o := by
  cases payload with
  | message m =>
    have prompt : messagePrompt m = .error o ↔ m.items.findSome? AudioItem.obstacle? = some o :=
      appendItems_eq_error_iff _ m.items o
    show messageItem p m = .error o ↔ m.items.findSome? AudioItem.obstacle? = some o
    rw [← prompt, messageItem]
    cases messagePrompt m with
    | error o' => simp
    | ok e => simp
  | objectCall c =>
    show objectItem p c = .error o ↔ _
    by_cases h : "" ∈ c.archives
    · simp [objectItem, Payload.obstacle?, Payload.ownObstacle?, Payload.items, h]
    · simp [objectItem, Payload.obstacle?, Payload.ownObstacle?, Payload.items, h]
  | transfer t =>
    show transferItem p t = .error o ↔ _
    have spoken := appendItems_eq_error_iff (.new "prompt") t.items o
    simp only [transferItem, Payload.obstacle?, Payload.ownObstacle?, Payload.items]
    by_cases hd : t.destination = ""
    · simp [hd]
    rw [if_neg hd, if_neg hd, Option.none_or, ← spoken]
    by_cases hi : t.items.isEmpty
    · -- nothing is spoken, and no prompt is built
      rw [if_pos hi, List.isEmpty_iff.1 hi]
      simp [appendItems]
    · rw [if_neg hi]
      show _ ↔ prompt t.items = .error o
      cases prompt t.items with
      | error o' => simp
      | ok e => simp

/-- A turn cannot be rendered exactly if a name of the platform is empty or
something is wrong with the payload, and the names come first. -/
theorem document_eq_error_iff (p : Platform) (payload : Payload) (o : Obstacle) :
    document p payload = .error o
      ↔ (p.firstEmpty?.map Obstacle.emptyName).or payload.obstacle? = some o := by
  rw [document]
  cases p.firstEmpty? with
  | some c => simp
  | none =>
    rw [Option.map_none, Option.none_or, ← item_eq_error_iff p]
    cases item p payload with
    | error o' => simp
    | ok e => simp

/-- A turn can be rendered exactly if nothing stands in the way. -/
theorem exists_document_iff (p : Platform) (payload : Payload) :
    (∃ d, document p payload = .ok d)
      ↔ p.firstEmpty? = none ∧ payload.obstacle? = none := by
  rw [exists_ok_iff (document_eq_error_iff p payload), Option.or_eq_none_iff,
    Option.map_eq_none_iff]

/-- Characters are no obstacle to rendering. -/
theorem document_ne_forbidden (p : Platform) (payload : Payload) (c : Char) :
    document p payload ≠ .error (.forbidden c) := by
  rw [Ne, document_eq_error_iff, Option.or_eq_some_iff]
  rintro (name | ⟨-, own⟩)
  · cases h : p.firstEmpty? with
    | none => rw [h] at name; cases name
    | some c => rw [h] at name; cases name
  · exact absurd (Payload.mem_of_obstacle? own) (by simp)

end Render

end VoiceDialogue
