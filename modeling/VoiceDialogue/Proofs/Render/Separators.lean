/-
VoiceDialogue/Proofs/Render/Separators.lean

Items and the blanks between them.

The children of a prompt are the items, one for one, and the blanks that keep
pieces of speech apart.  In the children themselves a blank cannot be told from an
item that says a blank, so a layout names what each child is (`Piece`).  A layout
is right if its items are the given ones, each blank stands right between two
pieces of speech, and no two pieces of speech stand side by side (`Spaced`); no
blank can then be the first or the last child, or follow another one.

Where an item is put depends on the item before alone, so both the layout and the
text between the elements are found by one induction on the items, which carries
along whether the item before was a piece of speech (`spaced_layout`,
`gaps_itemNodes`).
-/
import Mathlib.Data.List.Basic
import VoiceDialogue.Proofs.Markup.Normal
import VoiceDialogue.Proofs.Render.Obstacles
import VoiceDialogue.Proofs.Render.Prompt

namespace VoiceDialogue

namespace AudioItem

/-- The text of an item, if it is a piece of speech. -/
def spoken? : AudioItem → Option String
  | .speech text => some text
  | _ => none

/-- An item is a piece of speech, or it is an element. -/
theorem speech_or_element (i : AudioItem) :
    (∃ text, i = .speech text) ∨ i.isSpeech = false ∧ ∃ e, i.node = .element e := by
  cases i with
  | speech text => exact .inl ⟨text, rfl⟩
  | file location alternative => exact .inr ⟨rfl, _, rfl⟩
  | pause duration => exact .inr ⟨rfl, _, rfl⟩
  | recording expression => exact .inr ⟨rfl, _, rfl⟩

/-- An item without anything to play, and the message about it. -/
inductive Unplayable : AudioItem → String → Prop
  | speech : Unplayable (.speech "") "speech synthesis with empty text"
  | file {alternative} : Unplayable (.file "" alternative) "audio file with empty location"
  | recording : Unplayable (.recording "") "recording with empty expression"

theorem unplayable_iff (i : AudioItem) (message : String) :
    i.Unplayable message ↔ ∃ o, i.obstacle? = some o ∧ o.reason = message := by
  constructor
  · rintro (_ | _ | _)
    · exact ⟨.emptySpeech, rfl, rfl⟩
    · exact ⟨.emptyLocation, rfl, rfl⟩
    · exact ⟨.emptyRecording, rfl, rfl⟩
  · rintro ⟨o, found, rfl⟩
    cases i with
    | speech text =>
      obtain ⟨rfl, ⟨⟩⟩ := Option.ite_none_right_eq_some.1 found
      exact .speech
    | file location alternative =>
      obtain ⟨rfl, ⟨⟩⟩ := Option.ite_none_right_eq_some.1 found
      exact .file
    | pause duration => cases found
    | recording expression =>
      obtain ⟨rfl, ⟨⟩⟩ := Option.ite_none_right_eq_some.1 found
      exact .recording

end AudioItem

namespace Render

/-! ### Layouts -/

/-- What a child of a prompt is. -/
inductive Piece
  | item (i : AudioItem)
  | blank

namespace Piece

/-- The child that a piece is. -/
def node : Piece → Node
  | .item i => i.node
  | .blank => .text " "

/-- The item that a piece is, unless it is a blank. -/
def item? : Piece → Option AudioItem
  | .item i => some i
  | .blank => none

end Piece

/-- Which piece may stand right behind which.  A blank stands between two pieces
of speech only, and two pieces of speech do not stand side by side. -/
def Piece.Precedes : Piece → Piece → Prop
  | .item i, .item j => ¬ (i.isSpeech ∧ j.isSpeech)
  | .item i, .blank => i.isSpeech
  | .blank, .item j => j.isSpeech
  | .blank, .blank => False

/-- Whether a layout is right for some items. -/
structure Spaced (is : List AudioItem) (ps : List Piece) : Prop where
  items : ps.filterMap Piece.item? = is
  neighbours : ps.IsChain Piece.Precedes
  first : ps.head? ≠ some .blank
  last : ps.getLast? ≠ some .blank

/-- The number of pieces of speech that come right behind another one. -/
def speechPairs (is : List AudioItem) : Nat :=
  (is.zip is.tail).countP fun x => x.1.isSpeech && x.2.isSpeech

/-- The layout of some items after a piece of speech or after something else. -/
def layout (afterSpeech : Bool) : List AudioItem → List Piece
  | [] => []
  | i :: is =>
      (if afterSpeech && i.isSpeech then [.blank, .item i] else [.item i]) ++ layout i.isSpeech is

theorem itemNodes_eq (afterSpeech : Bool) (is : List AudioItem) :
    itemNodes afterSpeech is = (layout afterSpeech is).map Piece.node := by
  induction is generalizing afterSpeech with
  | nil => rfl
  | cons i is ih =>
    rw [itemNodes, layout, List.map_append, ih, AudioItem.nodes]
    split <;> rfl

/-- The layout of the items behind a given one is right. -/
theorem spaced_layout_cons (p : AudioItem) (is : List AudioItem) :
    Spaced (p :: is) (.item p :: layout p.isSpeech is) := by
  induction is generalizing p with
  | nil => exact ⟨rfl, .singleton _, nofun, nofun⟩
  | cons i is ih =>
    obtain ⟨items, neighbours, -, last⟩ := ih i
    rw [layout]
    by_cases both : (p.isSpeech && i.isSpeech) = true
    · obtain ⟨hp, hi⟩ := Bool.and_eq_true_iff.1 both
      rw [if_pos both]
      exact ⟨congrArg (p :: ·) items, .cons_cons hp (.cons_cons hi neighbours), nofun, last⟩
    · have next : Piece.Precedes (.item p) (.item i) := fun h => both (Bool.and_eq_true_iff.2 h)
      rw [if_neg both]
      exact ⟨congrArg (p :: ·) items, .cons_cons next neighbours, nofun, last⟩

theorem spaced_layout (is : List AudioItem) : Spaced is (layout false is) := by
  cases is with
  | nil => exact ⟨rfl, .nil, nofun, nofun⟩
  | cons i is => exact spaced_layout_cons i is

theorem speechPairs_cons_cons (i j : AudioItem) (is : List AudioItem) :
    speechPairs (i :: j :: is) =
      speechPairs (j :: is) + if i.isSpeech && j.isSpeech then 1 else 0 := by
  rw [speechPairs, List.tail_cons, List.zip_cons_cons, List.countP_cons]
  rfl

theorem length_layout_cons (p : AudioItem) (is : List AudioItem) :
    (layout p.isSpeech is).length = is.length + speechPairs (p :: is) := by
  induction is generalizing p with
  | nil => rfl
  | cons i is ih =>
    rw [layout, List.length_append, ih i, speechPairs_cons_cons, List.length_cons]
    split
    · rw [List.length_cons, List.length_singleton]
      omega
    · rw [List.length_singleton]
      omega

/-- There are as many pieces as items and pairs of speech. -/
theorem length_layout (is : List AudioItem) :
    (layout false is).length = is.length + speechPairs is := by
  cases is with
  | nil => rfl
  | cons i is =>
    show (layout i.isSpeech is).length + 1 = _
    rw [length_layout_cons, List.length_cons, Nat.add_right_comm]

/-! ### Text between elements -/

/-- The texts in front of, between and behind the elements among some children. -/
def gaps (cs : List Node) : List String :=
  (cs.splitOnP fun c => c.element?.isSome).map Node.textOf

/-- The texts of the speech in front of, between and behind other items. -/
def speechRuns (is : List AudioItem) : List (List String) :=
  (is.splitOnP fun i => !i.isSpeech).map (·.filterMap AudioItem.spoken?)

theorem gaps_element (e : Element) (cs : List Node) : gaps (.element e :: cs) = "" :: gaps cs := by
  rw [gaps, List.splitOnP_cons_eq_if_modifyHead]
  rfl

theorem gaps_text {cs : List Node} {gap : String} {more : List String} (h : gaps cs = gap :: more)
    (t : String) : gaps (.text t :: cs) = (t ++ gap) :: more := by
  rw [gaps, List.map_eq_cons_iff] at h
  obtain ⟨part, parts, split, rfl, rfl⟩ := h
  rw [gaps, List.splitOnP_cons_eq_if_modifyHead, split, ← Node.textOf_text]
  rfl

theorem speechRuns_speech {is : List AudioItem} {run : List String} {more : List (List String)}
    (h : speechRuns is = run :: more) (t : String) :
    speechRuns (.speech t :: is) = (t :: run) :: more := by
  rw [speechRuns, List.map_eq_cons_iff] at h
  obtain ⟨part, parts, split, rfl, rfl⟩ := h
  rw [speechRuns, List.splitOnP_cons_eq_if_modifyHead, split]
  rfl

theorem speechRuns_other {i : AudioItem} (other : i.isSpeech = false) (is : List AudioItem) :
    speechRuns (i :: is) = [] :: speechRuns is := by
  rw [speechRuns, List.splitOnP_cons_eq_if_modifyHead, other]
  rfl

/-- Texts with a blank between them, and one before if text comes before. -/
def continued : Bool → List String → String
  | true, text :: run => " " ++ " ".intercalate (text :: run)
  | _, run => " ".intercalate run

theorem intercalate_cons (text : String) (run : List String) :
    " ".intercalate (text :: run) = text ++ continued true run := by
  cases run with
  | nil => simp [continued]
  | cons next run => rw [String.intercalate_cons_cons, continued, String.append_assoc]

/-- The text between elements is speech, with single blanks. -/
theorem gaps_itemNodes (afterSpeech : Bool) (is : List AudioItem) :
    ∃ run runs, speechRuns is = run :: runs ∧
      gaps (itemNodes afterSpeech is) = continued afterSpeech run :: runs.map " ".intercalate := by
  induction is generalizing afterSpeech with
  | nil => exact ⟨[], [], rfl, by cases afterSpeech <;> rfl⟩
  | cons i is ih =>
    obtain ⟨run, runs, parts, rest⟩ := ih i.isSpeech
    obtain ⟨text, rfl⟩ | ⟨other, e, element⟩ := i.speech_or_element
    · -- the text goes to the front of the gap, behind a blank if one is due
      refine ⟨text :: run, runs, speechRuns_speech parts text, ?_⟩
      have own := gaps_text rest text
      rw [AudioItem.isSpeech, ← intercalate_cons] at own
      cases afterSpeech with
      | false => exact own
      | true => exact gaps_text own " "
    · refine ⟨[], speechRuns is, speechRuns_other other is, ?_⟩
      rw [other] at rest
      rw [itemNodes, AudioItem.nodes_of_not_speech other, element, other, List.singleton_append,
        gaps_element, rest, parts]
      cases afterSpeech <;> rfl

theorem elements_itemNodes (afterSpeech : Bool) (is : List AudioItem) :
    (itemNodes afterSpeech is).filterMap Node.element? = is.filterMap fun i => i.node.element? := by
  induction is generalizing afterSpeech with
  | nil => rfl
  | cons i is ih =>
    have own : (i.nodes afterSpeech).filterMap Node.element? =
        [i].filterMap fun i => i.node.element? := by
      cases i <;> cases afterSpeech <;> rfl
    rw [itemNodes, List.filterMap_append, ih, own, ← List.filterMap_append, List.singleton_append]

/-! ### Main theorem -/

/-- **Items are rendered one for one.**  Rendering into an element without
children fails exactly if some item has nothing to play, and the message is that
about the first such item.  Otherwise the children are the items, in their order,
each of them one child, with a single blank between two pieces of speech that
follow each other and nowhere else: one child more for each such pair.  So the
text between elements is the speech of that place, joined by single blanks. -/
theorem appendItems_one_for_one (name : String) (attributes : Attributes) (is : List AudioItem) :
    (∀ message,
      (∃ o, appendItems ⟨name, attributes, []⟩ is = .error o ∧ o.reason = message) ↔
        ∃ before i after, is = before ++ i :: after ∧ (∀ j ∈ before, j.Playable) ∧
          i.Unplayable message) ∧
    ((∀ i ∈ is, i.Playable) ↔
      ∃ cs, appendItems ⟨name, attributes, []⟩ is = .ok ⟨name, attributes, cs⟩ ∧
        (∃ ps, Spaced is ps ∧ cs = ps.map Piece.node) ∧
        cs.length = is.length + speechPairs is ∧
        cs.filterMap Node.element? = (is.filterMap fun i => i.node.element?) ∧
        gaps cs = (speechRuns is).map " ".intercalate) := by
  constructor
  · intro message
    simp only [appendItems_eq_error_iff, List.findSome?_eq_some_iff, AudioItem.unplayable_iff,
      AudioItem.obstacle?_eq_none_iff]
    constructor
    · rintro ⟨o, ⟨before, i, after, split, found, playable⟩, rfl⟩
      exact ⟨before, i, after, split, playable, o, found, rfl⟩
    · rintro ⟨before, i, after, split, playable, o, found, rfl⟩
      exact ⟨o, ⟨before, i, after, split, found, playable⟩, rfl⟩
  · have success := exists_ok_iff (appendItems_eq_error_iff ⟨name, attributes, []⟩ is)
    rw [List.findSome?_eq_none_iff] at success
    simp only [AudioItem.obstacle?_eq_none_iff] at success
    rw [← success]
    constructor
    · rintro ⟨e, ok⟩
      obtain rfl := appendItems_eq ok
      obtain ⟨run, runs, parts, rest⟩ := gaps_itemNodes false is
      refine ⟨itemNodes false is, ok, ⟨_, spaced_layout is, itemNodes_eq false is⟩, ?_,
        elements_itemNodes false is, ?_⟩
      · rw [itemNodes_eq, List.length_map, length_layout]
      · rw [rest, parts]
        rfl
    · rintro ⟨cs, ok, -⟩
      exact ⟨_, ok⟩

end Render

end VoiceDialogue
