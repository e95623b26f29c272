/-
VoiceDialogue/Proofs/Turn/Settings.lean

What is left of settings that are taken one after another.

A draft takes settings in any order and as many as it is given.  Of a field that
holds one value the last setting counts (`lastGiven?`), and a field that holds a
list gathers everything in the order in which it comes.  So the draft that
settings lead to can be written down field by field, without taking them: there
is a function `given` for each kind of draft.  That it is right is a matter of
one further setting (`given_concat`); the induction is the same for all drafts
(`foldl_eq_given`).

Settings of different fields leave each other alone, and may change places
(`set_comm`).
-/
import Mathlib.Data.List.Induction
import VoiceDialogue.Turn.Basic

namespace VoiceDialogue

/-! ### Settings of any kind -/

section

variable {S D α : Type}

/-- The value that is left to a field of which the last setting counts; other
settings have no value for it. -/
def lastGiven? (value? : S → Option α) (ss : List S) : Option α := (ss.filterMap value?).getLast?

@[simp]
theorem lastGiven?_append (value? : S → Option α) (ss ss' : List S) :
    lastGiven? value? (ss ++ ss') = (lastGiven? value? ss').or (lastGiven? value? ss) := by
  rw [lastGiven?, List.filterMap_append, List.getLast?_append]
  rfl

@[simp]
theorem lastGiven?_singleton (value? : S → Option α) (s : S) :
    lastGiven? value? [s] = value? s := by
  cases h : value? s with
  | none => simp [lastGiven?, h]
  | some a => simp [lastGiven?, h]

@[simp]
theorem lastGiven?_map {β : Type} (value? : S → Option α) (f : β → S) (bs : List β) :
    lastGiven? value? (bs.map f) = lastGiven? (fun b => value? (f b)) bs := by
  rw [lastGiven?, List.filterMap_map]
  rfl

@[simp]
theorem lastGiven?_none (ss : List S) : lastGiven? (fun _ => (none : Option α)) ss = none := by
  simp [lastGiven?]

@[simp]
theorem lastGiven?_some (a : Option α) : lastGiven? some a.toList = a := by
  cases a with
  | none => rfl
  | some a => rfl

/-- The last value was given by a setting. -/
theorem exists_of_mem_lastGiven? {value? : S → Option α} {ss : List S} {a : α}
    (h : a ∈ lastGiven? value? ss) : ∃ s ∈ ss, value? s = some a :=
  List.mem_filterMap.1 (List.mem_of_getLast? h)

/-- Settings that have nothing for a list. -/
@[simp]
theorem flatMap_nothing (ss : List S) : (ss.flatMap fun _ => ([] : List α)) = [] := by
  rw [List.flatMap_eq_nil_iff]
  intro _ _
  rfl

/-- If one further setting is taken as it should be, then so are all. -/
theorem foldl_eq_given {set : D → S → D} {start : D} {given : List S → D}
    (nothing : given [] = start) (further : ∀ ss s, given (ss ++ [s]) = set (given ss) s)
    (ss : List S) : ss.foldl set start = given ss := by
  induction ss using List.reverseRecOn with
  | nil => exact nothing.symm
  | append_singleton ss s ih =>
    rw [List.foldl_append, ih, further]
    rfl

/-- Two settings that do not see each other may change places, whatever comes
before and after them. -/
theorem foldl_swap {set : D → S → D} {a b : S} (apart : ∀ d, set (set d a) b = set (set d b) a)
    (start : D) (before after : List S) :
    (before ++ a :: b :: after).foldl set start = (before ++ b :: a :: after).foldl set start := by
  simp only [List.foldl_append, List.foldl_cons, apart]

end

/-! ### Messages -/

namespace Message

/-- The field that a setting is for. -/
def Setting.field : Setting → String
  | .item _ | .items _ => "audioItems"
  | .language _ => "language"
  | .bargeIn _ => "bargeIn"

namespace Draft

/-- The draft that settings lead to.  A flag may be given back to the platform,
and then there is none. -/
def given (name : String) (ss : List Setting) : Draft where
  name := name
  items := ss.flatMap fun | .item i => [i] | .items is => is | _ => []
  language := lastGiven? (fun | .language tag => some tag | _ => none) ss
  bargeIn := (lastGiven? (fun | .bargeIn flag => some flag | _ => none) ss).join

theorem given_concat (name : String) (ss : List Setting) (s : Setting) :
    given name (ss ++ [s]) = (given name ss).set s := by
  cases s <;> simp [given, set]

theorem set_comm {a b : Setting} (apart : a.field ≠ b.field) (d : Draft) :
    (d.set a).set b = (d.set b).set a := by
  cases a <;> cases b <;> first | rfl | exact absurd rfl apart

end Draft

end Message

/-! ### Object calls -/

namespace ObjectCall

/-- The field that a setting is for. -/
def Setting.field : Setting → String
  | .classId _ => "classId"
  | .codeBase _ => "codeBase"
  | .codeType _ => "codeType"
  | .data _ => "data"
  | .mediaType _ => "type"
  | .archive _ | .archives _ => "archives"
  | .fetch _ => "fetchConfiguration"
  | .parameter _ | .parameters _ => "parameters"
  | .script _ => "postObjectScript"

namespace Draft

/-- The draft that settings lead to. -/
def given (name : String) (ss : List Setting) : Draft where
  name := name
  call :=
    { classId := lastGiven? (fun | .classId text => some text | _ => none) ss
      codeBase := lastGiven? (fun | .codeBase text => some text | _ => none) ss
      codeType := lastGiven? (fun | .codeType text => some text | _ => none) ss
      data := lastGiven? (fun | .data text => some text | _ => none) ss
      mediaType := lastGiven? (fun | .mediaType text => some text | _ => none) ss
      archives := ss.flatMap fun | .archive location => [location] | .archives ls => ls | _ => []
      fetch := lastGiven? (fun | .fetch policy => some policy | _ => none) ss
      parameters := ss.flatMap fun | .parameter q => [q] | .parameters qs => qs | _ => []
      script := lastGiven? (fun | .script code => some code | _ => none) ss }

theorem given_concat (name : String) (ss : List Setting) (s : Setting) :
    given name (ss ++ [s]) = (given name ss).set s := by
  cases s <;> simp [given, set]

theorem set_comm {a b : Setting} (apart : a.field ≠ b.field) (d : Draft) :
    (d.set a).set b = (d.set b).set a := by
  cases a <;> cases b <;> first | rfl | exact absurd rfl apart

end Draft

end ObjectCall

/-! ### Transfers -/

namespace Transfer

/-- The field that a setting is for. -/
def Setting.field : Setting → String
  | .destination _ => "destination"
  | .aai _ => "aai"
  | .transferAudio _ => "transferAudio"
  | .item _ => "audioItems"
  | .connectTimeout _ => "connectTimeout"
  | .maxTime _ => "maxTime"

namespace Draft

/-- The draft that settings lead to. -/
def given (name : String) (style : Style) (ss : List Setting) : Draft where
  name := name
  style := style
  destination := lastGiven? (fun | .destination location => some location | _ => none) ss
  aai := lastGiven? (fun | .aai text => some text | _ => none) ss
  transferAudio := lastGiven? (fun | .transferAudio location => some location | _ => none) ss
  items := ss.flatMap fun | .item i => [i] | _ => []
  connectTimeout := lastGiven? (fun | .connectTimeout d => some d | _ => none) ss
  maxTime := lastGiven? (fun | .maxTime d => some d | _ => none) ss

theorem given_concat (name : String) (style : Style) (ss : List Setting) (s : Setting) :
    given name style (ss ++ [s]) = (given name style ss).set s := by
  cases s <;> simp [given, set]

theorem set_comm {a b : Setting} (apart : a.field ≠ b.field) (d : Draft) :
    (d.set a).set b = (d.set b).set a := by
  cases a <;> cases b <;> first | rfl | exact absurd rfl apart

end Draft

end Transfer

/-! ### Parameters -/

namespace Parameter

/-- The field that a setting is for. -/
def Setting.field : Setting → String
  | .value _ => "value"
  | .expression _ => "expression"
  | .valueType _ => "valueType"
  | .mediaType _ => "type"

namespace Draft

/-- The draft that settings lead to. -/
def given (name : String) (ss : List Setting) : Draft where
  name := name
  value := lastGiven? (fun | .value text => some text | _ => none) ss
  expression := lastGiven? (fun | .expression code => some code | _ => none) ss
  valueType := lastGiven? (fun | .valueType t => some t | _ => none) ss
  mediaType := lastGiven? (fun | .mediaType text => some text | _ => none) ss

theorem given_concat (name : String) (ss : List Setting) (s : Setting) :
    given name (ss ++ [s]) = (given name ss).set s := by
  cases s <;> simp [given, set]

theorem set_comm {a b : Setting} (apart : a.field ≠ b.field) (d : Draft) :
    (d.set a).set b = (d.set b).set a := by
  cases a <;> cases b <;> first | rfl | exact absurd rfl apart

end Draft

end Parameter

/-! ### Fetch policies -/

namespace FetchPolicy

/-- The field that a setting is for. -/
def Setting.field : Setting → String
  | .hint _ => "fetchHint"
  | .timeout _ => "fetchTimeout"
  | .maxAge _ => "maxAge"
  | .maxStale _ => "maxStale"
  | .attempts _ => "fetchAttempts"
  | .attemptTimeout _ => "fetchAttemptTimeout"

namespace Draft

/-- The draft that settings lead to. -/
def given (ss : List Setting) : Draft where
  policy :=
    { hint := lastGiven? (fun | .hint h => some h | _ => none) ss
      timeout := lastGiven? (fun | .timeout d => some d | _ => none) ss
      maxAge := lastGiven? (fun | .maxAge d => some d | _ => none) ss
      maxStale := lastGiven? (fun | .maxStale d => some d | _ => none) ss
      attempts := lastGiven? (fun | .attempts n => some n | _ => none) ss
      attemptTimeout := lastGiven? (fun | .attemptTimeout d => some d | _ => none) ss }

theorem given_concat (ss : List Setting) (s : Setting) :
    given (ss ++ [s]) = (given ss).set s := by
  cases s <;> simp [given, set]

theorem set_comm {a b : Setting} (apart : a.field ≠ b.field) (d : Draft) :
    (d.set a).set b = (d.set b).set a := by
  cases a <;> cases b <;> first | rfl | exact absurd rfl apart

end Draft

end FetchPolicy

end VoiceDialogue
