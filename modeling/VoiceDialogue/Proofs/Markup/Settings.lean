/-
VoiceDialogue/Proofs/Markup/Settings.lean

Attributes that are set one after another.

What comes of a list of settings is known for every name: the names stand in
the order of their first setting (`names_ofList`), and each has the value of
its last one (`get?_ofList`).  So the attributes are the settings themselves
exactly if no name is set twice (`entries_ofList_iff`).
-/
import Mathlib.Data.List.Induction
import VoiceDialogue.Proofs.Markup.Everywhere

namespace VoiceDialogue

theorem namesOf_concat (settings : List (String × String)) (e : String × String) :
    namesOf (settings ++ [e]) = namesOf settings ++ [e.1] :=
  List.map_append

/-- The value that is left for a name by settings: that of the last one. -/
def lastValue? (settings : List (String × String)) (name : String) : Option String :=
  (settings.reverse.find? (·.1 = name)).map Prod.snd

theorem lastValue?_concat (settings : List (String × String)) (e : String × String)
    (name : String) : lastValue? (settings ++ [e]) name =
      if name = e.1 then some e.2 else lastValue? settings name := by
  rw [lastValue?, List.reverse_append, List.reverse_singleton, List.singleton_append]
  by_cases same : name = e.1
  · rw [if_pos same, List.find?_cons_of_pos (by simp [same]), Option.map_some]
  · rw [if_neg same, List.find?_cons_of_neg (by simpa using Ne.symm same), lastValue?]

namespace Attributes

/-- One setting more. -/
theorem ofList_concat (settings : List (String × String)) (e : String × String) :
    ofList (settings ++ [e]) = (ofList settings).set e.1 e.2 :=
  List.foldl_append

theorem get?_ofList (settings : List (String × String)) (name : String) :
    (ofList settings).get? name = lastValue? settings name := by
  induction settings using List.reverseRecOn with
  | nil => rfl
  | append_singleton settings e ih => rw [ofList_concat, get?_set, ih, lastValue?_concat]

theorem names_ofList (settings : List (String × String)) :
    (ofList settings).names = (namesOf settings).eraseDups := by
  induction settings using List.reverseRecOn with
  | nil => rfl
  | append_singleton settings e ih =>
    rw [ofList_concat, names_set, ih, namesOf_concat, List.eraseDups_append]
    -- a name that is there already is taken out of the last setting
    by_cases known : e.1 ∈ namesOf settings
    · rw [if_pos (List.mem_eraseDups.2 known)]
      simp [List.removeAll, known]
    · rw [if_neg (mt List.mem_eraseDups.1 known)]
      simp [List.removeAll, known, List.eraseDups_cons]

/-- Nothing is kept that was not set. -/
theorem mem_of_mem_ofList {settings : List (String × String)} {x : String × String}
    (h : x ∈ (ofList settings).entries) : x ∈ settings := by
  induction settings using List.reverseRecOn with
  | nil => exact h
  | append_singleton settings e ih =>
    rw [ofList_concat] at h
    rcases (mem_setEntry (ofList settings).nodup x).1 h with rfl | ⟨earlier, -⟩
    · exact List.mem_append_right settings List.mem_cons_self
    · exact List.mem_append_left [e] (ih earlier)

/-- Settings are kept as they are exactly if no name is set twice. -/
theorem entries_ofList_iff (settings : List (String × String)) :
    (ofList settings).entries = settings ↔ (namesOf settings).Nodup := by
  constructor
  · intro kept
    rw [← kept]
    exact (ofList settings).nodup
  · intro distinct
    induction settings using List.reverseRecOn with
    | nil => rfl
    | append_singleton settings e ih =>
      rw [namesOf_concat] at distinct
      obtain ⟨before, -, apart⟩ := List.nodup_append.1 distinct
      have kept := ih before
      have fresh : e.1 ∉ (ofList settings).names := by
        rw [names, kept]
        exact fun h => apart _ h _ List.mem_cons_self rfl
      rw [ofList_concat, entries_set_of_not_mem e.2 fresh, kept]

end Attributes

end VoiceDialogue
