/-
VoiceDialogue/Markup/Attributes.lean

The attributes of an element: a finite map from names to values that keeps
the order in which names were first set.

Setting a name that is present replaces its value where it stands; setting a
new one appends it.  No name occurs twice, and the type says so, so nothing
that writes or reads attributes has to worry about duplicates.
-/

namespace VoiceDialogue

/-- The names of name-value pairs, in their order. -/
abbrev namesOf (entries : List (String × String)) : List String := entries.map Prod.fst

/-- Attributes in the order of their first setting; names are distinct. -/
structure Attributes where
  entries : List (String × String)
  nodup : (namesOf entries).Nodup
deriving DecidableEq

namespace Attributes

/-! ### Pairs -/

/-- Replaces the value of a name where it stands, or appends the pair. -/
def setEntry (name value : String) : List (String × String) → List (String × String)
  | [] => [(name, value)]
  | (n, v) :: rest =>
      if n = name then (n, value) :: rest else (n, v) :: setEntry name value rest

/-- Setting keeps the order of the names, and appends a new one. -/
theorem namesOf_setEntry (name value : String) (entries : List (String × String)) :
    namesOf (setEntry name value entries) =
      if name ∈ namesOf entries then namesOf entries else namesOf entries ++ [name] := by
  induction entries with
  | nil => simp [setEntry]
  | cons e rest ih =>
    obtain ⟨n, v⟩ := e
    by_cases h : n = name
    · simp [setEntry, h]
    · have h' : ¬ name = n := fun e => h e.symm
      simp only [namesOf] at ih
      by_cases m : name ∈ rest.map Prod.fst <;> simp_all [setEntry]

theorem nodup_setEntry (name value : String) {entries : List (String × String)}
    (h : (namesOf entries).Nodup) : (namesOf (setEntry name value entries)).Nodup := by
  rw [namesOf_setEntry]
  split
  · exact h
  · next m =>
    refine List.nodup_append.2 ⟨h, by simp, fun a ha b hb => ?_⟩
    rw [List.mem_singleton.1 hb]
    exact fun e => m (e ▸ ha)

theorem nodup_filter (p : String × String → Bool) {entries : List (String × String)}
    (h : (namesOf entries).Nodup) : (namesOf (entries.filter p)).Nodup :=
  h.sublist (List.filter_sublist.map Prod.fst)

/-! ### Operations -/

/-- No attributes. -/
def empty : Attributes := ⟨[], by simp⟩

instance : Inhabited Attributes := ⟨empty⟩

/-- The value of a name, if it is present. -/
def get? (a : Attributes) (name : String) : Option String :=
  (a.entries.find? (·.1 = name)).map Prod.snd

/-- The names, in the order of their first setting. -/
def names (a : Attributes) : List String := namesOf a.entries

/-- Gives a name a value. -/
def set (a : Attributes) (name value : String) : Attributes :=
  ⟨setEntry name value a.entries, nodup_setEntry name value a.nodup⟩

/-- Gives a name a value, if there is one. -/
def set? (a : Attributes) (name : String) : Option String → Attributes
  | none => a
  | some value => a.set name value

/-- Takes a name away. -/
def erase (a : Attributes) (name : String) : Attributes :=
  ⟨a.entries.filter (·.1 ≠ name), nodup_filter _ a.nodup⟩

/-- Takes a name away where it stands, and gives the value that it had. -/
def remove (a : Attributes) (name : String) : Option String × Attributes :=
  match a.entries.findIdx? (·.1 = name) with
  | none => (none, a)
  | some i =>
      (a.entries[i]?.map Prod.snd,
        ⟨a.entries.eraseIdx i, a.nodup.sublist ((List.eraseIdx_sublist a.entries i).map Prod.fst)⟩)

/-! ### What the operations do to the map -/

/-- Setting a name that is present keeps the names and their order. -/
theorem names_set (a : Attributes) (name value : String) :
    (a.set name value).names = if name ∈ a.names then a.names else a.names ++ [name] :=
  namesOf_setEntry name value a.entries

/-- After a setting the name has the new value and no other name is touched. -/
theorem get?_set (a : Attributes) (name value n : String) :
    (a.set name value).get? n = if n = name then some value else a.get? n := by
  obtain ⟨entries, _⟩ := a
  simp only [get?, set]
  induction entries with
  | nil => by_cases h : n = name <;> simp_all [setEntry, eq_comm]
  | cons e rest ih =>
    obtain ⟨m, v⟩ := e
    have ih := ih (by simp_all [namesOf])
    by_cases hm : m = name <;> by_cases hn : n = name <;> by_cases he : m = n <;>
      simp_all [setEntry]

/-- Erasing takes one name away and no other. -/
theorem get?_erase (a : Attributes) (name n : String) :
    (a.erase name).get? n = if n = name then none else a.get? n := by
  obtain ⟨entries, _⟩ := a
  simp only [get?, erase]
  induction entries with
  | nil => simp
  | cons e rest ih =>
    obtain ⟨m, v⟩ := e
    have ih := ih (by simp_all [namesOf])
    by_cases hm : m = name <;> by_cases hn : n = name <;> by_cases he : m = n <;>
      simp_all

/-- The first pair of a name is the only one. -/
theorem eraseP_eq_filter (name : String) {entries : List (String × String)}
    (h : (namesOf entries).Nodup) :
    entries.eraseP (·.1 = name) = entries.filter (·.1 ≠ name) := by
  induction entries with
  | nil => rfl
  | cons e rest ih =>
    obtain ⟨fresh, h⟩ := List.nodup_cons.1 h
    by_cases he : e.1 = name
    · have others : ∀ x ∈ rest, x.1 ≠ name := fun x hx same =>
        fresh (he.trans same.symm ▸ List.mem_map_of_mem hx)
      rw [List.eraseP_cons_of_pos (by simpa using he), List.filter_cons_of_neg (by simpa using he)]
      exact (List.filter_eq_self.2 fun x hx => by simpa using others x hx).symm
    · rw [List.eraseP_cons_of_neg (by simpa using he), List.filter_cons_of_pos (by simpa using he),
        ih h]

/-- Removing gives the value of the name and erases it. -/
theorem remove_eq (a : Attributes) (name : String) :
    a.remove name = (a.get? name, a.erase name) := by
  obtain ⟨entries, nodup⟩ := a
  have erased := eraseP_eq_filter name nodup
  rw [List.eraseP_eq_eraseIdx] at erased
  simp only [remove, get?, erase, List.find?_eq_getElem?_findIdx]
  cases place : entries.findIdx? (·.1 = name) with
  | none =>
    have absent := List.findIdx?_eq_none_iff_findIdx_eq.1 place
    exact Prod.ext (by simp [absent]) (by simpa [place] using erased)
  | some i =>
    obtain ⟨-, found⟩ := List.findIdx?_eq_some_iff_findIdx_eq.1 place
    exact Prod.ext (by simp [found]) (by simpa [place] using erased)

/-! ### Lists of settings -/

/-- Sets pairs one after the other. -/
def ofList (entries : List (String × String)) : Attributes :=
  entries.foldl (fun a e => a.set e.1 e.2) empty

end Attributes

end VoiceDialogue
