/-
VoiceDialogue/Proofs/Render/ObjectTag.lean

The attributes of an object.

Most of them have fixed names and come from the object call alone
(`objectAttributes`).  Those that carry fetch attempts come last, under names
that the platform declares, and each is there only if its name is declared and
its setting is made (`attemptEntries`).  Nothing keeps such a name apart from
the fixed ones: where they meet, the attempts replace the value that was there.
-/
import VoiceDialogue.Proofs.Markup.Everywhere
import VoiceDialogue.Render.Item

namespace VoiceDialogue

/-! ### Settings in a row -/

namespace Attributes

/-- Sets pairs one after the other. -/
def setAll (a : Attributes) (entries : List (String × String)) : Attributes :=
  entries.foldl (fun a e => a.set e.1 e.2) a

theorem setAll_append (a : Attributes) (xs ys : List (String × String)) :
    a.setAll (xs ++ ys) = (a.setAll xs).setAll ys :=
  List.foldl_append

theorem setAll_toList (a : Attributes) (name : String) (value : Option String) :
    a.setAll (value.map (name, ·)).toList = a.set? name value := by
  cases value with
  | none => rfl
  | some v => rfl

end Attributes

namespace Render

/-! ### Fixed names -/

/-- The attributes of an object that have fixed names. -/
def objectAttributes (c : ObjectCall) : Attributes :=
  let a := (Attributes.empty.set "name" "object").set? "archive"
    (if c.archives.isEmpty then none else some (String.intercalate " " c.archives))
  let a := ((a.set? "classid" c.classId).set? "codebase" c.codeBase).set? "codetype" c.codeType
  let a := (a.set? "data" c.data).set? "type" c.mediaType
  let a := a.set? "fetchhint" (c.fetch.bind fun f => f.hint.map FetchHint.name)
  let a := a.set? "fetchtimeout" (c.fetch.bind fun f => f.timeout.map Duration.designation)
  let a := a.set? "maxage" (c.fetch.bind fun f => f.maxAge.map fun d => d.wholeSecs.toNat.repr)
  a.set? "maxstale" (c.fetch.bind fun f => f.maxStale.map fun d => d.wholeSecs.toNat.repr)

/-! ### Declared names -/

/-- A pair, if both its name and its value are there. -/
def declared? (name value : Option String) : Option (String × String) :=
  name.bind fun n => value.map (n, ·)

/-- The attributes of a fetch policy whose names the platform declares. -/
def policyEntries (p : Platform) (f : FetchPolicy) : List (String × String) :=
  (declared? p.fetchAttemptsAttribute (f.attempts.map fun n => n.toNat.repr)).toList ++
    (declared? p.fetchAttemptTimeoutAttribute (f.attemptTimeout.map Duration.designation)).toList

/-- The attributes of an object whose names the platform declares. -/
def attemptEntries (p : Platform) (c : ObjectCall) : List (String × String) :=
  c.fetch.toList.flatMap (policyEntries p)

theorem setAll_declared? (a : Attributes) (name value : Option String) :
    a.setAll (declared? name value).toList =
      match name with
      | none => a
      | some n => a.set? n value := by
  cases name with
  | none => rfl
  | some n => exact a.setAll_toList n value

/-- An object has attributes with fixed names first, and no children yet. -/
theorem objectTag_eq (p : Platform) (c : ObjectCall) :
    objectTag p c = ⟨"object", (objectAttributes c).setAll (attemptEntries p c), []⟩ := by
  rw [objectTag, objectAttributes, attemptEntries]
  -- the renderer sets an attribute or not where the lists have a pair or none
  cases c.fetch with
  | none => cases c.archives.isEmpty <;> rfl
  | some f =>
    simp only [setFetchAttributes, Option.toList_some, List.flatMap_singleton, policyEntries,
      Attributes.setAll_append, setAll_declared?]
    cases p.fetchAttemptsAttribute <;> cases p.fetchAttemptTimeoutAttribute <;>
      cases c.archives.isEmpty <;> rfl

/-! ### Values -/

/-- What holds of every word of a setting holds of what a fetch policy says. -/
theorem forall_mem_fetch_setting {α : Type} {P : String → Prop} {show? : FetchPolicy → Option α}
    {word : α → String} (h : ∀ a, P (word a)) (fetch : Option FetchPolicy) :
    ∀ v ∈ fetch.bind fun f => (show? f).map word, P v := by
  intro v hv
  obtain ⟨f, -, hv⟩ := Option.bind_eq_some_iff.1 hv
  obtain ⟨a, -, rfl⟩ := Option.map_eq_some_iff.1 hv
  exact h a

/-- The values of fetch attempts are counts and times. -/
theorem value_of_mem_attemptEntries {p : Platform} {c : ObjectCall} {e : String × String}
    (h : e ∈ attemptEntries p c) :
    (∃ n : Nat, e.2 = n.repr) ∨ ∃ d : Duration, e.2 = d.designation := by
  have entry {name value : Option String} (h : e ∈ (declared? name value).toList) :
      e.2 ∈ value := by
    rw [Option.mem_toList, declared?] at h
    obtain ⟨n, -, h⟩ := Option.bind_eq_some_iff.1 h
    obtain ⟨v, hv, rfl⟩ := Option.map_eq_some_iff.1 h
    exact hv
  rw [attemptEntries] at h
  obtain ⟨f, -, h⟩ := List.mem_flatMap.1 h
  rcases List.mem_append.1 h with h | h
  · obtain ⟨n, -, value⟩ := Option.map_eq_some_iff.1 (entry h)
    exact .inl ⟨n.toNat, value.symm⟩
  · obtain ⟨d, -, value⟩ := Option.map_eq_some_iff.1 (entry h)
    exact .inr ⟨d, value.symm⟩

end Render

end VoiceDialogue
