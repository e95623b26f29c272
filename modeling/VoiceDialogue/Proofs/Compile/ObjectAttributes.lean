/-
VoiceDialogue/Proofs/Compile/ObjectAttributes.lean

The attributes of an object, and when they keep apart.

An object shows every field of its call under a name of its own, in a fixed
order (`ObjectCall.entries`), and then what the platform has names for.  All
of this is set one after another, and a name that is set again has its value
replaced where it stands.  The fixed names are distinct, but the declared ones
need not be: nothing keeps a platform from declaring the name of a field, or
the same name for both settings of the attempts.

So each attribute carries its own field exactly if the declared names are apart
from each other and from the fixed ones (`object_attributes_iff`).
-/
import VoiceDialogue.Proofs.Compile.Outcome
import VoiceDialogue.Proofs.Markup.Settings
import VoiceDialogue.Proofs.Render.Elements

namespace VoiceDialogue

variable {σ : Type}

/-! ### Fields -/

/-- The pair of a name and a value, if there is a value. -/
def field? (name : String) (value : Option String) : List (String × String) :=
  (value.map (name, ·)).toList

/-- The fields of a fetch policy that have fixed names: timeouts as time
designations, and ages in whole seconds, rounded up. -/
def FetchPolicy.entries (f : FetchPolicy) : List (String × String) :=
  field? "fetchhint" (f.hint.map FetchHint.name) ++
    (field? "fetchtimeout" (f.timeout.map fun d => d.millis.toNat.repr ++ "ms") ++
      (field? "maxage" (f.maxAge.map fun d => ((d.millis.toNat + 999) / 1000).repr) ++
        field? "maxstale" (f.maxStale.map fun d => ((d.millis.toNat + 999) / 1000).repr)))

/-- The fields of an object call that have fixed names. -/
def ObjectCall.entries (c : ObjectCall) : List (String × String) :=
  [("name", "object")] ++
    ((if c.archives = [] then [] else [("archive", String.intercalate " " c.archives)]) ++
      (field? "classid" c.classId ++ (field? "codebase" c.codeBase ++
        (field? "codetype" c.codeType ++ (field? "data" c.data ++ (field? "type" c.mediaType ++
          c.fetch.toList.flatMap FetchPolicy.entries))))))

/-- The names of these fields. -/
def fieldNames : List String :=
  ["name", "archive", "classid", "codebase", "codetype", "data", "type", "fetchhint",
    "fetchtimeout", "maxage", "maxstale"]

theorem namesOf_field? (name : String) (value : Option String) :
    (namesOf (field? name value)).Sublist [name] := by
  cases value with
  | none => exact List.nil_sublist _
  | some v => exact List.Sublist.refl _

theorem FetchPolicy.namesOf_entries (f : FetchPolicy) :
    (namesOf f.entries).Sublist ["fetchhint", "fetchtimeout", "maxage", "maxstale"] := by
  simp only [entries, namesOf, List.map_append]
  exact (namesOf_field? _ _).append ((namesOf_field? _ _).append
    ((namesOf_field? _ _).append (namesOf_field? _ _)))

theorem ObjectCall.namesOf_entries (c : ObjectCall) :
    (namesOf c.entries).Sublist fieldNames := by
  have archive : (namesOf (if c.archives = [] then []
      else [("archive", String.intercalate " " c.archives)])).Sublist ["archive"] := by
    split
    · exact List.nil_sublist _
    · exact List.Sublist.refl _
  have fetch : (namesOf (c.fetch.toList.flatMap FetchPolicy.entries)).Sublist
      ["fetchhint", "fetchtimeout", "maxage", "maxstale"] := by
    cases c.fetch with
    | none => exact List.nil_sublist _
    | some f =>
      rw [Option.toList_some, List.flatMap_singleton]
      exact f.namesOf_entries
  have texts := (namesOf_field? "classid" c.classId).append
    ((namesOf_field? "codebase" c.codeBase).append ((namesOf_field? "codetype" c.codeType).append
      ((namesOf_field? "data" c.data).append ((namesOf_field? "type" c.mediaType).append fetch))))
  have all := (List.Sublist.refl ["name"]).append (archive.append texts)
  simp only [namesOf, ← List.map_append] at all
  exact all

/-- No two fields have the same name. -/
theorem ObjectCall.nodup_entries (c : ObjectCall) : (namesOf c.entries).Nodup :=
  List.Nodup.sublist c.namesOf_entries (by decide)

namespace Render

/-- Fields are set one after another. -/
theorem objectAttributes_eq (c : ObjectCall) : objectAttributes c = .ofList c.entries := by
  have archive : (if c.archives = [] then [] else [("archive", String.intercalate " " c.archives)])
      = field? "archive" (if c.archives.isEmpty then none
        else some (String.intercalate " " c.archives)) := by
    cases c.archives with
    | nil => rfl
    | cons a as => rfl
  have start (settings : List (String × String)) :
      Attributes.ofList settings = Attributes.empty.setAll settings := rfl
  rw [objectAttributes, ObjectCall.entries, archive, start]
  cases c.fetch with
  | none =>
    simp only [Attributes.setAll_append, field?, Attributes.setAll_toList]
    rfl
  | some f =>
    rw [Option.toList_some, List.flatMap_singleton, FetchPolicy.entries]
    simp only [Attributes.setAll_append, field?, Attributes.setAll_toList, Option.bind_some,
      Duration.toNat_wholeSecs]
    rfl

theorem attributes_objectTag (p : Platform) (c : ObjectCall) :
    (objectTag p c).attributes = .ofList (c.entries ++ attemptEntries p c) := by
  rw [objectTag_eq, objectAttributes_eq]
  exact (Attributes.setAll_append .empty c.entries (attemptEntries p c)).symm

/-- The only object of a document, with all its settings. -/
theorem findAll_object {p : Platform} {c : ObjectCall} {d : Document}
    (h : document p (.objectCall c) = .ok d) :
    ∃ e, d.root.findAll "object" = [e] ∧
      e.attributes = .ofList (c.entries ++ attemptEntries p c) := by
  obtain ⟨e, rendered, object, -⟩ := elements_objectCall h
  refine ⟨e, object, ?_⟩
  rw [objectItem_eq rendered]
  exact attributes_objectTag p c

end Render

/-! ### What an object shows -/

/-- The names on an object are those of its fields and the declared ones, in
that order, and each of them has the value that was set last.  The attributes
are the fields followed by what the platform has names for, and nothing else,
exactly if the declared names are apart from each other and from those of the
fields. -/
theorem object_attributes_iff (p : Platform) (t : Turn σ) (s : σ) (d : Document) (c : ObjectCall)
    (kind : t.payload = .objectCall c) (own : t.adapters = [])
    (h : (compile p t s).result = .ok d) :
    ∃ e, d.root.findAll "object" = [e] ∧
      e.attributes.names = (namesOf (c.entries ++ Render.attemptEntries p c)).eraseDups ∧
      (∀ n, e.attribute? n = lastValue? (c.entries ++ Render.attemptEntries p c) n) ∧
      (e.attributes.entries = c.entries ++ Render.attemptEntries p c ↔
        (namesOf (Render.attemptEntries p c)).Nodup ∧
          ∀ n ∈ namesOf (Render.attemptEntries p c), n ∉ namesOf c.entries) := by
  obtain ⟨rendered, -⟩ := (result_compile_eq_ok_iff p s d own).1 h
  rw [kind] at rendered
  obtain ⟨e, object, attributes⟩ := Render.findAll_object rendered
  refine ⟨e, object, ?_, ?_, ?_⟩
  · rw [attributes, Attributes.names_ofList]
  · intro n
    rw [Element.attribute?, attributes, Attributes.get?_ofList]
  · rw [attributes, Attributes.entries_ofList_iff, namesOf, List.map_append, List.nodup_append]
    constructor
    · rintro ⟨-, distinct, apart⟩
      exact ⟨distinct, fun n declared fixed => apart n fixed n declared rfl⟩
    · rintro ⟨distinct, apart⟩
      refine ⟨c.nodup_entries, distinct, ?_⟩
      rintro n fixed m declared rfl
      exact apart n declared fixed

/-! ### A name that is taken -/

/-- An object call that says where its object is, how often it is fetched, and
how long that may take. -/
def located : Turn Unit :=
  ⟨"lookup", .objectCall
    { classId := some "app://lookup",
      fetch := some { attempts := some 3, attemptTimeout := some ⟨2000⟩ } }, []⟩

/-- Conventions with names for both settings of attempts. -/
def attemptsNamed (attempts timeout : String) : Conventions :=
  { fetchAttemptsAttribute := some attempts, fetchAttemptTimeoutAttribute := some timeout }

/-- Where the declared names are new, every field is shown under its name. -/
theorem apart_located :
    Turn.objectCallOf "lookup" [.classId "app://lookup",
        .fetch { attempts := some 3, attemptTimeout := some ⟨2000⟩ }] = .ok located ∧
      ∃ (c : SettledConventions) (d : Document) (e : Element),
        c.names = attemptsNamed "x-attempts" "x-timeout" ∧
        (compile c.platform located ()).result = .ok d ∧ d.root.findAll "object" = [e] ∧
        e.attributes.entries = [("name", "object"), ("classid", "app://lookup"),
          ("x-attempts", "3"), ("x-timeout", "2000ms")] := by
  refine ⟨rfl, ⟨attemptsNamed "x-attempts" "x-timeout", rfl⟩, ?_⟩
  obtain ⟨d, h⟩ : ∃ d, (compile (.ofConventions (attemptsNamed "x-attempts" "x-timeout")) located
      ()).result = .ok d := ⟨_, rfl⟩
  obtain ⟨e, object, -, -, kept⟩ := object_attributes_iff _ located () d _ rfl rfl h
  exact ⟨d, e, rfl, h, object, kept.2 (by decide)⟩

/-- Where attempts are declared under the name of the class, the class is not
shown: its attribute has the number of attempts. -/
theorem replaced_located :
    Turn.objectCallOf "lookup" [.classId "app://lookup",
        .fetch { attempts := some 3, attemptTimeout := some ⟨2000⟩ }] = .ok located ∧
      ∃ (c : SettledConventions) (d : Document) (e : Element),
        c.names = attemptsNamed "classid" "x-timeout" ∧
        (compile c.platform located ()).result = .ok d ∧ d.root.findAll "object" = [e] ∧
        e.attributes.entries = [("name", "object"), ("classid", "3"), ("x-timeout", "2000ms")] ∧
        e.attribute? "classid" ≠ some "app://lookup" := by
  refine ⟨rfl, ⟨attemptsNamed "classid" "x-timeout", rfl⟩, ?_⟩
  obtain ⟨d, rendered, fine⟩ : ∃ d, Render.document
      (.ofConventions (attemptsNamed "classid" "x-timeout")) located.payload = .ok d ∧
        d.firstInvalid? = none := ⟨_, rfl, by decide +kernel⟩
  obtain ⟨e, object, attributes⟩ := Render.findAll_object rendered
  refine ⟨d, e, rfl, (result_compile_eq_ok_iff _ () d rfl).2 ⟨rendered, fine⟩, object, ?_, ?_⟩
  · rw [attributes]
    decide
  · rw [Element.attribute?, attributes]
    decide

end VoiceDialogue
