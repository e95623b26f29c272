/-
VoiceDialogue/Proofs/Turn/Valid.lean

What holds of every turn.

A turn is valid if it has a name and if its payload has nothing that a draft
would refuse (`Turn.Valid`).  The drafts see to that: if a draft passes its
checks, then what shows it is valid, and the other way round
(`Draft.passed_iff`).  Giving another name to a payload checks the name, and
appending adapters changes nothing but the end of their list.  So the turns
that a user can get hold of are valid, and since everything that is valid can
also be set (`settings`), they are all the valid turns there are
(`Turn.reachable_iff_valid`).
-/
import VoiceDialogue.Proofs.Compile.CompilerAdapters
import VoiceDialogue.Proofs.Turn.Drafts
import VoiceDialogue.Proofs.Turn.Reachable

namespace VoiceDialogue

variable {σ : Type}

/-! ### Valid values -/

/-- There is an attempt, if attempts are counted at all, and none of them may
take longer than the whole fetch. -/
structure FetchPolicy.Valid (f : FetchPolicy) : Prop where
  attempts : ∀ n ∈ f.attempts, 1 ≤ n
  attemptTimeout : ∀ attempt ∈ f.attemptTimeout, ∀ total ∈ f.timeout, attempt ≤ total

/-- A parameter has a name and either a value or an expression, which must not
be empty. -/
structure Parameter.Valid (q : Parameter) : Prop where
  name : q.name ≠ ""
  payload : (∃ text, q.value? = some text ∧ q.expression? = none) ∨
    ∃ code, q.value? = none ∧ q.expression? = some code ∧ code ≠ ""
  mediaType : q.mediaType ≠ some ""

/-- A message plays something. -/
structure Message.Valid (m : Message) : Prop where
  items : m.items ≠ []
  language : m.language ≠ some ""

/-- No text of an object call is empty, and its parameters and its fetch policy
are valid. -/
structure ObjectCall.Valid (c : ObjectCall) : Prop where
  archives : "" ∉ c.archives
  classId : c.classId ≠ some ""
  codeBase : c.codeBase ≠ some ""
  codeType : c.codeType ≠ some ""
  data : c.data ≠ some ""
  mediaType : c.mediaType ≠ some ""
  script : c.script ≠ some ""
  parameters : ∀ q ∈ c.parameters, q.Valid
  fetch : ∀ f ∈ c.fetch, f.Valid

/-- A transfer goes somewhere, and has only the times that its style has. -/
structure Transfer.Valid (t : Transfer) : Prop where
  destination : t.destination ≠ ""
  connectTimeout : t.connectTimeout.isSome → t.style = .bridge ∨ t.style = .consultation
  maxTime : t.maxTime.isSome → t.style = .bridge
  aai : t.aai ≠ some ""
  transferAudio : t.transferAudio ≠ some ""

/-- A payload of any kind. -/
def Payload.Valid : Payload → Prop
  | .message m => m.Valid
  | .objectCall c => c.Valid
  | .transfer t => t.Valid

/-- A valid turn has a name and a valid payload. -/
structure Turn.Valid (t : Turn σ) : Prop where
  name : t.name ≠ ""
  payload : t.payload.Valid

/-! ### What passes the checks -/

namespace FetchPolicy.Draft

theorem overrun?_eq_none_iff (d : Draft) : d.overrun? = none ↔
    ∀ attempt ∈ d.policy.attemptTimeout, ∀ total ∈ d.policy.timeout, attempt ≤ total := by
  rw [overrun?]
  cases d.policy.attemptTimeout with
  | none => simp
  | some attempt =>
    cases d.policy.timeout with
    | none => simp
    | some total =>
      have order : ¬ total < attempt ↔ attempt ≤ total := UInt64.not_lt
      simp [refuse_eq_none_iff, order]

theorem passed_iff {d : Draft} {f : FetchPolicy} (shown : d.Shows f) :
    (∀ c ∈ d.checks, c = none) ↔ f.Valid := by
  obtain rfl : f = d.policy := shown
  have attempts : ¬ d.policy.attempts = some 0 ↔ ∀ n ∈ d.policy.attempts, 1 ≤ n := by
    cases d.policy.attempts with
    | none => simp
    | some n =>
      have positive : ¬ n = 0 ↔ 1 ≤ n := by
        rw [UInt32.le_iff_toNat_le, ← UInt32.toNat_inj]
        exact Nat.one_le_iff_ne_zero.symm
      simp [positive]
  simp only [checks, List.forall_mem_cons, refuse_eq_none_iff, overrun?_eq_none_iff, attempts]
  constructor
  · rintro ⟨some, short, -⟩
    exact ⟨some, short⟩
  · intro h
    exact ⟨h.attempts, h.attemptTimeout, nofun⟩

end FetchPolicy.Draft

theorem Parameter.Draft.passed_iff {d : Draft} {q : Parameter} (shown : d.Shows q) :
    (∀ c ∈ d.checks, c = none) ↔ q.Valid := by
  obtain ⟨name, value, expression, -, mediaType⟩ := shown
  simp only [checks, List.forall_mem_cons, refuse_eq_none_iff, ← name, ← value, ← expression,
    ← mediaType]
  constructor
  · rintro ⟨named, both, neither, code, type, -⟩
    refine ⟨named, ?_, type⟩
    cases h : q.payload with
    | value text => exact .inl ⟨text, by simp [value?, h], by simp [expression?, h]⟩
    | expression code' =>
      refine .inr ⟨code', by simp [value?, h], by simp [expression?, h], ?_⟩
      rintro rfl
      exact code (by simp [expression?, h])
  · intro h
    refine ⟨h.name, ?_, ?_, ?_, h.mediaType, List.forall_mem_nil _⟩
    all_goals
      obtain ⟨text, value, expression⟩ | ⟨code, value, expression, given⟩ := h.payload
      · simp [value, expression]
      · simp [value, expression, given]

theorem Message.Draft.passed_iff {d : Draft} {t : Turn σ} (shown : d.Shows t) :
    (∀ c ∈ d.checks, c = none) ↔ t.Valid := by
  obtain rfl : t = _ := shown
  simp only [checks, List.forall_mem_cons, refuse_eq_none_iff]
  constructor
  · rintro ⟨items, language, name, -⟩
    exact ⟨name, ⟨items, language⟩⟩
  · rintro ⟨name, ⟨items, language⟩⟩
    exact ⟨items, language, name, nofun⟩

/-- Parameters and fetch policies are not checked again. -/
theorem ObjectCall.Draft.passed_iff {d : Draft} {t : Turn σ} (shown : d.Shows t)
    (parameters : ∀ q ∈ d.call.parameters, q.Valid) (fetch : ∀ f ∈ d.call.fetch, f.Valid) :
    (∀ c ∈ d.checks, c = none) ↔ t.Valid := by
  obtain rfl : t = _ := shown
  simp only [checks, List.forall_mem_cons, refuse_eq_none_iff]
  constructor
  · rintro ⟨archives, classId, codeBase, codeType, data, mediaType, script, name, -⟩
    refine ⟨name, ?_⟩
    exact ⟨archives, classId, codeBase, codeType, data, mediaType, script, parameters, fetch⟩
  · rintro ⟨name, ⟨archives, classId, codeBase, codeType, data, mediaType, script, -, -⟩⟩
    exact ⟨archives, classId, codeBase, codeType, data, mediaType, script, name, nofun⟩

theorem Transfer.Draft.passed_iff {d : Draft} {t : Turn σ} (shown : d.Shows t) :
    (∀ c ∈ d.checks, c = none) ↔ t.Valid := by
  obtain ⟨location, given, rfl⟩ := shown
  have supervised : ¬ (d.connectTimeout.isSome ∧ d.style = .blind) ↔
      (d.connectTimeout.isSome → d.style = .bridge ∨ d.style = .consultation) := by
    cases d.style <;> simp
  have bridged : ¬ (d.maxTime.isSome ∧ d.style ≠ .bridge) ↔
      (d.maxTime.isSome → d.style = .bridge) := by
    rw [not_and, not_not]
  simp only [checks, List.forall_mem_cons, refuse_eq_none_iff, supervised, bridged, given]
  constructor
  · rintro ⟨-, destination, connectTimeout, maxTime, aai, transferAudio, name, -⟩
    refine ⟨name, ⟨?_, connectTimeout, maxTime, aai, transferAudio⟩⟩
    rintro rfl
    exact destination rfl
  · rintro ⟨name, ⟨destination, connectTimeout, maxTime, aai, transferAudio⟩⟩
    refine ⟨nofun, ?_, connectTimeout, maxTime, aai, transferAudio, name, nofun⟩
    intro empty
    exact destination (Option.some.inj empty)

/-! ### Settings of valid values -/

namespace FetchPolicy

/-- Settings that say all that is in a policy. -/
def settings (f : FetchPolicy) : List Setting :=
  f.hint.toList.map .hint ++ f.timeout.toList.map .timeout ++ f.maxAge.toList.map .maxAge ++
    f.maxStale.toList.map .maxStale ++ f.attempts.toList.map .attempts ++
    f.attemptTimeout.toList.map .attemptTimeout

theorem shows_settings (f : FetchPolicy) : (Draft.given f.settings).Shows f := by
  simp [Draft.Shows, Draft.given, settings]

/-- The policies that come from drafts are the valid ones. -/
theorem reachable_iff_valid (f : FetchPolicy) : f.Reachable ↔ f.Valid := by
  constructor
  · rintro ⟨ss, built⟩
    obtain ⟨passed, shown⟩ := (exactBuild.eq_ok_iff ss f).1 built
    exact (Draft.passed_iff shown).1 passed
  · intro valid
    have shown := f.shows_settings
    exact ⟨f.settings, (exactBuild.eq_ok_iff _ f).2 ⟨(Draft.passed_iff shown).2 valid, shown⟩⟩

end FetchPolicy

namespace Parameter

/-- Settings that say all that is in a parameter. -/
def settings (q : Parameter) : List Setting :=
  q.value?.toList.map .value ++ q.expression?.toList.map .expression ++
    q.valueType.toList.map .valueType ++ q.mediaType.toList.map .mediaType

theorem shows_settings (q : Parameter) : (Draft.given q.name q.settings).Shows q := by
  simp [Draft.Shows, Draft.given, settings]

/-- The parameters that come from drafts are the valid ones. -/
theorem reachable_iff_valid (q : Parameter) : q.Reachable ↔ q.Valid := by
  constructor
  · rintro ⟨name, ss, built⟩
    obtain ⟨passed, shown⟩ := ((exactBuild name).eq_ok_iff ss q).1 built
    exact (Draft.passed_iff shown).1 passed
  · intro valid
    have shown := q.shows_settings
    exact ⟨q.name, q.settings,
      ((exactBuild q.name).eq_ok_iff _ q).2 ⟨(Draft.passed_iff shown).2 valid, shown⟩⟩

end Parameter

namespace Message

/-- Settings that say all that is in a message. -/
def settings (m : Message) : List Setting :=
  m.items.map .item ++ m.language.toList.map .language ++ [.bargeIn m.bargeIn]

theorem shows_settings (name : String) (m : Message) :
    (Draft.given name m.settings).Shows (⟨name, .message m, []⟩ : Turn σ) := by
  simp [Draft.Shows, Draft.given, settings, List.flatMap_map]

end Message

namespace ObjectCall

/-- Settings that say all that is in an object call. -/
def settings (c : ObjectCall) : List Setting :=
  c.classId.toList.map .classId ++ c.codeBase.toList.map .codeBase ++
    c.codeType.toList.map .codeType ++ c.data.toList.map .data ++
    c.mediaType.toList.map .mediaType ++ c.archives.map .archive ++ c.fetch.toList.map .fetch ++
    c.parameters.map .parameter ++ c.script.toList.map .script

theorem shows_settings (name : String) (c : ObjectCall) :
    (Draft.given name c.settings).Shows (⟨name, .objectCall c, []⟩ : Turn σ) := by
  simp [Draft.Shows, Draft.given, settings, List.flatMap_map]

theorem Valid.reachable_settings {c : ObjectCall} (h : c.Valid) :
    ∀ s ∈ c.settings, s.Reachable := by
  have fetch : ∀ f ∈ c.fetch, f.Reachable := fun f hf => f.reachable_iff_valid.2 (h.fetch f hf)
  have parameters : ∀ q ∈ c.parameters, q.Reachable :=
    fun q hq => q.reachable_iff_valid.2 (h.parameters q hq)
  intro s hs
  cases s with
  | fetch f => exact fetch f (by simpa [settings] using hs)
  | parameter q => exact parameters q (by simpa [settings] using hs)
  | parameters qs => simp [settings] at hs
  | _ => trivial

/-- The parameters and the fetch policy of a draft are those of its settings. -/
theorem Draft.valid_given (name : String) {ss : List Setting} (h : ∀ s ∈ ss, s.Reachable) :
    (∀ q ∈ (given name ss).call.parameters, q.Valid) ∧
      ∀ f ∈ (given name ss).call.fetch, f.Valid := by
  constructor
  · intro q hq
    obtain ⟨s, hs, gives⟩ := List.mem_flatMap.1 hq
    have reachable := h s hs
    rw [← q.reachable_iff_valid]
    cases s with
    | parameter q' =>
      obtain rfl := List.mem_singleton.1 gives
      exact reachable
    | parameters qs => exact reachable q gives
    | _ => cases gives
  · intro f hf
    obtain ⟨s, hs, gives⟩ := exists_of_mem_lastGiven? hf
    have reachable := h s hs
    rw [← f.reachable_iff_valid]
    cases s with
    | fetch f' =>
      obtain rfl := Option.some.inj gives
      exact reachable
    | _ => cases gives

end ObjectCall

namespace Transfer

/-- Settings that say all that is in a transfer, apart from its style. -/
def settings (t : Transfer) : List Setting :=
  t.aai.toList.map .aai ++ t.transferAudio.toList.map .transferAudio ++ t.items.map .item ++
    t.connectTimeout.toList.map .connectTimeout ++ t.maxTime.toList.map .maxTime ++
    [.destination t.destination]

theorem shows_settings (name : String) (t : Transfer) :
    (Draft.given name t.style t.settings).Shows (⟨name, .transfer t, []⟩ : Turn σ) := by
  simp [Draft.Shows, Draft.given, settings, List.flatMap_map]

end Transfer

/-! ### Turns -/

namespace Turn

/-- Everything that a user can do leads to a valid turn. -/
theorem Reachable.valid {t : Turn σ} (h : t.Reachable) : t.Valid := by
  induction h with
  | @message name ss t built =>
    obtain ⟨passed, shown⟩ := ((Message.exactBuild name).eq_ok_iff ss t).1 built
    exact (Message.Draft.passed_iff shown).1 passed
  | @objectCall name ss t settings built =>
    obtain ⟨passed, shown⟩ := ((ObjectCall.exactBuild name).eq_ok_iff ss t).1 built
    obtain ⟨parameters, fetch⟩ := ObjectCall.Draft.valid_given name settings
    exact (ObjectCall.Draft.passed_iff shown parameters fetch).1 passed
  | @transfer name style ss t built =>
    obtain ⟨passed, shown⟩ := ((Transfer.exactBuild name style).eq_ok_iff ss t).1 built
    exact (Transfer.Draft.passed_iff shown).1 passed
  | renamed _ named ih =>
    obtain ⟨given, rfl⟩ := Turn.new_eq_ok_iff.1 named
    exact ⟨given, ih.payload⟩
  | adapted h _ ih => exact ⟨ih.name, ih.payload⟩

theorem Reachable.addAdapters {t : Turn σ} (h : t.Reachable) (hs : List (Handle σ)) :
    (t.addAdapters hs).Reachable := by
  induction hs generalizing t with
  | nil => exact h
  | cons a hs ih => exact ih (h.adapted a)

/-- The turns that a user can get hold of are the valid ones. -/
theorem reachable_iff_valid (t : Turn σ) : t.Reachable ↔ t.Valid := by
  constructor
  · exact Reachable.valid
  · intro valid
    -- the turn is built without its adapters, and then they are appended
    have bare : (⟨t.name, t.payload, []⟩ : Turn σ).Reachable := by
      have valid' : (⟨t.name, t.payload, []⟩ : Turn σ).Valid := ⟨valid.name, valid.payload⟩
      cases payload : t.payload with
      | message m =>
        rw [payload] at valid'
        have shown := m.shows_settings (σ := σ) t.name
        exact .message (((Message.exactBuild t.name).eq_ok_iff _ _).2
          ⟨(Message.Draft.passed_iff shown).2 valid', shown⟩)
      | objectCall c =>
        rw [payload] at valid'
        have call : c.Valid := valid'.payload
        have shown := c.shows_settings (σ := σ) t.name
        have settings := call.reachable_settings
        obtain ⟨parameters, fetch⟩ := ObjectCall.Draft.valid_given t.name settings
        exact .objectCall settings (((ObjectCall.exactBuild t.name).eq_ok_iff _ _).2
          ⟨(ObjectCall.Draft.passed_iff shown parameters fetch).2 valid', shown⟩)
      | transfer u =>
        rw [payload] at valid'
        have shown := u.shows_settings (σ := σ) t.name
        exact .transfer (((Transfer.exactBuild t.name u.style).eq_ok_iff _ _).2
          ⟨(Transfer.Draft.passed_iff shown).2 valid', shown⟩)
    have appended := bare.addAdapters t.adapters
    rw [addAdapters_eq] at appended
    exact appended

end Turn

end VoiceDialogue
