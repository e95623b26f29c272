/-
VoiceDialogue/Proofs/Turn/Checks.lean

What drafts check, and in which order.

A draft is built if it passes all of its checks, and the first check that it
does not pass is the error.  The checks of a draft are listed here as data
(`checks`), each with the error that it would raise, and what is built is told
by its fields (`Shows`).  `Built.DecidedBy` says that a build is decided by such
a list and in no other way.

There is a rule for one check (`decidedBy_nonEmpty`, `decidedBy_nonEmpty?`) and
one for checks in a row (`decidedBy_bind`, `decidedBy_ite`).  The lists of the
five kinds of drafts follow, in the order in which the drafts are built.
-/
import VoiceDialogue.Turn.Basic

namespace VoiceDialogue

variable {σ : Type}

/-! ### Checks in a row -/

/-- The error of a check that refuses something bad. -/
def refuse (bad : Prop) [Decidable bad] (e : ValidationError) : Option ValidationError :=
  if bad then some e else none

theorem refuse_eq_none_iff {bad : Prop} [Decidable bad] {e : ValidationError} :
    refuse bad e = none ↔ ¬ bad := by
  simp [refuse]

namespace Built

variable {α β : Type}

/-- Building is decided by checks: the error is that of the first one that is
not passed, and if all are passed, something with a property is built. -/
def DecidedBy (x : Built α) (checks : List (Option ValidationError)) (P : α → Prop) : Prop :=
  match checks.findSome? id with
  | some e => x = .error e
  | none => ∃ a, x = .ok a ∧ P a

variable {x : Built α} {checks : List (Option ValidationError)} {P : α → Prop}

theorem DecidedBy.eq_error_iff (h : x.DecidedBy checks P) {e : ValidationError} :
    x = .error e ↔ checks.findSome? id = some e := by
  rw [DecidedBy] at h
  split at h
  · next first => simp [h, first, eq_comm]
  · next passed =>
    obtain ⟨a, rfl, -⟩ := h
    simp [passed]

theorem DecidedBy.of_eq_ok (h : x.DecidedBy checks P) {a : α} (built : x = .ok a) :
    (∀ c ∈ checks, c = none) ∧ P a := by
  rw [DecidedBy] at h
  split at h
  · rw [h] at built
    cases built
  · next passed =>
    obtain ⟨b, rfl, holds⟩ := h
    obtain rfl := Except.ok.inj built
    exact ⟨List.findSome?_eq_none_iff.1 passed, holds⟩

theorem DecidedBy.exists_ok (h : x.DecidedBy checks P) (passed : ∀ c ∈ checks, c = none) :
    ∃ a, x = .ok a ∧ P a := by
  have none : checks.findSome? id = none := List.findSome?_eq_none_iff.2 passed
  rw [DecidedBy, none] at h
  exact h

theorem decidedBy_pure {a : α} (holds : P a) : DecidedBy (.ok a) [] P := ⟨a, rfl, holds⟩

/-- Nothing to check any more, and something that follows. -/
theorem DecidedBy.imp {Q : α → Prop} (h : x.DecidedBy checks P) (weaker : ∀ a, P a → Q a) :
    x.DecidedBy checks Q := by
  rw [DecidedBy] at h ⊢
  split at h
  · exact h
  · obtain ⟨a, built, holds⟩ := h
    exact ⟨a, built, weaker a holds⟩

/-- Checks that follow others are made if those are passed. -/
theorem decidedBy_bind {f : α → Built β} {further : List (Option ValidationError)} {Q : β → Prop}
    (first : x.DecidedBy checks P) (rest : ∀ a, P a → (f a).DecidedBy further Q) :
    DecidedBy (x >>= f) (checks ++ further) Q := by
  rw [DecidedBy] at first ⊢
  rw [List.findSome?_append]
  split at first
  · next e refused =>
    rw [refused, first]
    rfl
  · next passed =>
    obtain ⟨a, rfl, holds⟩ := first
    rw [passed, Option.none_or]
    exact rest a holds

/-- What is built of something that was checked, without a further check. -/
theorem decidedBy_last {f : α → β} {Q : β → Prop} (first : x.DecidedBy checks P)
    (built : ∀ a, P a → Q (f a)) : DecidedBy (do let a ← x; return f a) checks Q := by
  have := decidedBy_bind first fun a holds => decidedBy_pure (built a holds)
  rwa [List.append_nil] at this

/-- A check that stands alone. -/
theorem decidedBy_ite {bad : Prop} [Decidable bad] {e : ValidationError}
    (rest : ¬ bad → x.DecidedBy checks P) :
    DecidedBy (if bad then .error e else x) (refuse bad e :: checks) P := by
  by_cases h : bad
  · simp [DecidedBy, refuse, h]
  · have := rest h
    rw [DecidedBy] at this ⊢
    simpa [refuse, h] using this

end Built

theorem decidedBy_nonEmpty (field text : String) :
    (nonEmpty field text).DecidedBy [refuse (text = "") (.empty field)] (· = text) :=
  Built.decidedBy_ite fun _ => Built.decidedBy_pure rfl

theorem decidedBy_nonEmpty? (field : String) (text : Option String) :
    (nonEmpty? field text).DecidedBy [refuse (text = some "") (.empty field)] (· = text) := by
  cases text with
  | none => exact ⟨none, rfl, rfl⟩
  | some s =>
    have same : refuse (some s = some "") (.empty field) = refuse (s = "") (.empty field) := by
      simp [refuse]
    rw [same]
    exact Built.decidedBy_ite fun _ => Built.decidedBy_pure rfl

/-- Every turn has its name checked last. -/
theorem decidedBy_new (name : String) (payload : Payload) :
    (Turn.new name payload : Built (Turn σ)).DecidedBy [refuse (name = "") (.empty "name")]
      (· = ⟨name, payload, []⟩) := by
  refine Built.decidedBy_last (decidedBy_nonEmpty "name" name) ?_
  rintro _ rfl
  rfl

/-! ### Messages -/

namespace Message.Draft

/-- Items, then the language, then the name. -/
def checks (d : Draft) : List (Option ValidationError) :=
  [refuse (d.items = []) (.empty "audioItems"),
    refuse (d.language = some "") (.empty "language"),
    refuse (d.name = "") (.empty "name")]

/-- The turn that shows what is in a draft. -/
def Shows (d : Draft) (t : Turn σ) : Prop :=
  t = ⟨d.name, .message ⟨d.items, d.language, d.bargeIn⟩, []⟩

theorem decidedBy_message (d : Draft) :
    d.message.DecidedBy
      [refuse (d.items = []) (.empty "audioItems"),
        refuse (d.language = some "") (.empty "language")]
      (· = ⟨d.items, d.language, d.bargeIn⟩) := by
  have spoken : refuse (d.items = []) (.empty "audioItems")
      = refuse (d.items.isEmpty = true) (.empty "audioItems") := by
    simp [refuse]
  rw [spoken]
  refine Built.decidedBy_ite fun _ => ?_
  refine Built.decidedBy_last (decidedBy_nonEmpty? "language" d.language) ?_
  rintro _ rfl
  rfl

theorem decidedBy_build (d : Draft) :
    (d.build : Built (Turn σ)).DecidedBy d.checks d.Shows := by
  refine Built.decidedBy_bind d.decidedBy_message ?_
  rintro _ rfl
  exact decidedBy_new d.name _

end Message.Draft

/-! ### Object calls -/

namespace ObjectCall.Draft

/-- Archives, then the other texts, then the name. -/
def checks (d : Draft) : List (Option ValidationError) :=
  [refuse ("" ∈ d.call.archives) (.empty "archive"),
    refuse (d.call.classId = some "") (.empty "classId"),
    refuse (d.call.codeBase = some "") (.empty "codeBase"),
    refuse (d.call.codeType = some "") (.empty "codeType"),
    refuse (d.call.data = some "") (.empty "data"),
    refuse (d.call.mediaType = some "") (.empty "type"),
    refuse (d.call.script = some "") (.empty "postObjectScript"),
    refuse (d.name = "") (.empty "name")]

/-- The turn that shows what is in a draft. -/
def Shows (d : Draft) (t : Turn σ) : Prop := t = ⟨d.name, .objectCall d.call, []⟩

theorem decidedBy_build (d : Draft) :
    (d.build : Built (Turn σ)).DecidedBy d.checks d.Shows := by
  have call : d.objectCall.DecidedBy (d.checks.take 7) (· = d.call) := by
    refine Built.decidedBy_ite fun _ => ?_
    refine Built.decidedBy_bind (decidedBy_nonEmpty? "classId" _) ?_
    rintro _ rfl
    refine Built.decidedBy_bind (decidedBy_nonEmpty? "codeBase" _) ?_
    rintro _ rfl
    refine Built.decidedBy_bind (decidedBy_nonEmpty? "codeType" _) ?_
    rintro _ rfl
    refine Built.decidedBy_bind (decidedBy_nonEmpty? "data" _) ?_
    rintro _ rfl
    refine Built.decidedBy_bind (decidedBy_nonEmpty? "type" _) ?_
    rintro _ rfl
    refine Built.decidedBy_last (decidedBy_nonEmpty? "postObjectScript" _) ?_
    rintro _ rfl
    rfl
  -- the last check is that of the name
  refine Built.decidedBy_bind call ?_
  rintro _ rfl
  exact decidedBy_new d.name _

end ObjectCall.Draft

/-! ### Transfers -/

namespace Transfer.Draft

/-- The destination, then the times, then the other texts, then the name. -/
def checks (d : Draft) : List (Option ValidationError) :=
  [refuse (d.destination = none) (.missing "destination"),
    refuse (d.destination = some "") (.empty "destination"),
    refuse (d.connectTimeout.isSome ∧ d.style = .blind)
      (.unsupportedOption "connectTimeout" d.style.name),
    refuse (d.maxTime.isSome ∧ d.style ≠ .bridge) (.unsupportedOption "maxTime" d.style.name),
    refuse (d.aai = some "") (.empty "aai"),
    refuse (d.transferAudio = some "") (.empty "transferAudio"),
    refuse (d.name = "") (.empty "name")]

/-- The turn that shows what is in a draft. -/
def Shows (d : Draft) (t : Turn σ) : Prop :=
  ∃ location, d.destination = some location ∧
    t = ⟨d.name, .transfer ⟨location, d.style, d.aai, d.transferAudio, d.items, d.connectTimeout,
      d.maxTime⟩, []⟩

theorem decidedBy_destinationText (d : Draft) :
    d.destinationText.DecidedBy
      [refuse (d.destination = none) (.missing "destination"),
        refuse (d.destination = some "") (.empty "destination")]
      (d.destination = some ·) := by
  rw [destinationText]
  cases h : d.destination with
  | none => exact rfl
  | some location =>
    have given : refuse (some location = none) (.missing "destination") = none := by
      simp [refuse]
    have same : refuse (some location = some "") (.empty "destination")
        = refuse (location = "") (.empty "destination") := by
      simp [refuse]
    rw [given, same]
    exact (decidedBy_nonEmpty "destination" location).imp fun _ same => congrArg some same.symm

theorem decidedBy_checkTimes (d : Draft) :
    d.checkTimes.DecidedBy
      [refuse (d.connectTimeout.isSome ∧ d.style = .blind)
          (.unsupportedOption "connectTimeout" d.style.name),
        refuse (d.maxTime.isSome ∧ d.style ≠ .bridge) (.unsupportedOption "maxTime" d.style.name)]
      fun _ => True := by
  -- blind is the only style that is not supervised
  have supervised : (d.connectTimeout.isSome ∧ d.style = .blind) ↔
      d.connectTimeout.isSome ∧ ¬ d.style.isSupervised := by
    cases d.style <;> simp [Style.isSupervised]
  have same (e : ValidationError) : refuse (d.connectTimeout.isSome ∧ d.style = .blind) e
      = refuse (d.connectTimeout.isSome ∧ ¬ d.style.isSupervised) e := by
    simp only [refuse, supervised]
  rw [same]
  refine Built.decidedBy_ite fun _ => ?_
  exact Built.decidedBy_ite fun _ => Built.decidedBy_pure trivial

theorem decidedBy_build (d : Draft) :
    (d.build : Built (Turn σ)).DecidedBy d.checks d.Shows := by
  have transfer : d.transfer.DecidedBy (d.checks.take 6) fun t =>
      d.destination = some t.destination ∧ t = ⟨t.destination, d.style, d.aai, d.transferAudio,
        d.items, d.connectTimeout, d.maxTime⟩ := by
    refine Built.decidedBy_bind d.decidedBy_destinationText ?_
    intro location given
    refine Built.decidedBy_bind d.decidedBy_checkTimes ?_
    intro _ _
    refine Built.decidedBy_bind (decidedBy_nonEmpty? "aai" _) ?_
    rintro _ rfl
    refine Built.decidedBy_last (decidedBy_nonEmpty? "transferAudio" _) ?_
    rintro _ rfl
    exact ⟨given, rfl⟩
  refine Built.decidedBy_bind transfer ?_
  rintro t ⟨given, fields⟩
  refine (decidedBy_new d.name (.transfer t)).imp ?_
  rintro _ rfl
  exact ⟨t.destination, given, by rw [← fields]⟩

end Transfer.Draft

/-! ### Parameters -/

namespace Parameter.Draft

/-- The name, then what is passed, then the media type. -/
def checks (d : Draft) : List (Option ValidationError) :=
  [refuse (d.name = "") (.empty "parameter name"),
    refuse (d.value.isSome ∧ d.expression.isSome) (.conflictingPayload d.name),
    refuse (d.value = none ∧ d.expression = none) (.missingPayload d.name),
    refuse (d.expression = some "") (.empty "expression"),
    refuse (d.mediaType = some "") (.empty "parameter type")]

/-- The parameter that shows what is in a draft. -/
def Shows (d : Draft) (q : Parameter) : Prop :=
  q.name = d.name ∧ q.value? = d.value ∧ q.expression? = d.expression ∧
    q.valueType = d.valueType ∧ q.mediaType = d.mediaType

theorem decidedBy_payload (d : Draft) :
    d.payload.DecidedBy
      [refuse (d.value.isSome ∧ d.expression.isSome) (.conflictingPayload d.name),
        refuse (d.value = none ∧ d.expression = none) (.missingPayload d.name),
        refuse (d.expression = some "") (.empty "expression")]
      fun payload => ∀ name valueType mediaType,
        Parameter.value? ⟨name, payload, valueType, mediaType⟩ = d.value ∧
          Parameter.expression? ⟨name, payload, valueType, mediaType⟩ = d.expression := by
  rw [payload]
  -- both, neither, and one of the two, of which only the expression is checked
  cases hv : d.value with
  | none =>
    cases hx : d.expression with
    | none => exact rfl
    | some code =>
      by_cases h : code = ""
      · simp [Built.DecidedBy, refuse, nonEmpty, h, Except.map]
      · simp [Built.DecidedBy, refuse, nonEmpty, h, Except.map, Parameter.value?,
          Parameter.expression?]
  | some text =>
    cases hx : d.expression with
    | none => simp [Built.DecidedBy, refuse, Parameter.value?, Parameter.expression?]
    | some code => exact rfl

theorem decidedBy_build (d : Draft) : d.build.DecidedBy d.checks d.Shows := by
  refine Built.decidedBy_bind (decidedBy_nonEmpty "parameter name" d.name) ?_
  rintro _ rfl
  refine Built.decidedBy_bind d.decidedBy_payload ?_
  intro payload passed
  refine Built.decidedBy_last (decidedBy_nonEmpty? "parameter type" _) ?_
  rintro _ rfl
  obtain ⟨value, expression⟩ := passed d.name d.valueType d.mediaType
  exact ⟨rfl, value, expression, rfl, rfl⟩

end Parameter.Draft

/-! ### Fetch policies -/

namespace FetchPolicy.Draft

/-- The error of attempts that may take longer than the whole fetch. -/
def overrun? (d : Draft) : Option ValidationError :=
  d.policy.attemptTimeout.bind fun attempt => d.policy.timeout.bind fun total =>
    refuse (total < attempt) (.outOfRange "fetchAttemptTimeout"
      (attempt.designation ++ " exceeds the fetch timeout of " ++ total.designation))

/-- The number of attempts, then the time that an attempt may take. -/
def checks (d : Draft) : List (Option ValidationError) :=
  [refuse (d.policy.attempts = some 0)
      (.outOfRange "fetchAttempts" "at least one attempt is required"),
    d.overrun?]

/-- The policy that shows what is in a draft. -/
def Shows (d : Draft) (f : FetchPolicy) : Prop := f = d.policy

theorem decidedBy_build (d : Draft) : d.build.DecidedBy d.checks d.Shows := by
  refine Built.decidedBy_ite fun _ => ?_
  rw [overrun?]
  cases d.policy.attemptTimeout with
  | none => exact ⟨_, rfl, rfl⟩
  | some attempt =>
    cases d.policy.timeout with
    | none => exact ⟨_, rfl, rfl⟩
    | some total => exact Built.decidedBy_ite fun _ => Built.decidedBy_pure rfl

end FetchPolicy.Draft

end VoiceDialogue
