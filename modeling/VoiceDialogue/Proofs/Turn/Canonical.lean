/-
VoiceDialogue/Proofs/Turn/Canonical.lean

Canonical JSON and equality.

The canonical JSON of a turn shows its name and its payload, field by field.
Nothing is lost on the way, at any level: the members of an object are the same
for all values of a type, each field has a member of its own, and null stands
for a setting that was not made, which no setting is written as.  So two values
of a type have the same JSON only if they are equal; there is one lemma for
each type, and each is put together from those of its fields.  The three kinds
of turns, and the four kinds of audio items, differ in the names of their
members.

Adapters do not show.  They are compared by identity, and two turns are equal
exactly if their JSON is and they have the same adapters in the same places
(`Turn.beq_iff_toJson_eq`).
-/
import VoiceDialogue.Proofs.Json.Members
import VoiceDialogue.Turn.Basic

namespace VoiceDialogue

/-! ### Single settings -/

theorem Duration.toJson_injective : Function.Injective Duration.toJson := by
  intro a b h
  have millis : (a.millis.toNat : Int) = b.millis.toNat := Json.int.inj h
  have word : a.millis = b.millis := UInt64.toNat_inj.1 (Int.ofNat.inj millis)
  exact congrArg Duration.mk word

theorem FetchHint.name_injective : Function.Injective FetchHint.name := by
  intro a b h
  cases a <;> cases b <;> simp [name] at h ⊢

theorem Parameter.ValueType.name_injective : Function.Injective Parameter.ValueType.name := by
  intro a b h
  cases a <;> cases b <;> simp [name] at h ⊢

theorem Transfer.Style.name_injective : Function.Injective Transfer.Style.name := by
  intro a b h
  cases a <;> cases b <;> simp [name] at h ⊢

namespace Json

theorem str_injective : Function.Injective Json.str := fun _ _ h => Json.str.inj h

/-- Optional settings that are written as texts. -/
theorem ofOption_text_inj {α : Type} {word : α → String} (h : Function.Injective word)
    {x y : Option α} :
    ofOption (fun a => .str (word a)) x = ofOption (fun a => .str (word a)) y ↔ x = y := by
  have written : Function.Injective fun a => Json.str (word a) :=
    fun _ _ same => h (Json.str.inj same)
  constructor
  · intro same
    exact ofOption_injective written (fun _ => nofun) same
  · rintro rfl
    rfl

/-- Optional texts. -/
theorem ofOption_str_inj {x y : Option String} : ofOption .str x = ofOption .str y ↔ x = y := by
  have same : Function.Injective (id : String → String) := fun _ _ h => h
  exact ofOption_text_inj same

/-- Optional flags. -/
theorem ofOption_bool_inj {x y : Option Bool} : ofOption .bool x = ofOption .bool y ↔ x = y := by
  constructor
  · intro same
    exact ofOption_injective (fun _ _ h => Json.bool.inj h) (fun _ => nofun) same
  · rintro rfl
    rfl

/-- Optional durations. -/
theorem ofOption_duration_inj {x y : Option Duration} :
    ofOption Duration.toJson x = ofOption Duration.toJson y ↔ x = y := by
  constructor
  · intro same
    exact ofOption_injective Duration.toJson_injective (fun _ => nofun) same
  · rintro rfl
    rfl

/-- Optional counts. -/
theorem ofOption_count_inj {x y : Option UInt32} :
    ofOption (fun n => .ofNat n.toNat) x = ofOption (fun n => .ofNat n.toNat) y ↔ x = y := by
  have count : Function.Injective fun n : UInt32 => Json.ofNat n.toNat := by
    intro m n h
    have nat : (m.toNat : Int) = n.toNat := Json.int.inj h
    exact UInt32.toNat_inj.1 (Int.ofNat.inj nat)
  constructor
  · intro same
    exact ofOption_injective count (fun _ => nofun) same
  · rintro rfl
    rfl

/-- Lists of values. -/
theorem arr_map_inj {α : Type} {f : α → Json} (h : Function.Injective f) {xs ys : List α} :
    Json.arr (xs.map f) = Json.arr (ys.map f) ↔ xs = ys := by
  rw [Json.arr.injEq]
  exact List.map_inj_right fun _ _ same => h same

end Json

/-! ### Values -/

/-- Each kind of item has a member of its own beside the tag. -/
theorem AudioItem.toJson_injective : Function.Injective AudioItem.toJson := by
  intro i j h
  cases i with
  | speech text =>
    cases j with
    | speech text' =>
      have members := (Json.object_inj (by rfl) (by simp)).1 h
      simp only [List.cons.injEq, Prod.mk.injEq, Json.str.injEq, true_and, and_true] at members
      rw [members]
    | _ => exact absurd h (Json.object_ne "text" (by simp) (by simp) (by simp) (by simp))
  | file location alternative =>
    cases j with
    | file location' alternative' =>
      have members := (Json.object_inj (by rfl) (by simp)).1 h
      simp only [List.cons.injEq, Prod.mk.injEq, Json.str.injEq, true_and, and_true,
        Json.ofOption_str_inj] at members
      rw [members.1, members.2]
    | _ => exact absurd h (Json.object_ne "location" (by simp) (by simp) (by simp) (by simp))
  | pause duration =>
    cases j with
    | pause duration' =>
      have members := (Json.object_inj (by rfl) (by simp)).1 h
      simp only [List.cons.injEq, Prod.mk.injEq, true_and, and_true] at members
      rw [Duration.toJson_injective members]
    | _ => exact absurd h (Json.object_ne "duration" (by simp) (by simp) (by simp) (by simp))
  | recording expression =>
    cases j with
    | recording expression' =>
      have members := (Json.object_inj (by rfl) (by simp)).1 h
      simp only [List.cons.injEq, Prod.mk.injEq, Json.str.injEq, true_and, and_true] at members
      rw [members]
    | _ => exact absurd h (Json.object_ne "expression" (by simp) (by simp) (by simp) (by simp))

/-- Which of the two kinds of payload a parameter has shows in which of two
members is not null. -/
theorem Parameter.payload_inj {q r : Parameter} :
    q.payload = r.payload ↔ q.value? = r.value? ∧ q.expression? = r.expression? := by
  rw [value?, value?, expression?, expression?]
  cases q.payload with
  | value text => cases r.payload <;> simp
  | expression code => cases r.payload <;> simp

theorem Parameter.toJson_injective : Function.Injective Parameter.toJson := by
  intro q r h
  have members := (Json.object_inj (by rfl) (by simp)).1 h
  simp only [List.cons.injEq, Prod.mk.injEq, Json.str.injEq, true_and, and_true,
    Json.ofOption_str_inj, Json.ofOption_text_inj ValueType.name_injective] at members
  obtain ⟨name, expression, value, mediaType, valueType⟩ := members
  have payload : q.payload = r.payload := payload_inj.2 ⟨value, expression⟩
  calc q = ⟨q.name, q.payload, q.valueType, q.mediaType⟩ := rfl
    _ = ⟨r.name, r.payload, r.valueType, r.mediaType⟩ := by rw [name, payload, valueType, mediaType]
    _ = r := rfl

theorem FetchPolicy.toJson_injective : Function.Injective FetchPolicy.toJson := by
  intro f g h
  have members := (Json.object_inj (by rfl) (by simp)).1 h
  simp only [List.cons.injEq, Prod.mk.injEq, true_and, and_true, Json.ofOption_duration_inj,
    Json.ofOption_count_inj, Json.ofOption_text_inj FetchHint.name_injective] at members
  obtain ⟨hint, timeout, maxAge, maxStale, attempts, attemptTimeout⟩ := members
  calc f = ⟨f.hint, f.timeout, f.maxAge, f.maxStale, f.attempts, f.attemptTimeout⟩ := rfl
    _ = ⟨g.hint, g.timeout, g.maxAge, g.maxStale, g.attempts, g.attemptTimeout⟩ := by
      rw [hint, timeout, maxAge, maxStale, attempts, attemptTimeout]
    _ = g := rfl

/-! ### Payloads -/

theorem Message.toJson_injective : Function.Injective Message.toJson := by
  intro m n h
  have members := (Json.object_inj (by rfl) (by simp)).1 h
  simp only [List.cons.injEq, Prod.mk.injEq, true_and, and_true, Json.ofOption_str_inj,
    Json.ofOption_bool_inj, Json.arr_map_inj AudioItem.toJson_injective] at members
  obtain ⟨items, language, bargeIn⟩ := members
  calc m = ⟨m.items, m.language, m.bargeIn⟩ := rfl
    _ = ⟨n.items, n.language, n.bargeIn⟩ := by rw [items, language, bargeIn]
    _ = n := rfl

/-- A fetch policy that leaves everything to the platform is an object, while
no policy at all is null. -/
theorem ObjectCall.toJson_injective : Function.Injective ObjectCall.toJson := by
  intro c d h
  have policies : Json.ofOption FetchPolicy.toJson c.fetch = Json.ofOption FetchPolicy.toJson d.fetch
      → c.fetch = d.fetch :=
    fun same => Json.ofOption_injective FetchPolicy.toJson_injective (fun _ => nofun) same
  have members := (Json.object_inj (by rfl) (by simp)).1 h
  simp only [List.cons.injEq, Prod.mk.injEq, true_and, and_true, Json.ofOption_str_inj,
    Json.arr_map_inj Parameter.toJson_injective, Json.arr_map_inj Json.str_injective] at members
  obtain ⟨classId, codeBase, codeType, data, mediaType, script, parameters, fetch, archives⟩ :=
    members
  calc c = ⟨c.classId, c.codeBase, c.codeType, c.data, c.mediaType, c.archives, c.fetch,
        c.parameters, c.script⟩ := rfl
    _ = ⟨d.classId, d.codeBase, d.codeType, d.data, d.mediaType, d.archives, d.fetch,
        d.parameters, d.script⟩ := by
      rw [classId, codeBase, codeType, data, mediaType, archives, policies fetch, parameters, script]
    _ = d := rfl

theorem Transfer.toJson_injective : Function.Injective Transfer.toJson := by
  intro t u h
  have members := (Json.object_inj (by rfl) (by simp)).1 h
  simp only [List.cons.injEq, Prod.mk.injEq, Json.str.injEq, true_and, and_true,
    Json.ofOption_str_inj, Json.ofOption_duration_inj,
    Json.arr_map_inj AudioItem.toJson_injective] at members
  obtain ⟨destination, style, aai, transferAudio, items, connectTimeout, maxTime⟩ := members
  calc t = ⟨t.destination, t.style, t.aai, t.transferAudio, t.items, t.connectTimeout,
        t.maxTime⟩ := rfl
    _ = ⟨u.destination, u.style, u.aai, u.transferAudio, u.items, u.connectTimeout,
        u.maxTime⟩ := by
      rw [destination, Style.name_injective style, aai, transferAudio, items, connectTimeout, maxTime]
    _ = u := rfl

theorem Payload.toJson_injective : Function.Injective Payload.toJson := by
  intro p q h
  cases p with
  | message m =>
    cases q with
    | message n => rw [Message.toJson_injective h]
    | _ => exact absurd h (Json.object_ne "bargeIn" (by simp) (by simp) (by simp) (by simp))
  | objectCall c =>
    cases q with
    | objectCall d => rw [ObjectCall.toJson_injective h]
    | _ => exact absurd h (Json.object_ne "classId" (by simp) (by simp) (by simp) (by simp))
  | transfer t =>
    cases q with
    | transfer u => rw [Transfer.toJson_injective h]
    | _ => exact absurd h (Json.object_ne "destination" (by simp) (by simp) (by simp) (by simp))

/-! ### Turns -/

variable {σ : Type}

/-- The JSON of a turn shows its name and its payload, and nothing else. -/
theorem Turn.toJson_inj (a b : Turn σ) :
    a.toJson = b.toJson ↔ a.name = b.name ∧ a.payload = b.payload := by
  rw [toJson, toJson, Json.object_inj (by rfl) (by simp)]
  simp only [List.cons.injEq, Prod.mk.injEq, Json.str.injEq, true_and, and_true]
  apply and_congr_right
  intro _
  constructor
  · intro same
    exact Payload.toJson_injective same
  · intro same
    rw [same]

/-- Lists of handles are equal if they are equally long and have the same
handles in the same places. -/
theorem Handle.beq_list_iff (gs hs : List (Handle σ)) :
    (gs == hs) = true ↔ gs.length = hs.length ∧
      ∀ i : Nat, gs[i]?.map Handle.identity = hs[i]?.map Handle.identity := by
  have identities : (gs == hs) = true ↔ gs.map Handle.identity = hs.map Handle.identity := by
    induction gs generalizing hs with
    | nil => cases hs <;> simp
    | cons g gs ih =>
      cases hs with
      | nil => simp
      | cons h hs =>
        have one : (g == h) = true ↔ g.identity = h.identity := by
          show (g.identity == h.identity) = true ↔ g.identity = h.identity
          exact beq_iff_eq
        rw [List.cons_beq_cons, Bool.and_eq_true, one, ih hs, List.map_cons, List.map_cons,
          List.cons.injEq]
  rw [identities]
  constructor
  · intro same
    refine ⟨by simpa using congrArg List.length same, ?_⟩
    intro i
    rw [← List.getElem?_map, ← List.getElem?_map, same]
  · rintro ⟨-, places⟩
    apply List.ext_getElem?
    intro i
    rw [List.getElem?_map, List.getElem?_map]
    exact places i

/-- Two turns are equal exactly if they have the same JSON and, in the same
number and place by place, the same adapters; and they have the same JSON
exactly if they have the same name and the same payload. -/
theorem Turn.beq_iff_toJson_eq (a b : Turn σ) :
    ((a == b) = true ↔ a.toJson = b.toJson ∧ a.adapters.length = b.adapters.length ∧
        ∀ i : Nat, a.adapters[i]?.map Handle.identity = b.adapters[i]?.map Handle.identity) ∧
      (a.toJson = b.toJson ↔ a.name = b.name ∧ a.payload = b.payload) := by
  refine ⟨?_, Turn.toJson_inj a b⟩
  have parts : (a == b) = true ↔
      (a.name = b.name ∧ (a.adapters == b.adapters) = true) ∧ a.payload = b.payload := by
    show (a.name == b.name && a.adapters == b.adapters && a.payload == b.payload) = true ↔ _
    simp
  rw [parts, Turn.toJson_inj, Handle.beq_list_iff]
  constructor
  · rintro ⟨⟨name, adapters⟩, payload⟩
    exact ⟨⟨name, payload⟩, adapters⟩
  · rintro ⟨⟨name, payload⟩, adapters⟩
    exact ⟨⟨name, adapters⟩, payload⟩

end VoiceDialogue
