/-
VoiceDialogue/Proofs/Turn/LogLine.lean

Turns in logs.

A turn is logged as one line, the compact text of its canonical JSON.  All
numbers in that value are counts that fit in 64 bits, and all objects in it are
sorted (`Turn.regular_toJson`); for each type this is put together from its
fields.  So whoever reads the line as JSON, with whole numbers kept exactly,
gets the value back, whatever characters the turn's texts have, and a text
cannot break the line (`Turn.text_reads_back`).
-/
import VoiceDialogue.Proofs.Json.Writing
import VoiceDialogue.Turn.Basic

namespace VoiceDialogue

/-! ### Numbers and members -/

theorem Duration.regular_toJson (d : Duration) : d.toJson.Regular :=
  Json.regular_ofNat d.millis.toNat_lt

namespace Json

/-- Optional texts. -/
@[simp] theorem regular_texts (o : Option String) : (ofOption .str o).Regular :=
  regular_ofOption regular_str o

/-- Optional choices, written by their names. -/
@[simp] theorem regular_names {α : Type} (name : α → String) (o : Option α) :
    (ofOption (fun a => .str (name a)) o).Regular :=
  regular_ofOption (fun a => regular_str (name a)) o

/-- Optional durations. -/
@[simp] theorem regular_durations (o : Option Duration) : (ofOption Duration.toJson o).Regular :=
  regular_ofOption Duration.regular_toJson o

end Json

theorem AudioItem.regular_toJson (i : AudioItem) : i.toJson.Regular := by
  cases i with
  | speech text =>
    apply Json.regular_object (by simp)
    simp
  | file location alternative =>
    apply Json.regular_object (by simp)
    simp
  | pause duration =>
    apply Json.regular_object (by simp)
    simp [duration.regular_toJson]
  | recording expression =>
    apply Json.regular_object (by simp)
    simp

theorem Parameter.regular_toJson (p : Parameter) : p.toJson.Regular := by
  apply Json.regular_object (by simp)
  simp

theorem FetchPolicy.regular_toJson (p : FetchPolicy) : p.toJson.Regular := by
  have attempts : (Json.ofOption (fun n => .ofNat n.toNat) p.attempts).Regular := by
    apply Json.regular_ofOption
    intro n
    exact Json.regular_ofNat (Nat.lt_trans n.toNat_lt (by decide))
  apply Json.regular_object (by simp)
  simp [attempts]

theorem Message.regular_toJson (m : Message) : m.toJson.Regular := by
  apply Json.regular_object (by simp)
  simp [Json.regular_arr_map AudioItem.regular_toJson, Json.regular_ofOption Json.regular_bool]

theorem ObjectCall.regular_toJson (c : ObjectCall) : c.toJson.Regular := by
  apply Json.regular_object (by simp)
  simp [Json.regular_arr_map Json.regular_str, Json.regular_arr_map Parameter.regular_toJson,
    Json.regular_ofOption FetchPolicy.regular_toJson]

theorem Transfer.regular_toJson (t : Transfer) : t.toJson.Regular := by
  apply Json.regular_object (by simp)
  simp [Json.regular_arr_map AudioItem.regular_toJson]

theorem Payload.regular_toJson (p : Payload) : p.toJson.Regular := by
  cases p with
  | message m => exact m.regular_toJson
  | objectCall c => exact c.regular_toJson
  | transfer t => exact t.regular_toJson

variable {σ : Type}

theorem Turn.regular_toJson (t : Turn σ) : t.toJson.Regular := by
  apply Json.regular_object (by simp)
  simp [t.payload.regular_toJson]

/-! ### The members of a turn -/

/-- The members that show a payload, in their order.  What is not set is null,
and durations are counts of milliseconds. -/
def Payload.members : Payload → List (String × Json)
  | .message m =>
      [("audioItems", .arr (m.items.map AudioItem.toJson)),
        ("bargeIn", m.bargeIn.elim .null .bool), ("language", m.language.elim .null .str)]
  | .objectCall c =>
      [("archives", .arr (c.archives.map .str)), ("classId", c.classId.elim .null .str),
        ("codeBase", c.codeBase.elim .null .str), ("codeType", c.codeType.elim .null .str),
        ("data", c.data.elim .null .str),
        ("fetchConfiguration", c.fetch.elim .null FetchPolicy.toJson),
        ("parameters", .arr (c.parameters.map Parameter.toJson)),
        ("postObjectScript", c.script.elim .null .str), ("type", c.mediaType.elim .null .str)]
  | .transfer t =>
      [("aai", t.aai.elim .null .str), ("audioItems", .arr (t.items.map AudioItem.toJson)),
        ("connectTimeout", t.connectTimeout.elim .null fun d => .int d.millis.toNat),
        ("destination", .str t.destination),
        ("maxTime", t.maxTime.elim .null fun d => .int d.millis.toNat),
        ("transferAudio", t.transferAudio.elim .null .str), ("transferType", .str t.style.name)]

theorem Json.ofOption_eq_elim {α : Type} (f : α → Json) (o : Option α) :
    ofOption f o = o.elim .null f := by
  cases o with
  | none => rfl
  | some a => rfl

theorem Payload.toJson_eq (p : Payload) : p.toJson = .obj p.members := by
  cases p with
  | message m =>
    simp only [toJson, Message.toJson, members, Json.object, Json.sortMembers, List.foldl,
      Json.insertMember, String.reduceLT, String.reduceEq, if_true, if_false,
      Json.ofOption_eq_elim]
  | objectCall c =>
    simp only [toJson, ObjectCall.toJson, members, Json.object, Json.sortMembers, List.foldl,
      Json.insertMember, String.reduceLT, String.reduceEq, if_true, if_false,
      Json.ofOption_eq_elim]
  | transfer t =>
    simp only [toJson, Transfer.toJson, members, Json.object, Json.sortMembers, List.foldl,
      Json.insertMember, String.reduceLT, String.reduceEq, if_true, if_false,
      Json.ofOption_eq_elim]
    rfl

theorem Turn.toJson_eq (t : Turn σ) :
    t.toJson = .obj [("data", .obj t.payload.members), ("name", .str t.name)] := by
  rw [← t.payload.toJson_eq]
  simp only [toJson, Json.object, Json.sortMembers, List.foldl, Json.insertMember,
    String.reduceLT, if_true]

/-! ### The line -/

/-- **The log line of a turn reads back.**  It has no control characters, so it
is one line.  As JSON it stands for the canonical value of the turn, and for no
other value whose numbers are whole words, and the reader gives that value.
All objects in it list their members in order, and none of them twice.  The
value itself has a name and data, which are the name and the fixed members of
the payload. -/
theorem Turn.text_reads_back (t : Turn σ) :
    (∀ c ∈ t.text.toList, 0x20 ≤ c.toNat) ∧
      (∀ v, v.InWords → (Json.IsText t.text v ↔ v = t.toJson)) ∧
      Json.read t.text = .ok t.toJson ∧ t.toJson.InWords ∧ t.toJson.Ordered ∧
      t.toJson = .obj [("data", .obj t.payload.members), ("name", .str t.name)] := by
  have words : t.toJson.InWords := t.regular_toJson.inWords
  have stands : Json.IsText t.text t.toJson := Json.isText_text words
  have read : Json.read t.text = .ok t.toJson := Json.read_text_self words
  refine ⟨?_, ?_, read, words, t.regular_toJson.ordered, t.toJson_eq⟩
  · intro c hc
    have written : t.text.toList = t.toJson.write := String.toList_ofList
    rw [written] at hc
    exact Json.printable_write t.toJson words c hc
  · intro v hv
    constructor
    · -- the reader gives whatever the text stands for, so that is one value only
      intro other
      rw [Json.read_text other hv] at read
      exact Except.ok.inj read
    · rintro rfl
      exact stands

end VoiceDialogue
