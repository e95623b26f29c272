/-
VoiceDialogue/Proofs/Compile/ValidTurns.lean

What compiling a turn cannot run into.

Of the obstacles that rendering knows, two lie in the payload and not in its
audio items: an empty destination and an empty archive.  Turns that a user can
get hold of are valid and have neither.  So rendering them only fails for a name
of the platform or for an audio item (`Render.document_ne_own`), and what can
still come when adapters have run are characters (`obstacle_of_compile`).

Obstacles are told apart by their wording, and the wording is what is compared
in the end (`Obstacle.reason_eq_emptyDestination_iff`).
-/
import VoiceDialogue.Proofs.Compile.Characters
import VoiceDialogue.Proofs.Compile.Log
import VoiceDialogue.Proofs.Turn.Valid

namespace VoiceDialogue

variable {σ : Type}

/-! ### Where obstacles come from -/

/-- A payload that has no obstacle of its own is not refused for its
destination or its archives. -/
theorem Render.document_ne_own (p : Platform) {payload : Payload}
    (own : payload.ownObstacle? = none) :
    document p payload ≠ .error .emptyDestination ∧ document p payload ≠ .error .emptyArchive := by
  have item {o : Obstacle} (refused : document p payload = .error o) :
      (∃ c, .emptyName c = o) ∨ o ∈ [.emptySpeech, .emptyLocation, .emptyRecording] := by
    rw [document_eq_error_iff, Payload.obstacle?, own, Option.none_or, Option.or_eq_some_iff]
      at refused
    rcases refused with name | ⟨-, found⟩
    · obtain ⟨c, -, same⟩ := Option.map_eq_some_iff.1 name
      exact .inl ⟨c, same⟩
    · obtain ⟨i, -, hi⟩ := List.exists_of_findSome?_eq_some found
      exact .inr (AudioItem.mem_of_obstacle? hi)
  constructor
  · intro refused
    simpa using item refused
  · intro refused
    simpa using item refused

/-- An obstacle is met in rendering, or it is a character. -/
theorem obstacle_of_compile {p : Platform} {t : Turn σ} {s : σ} {n : String} {o : Obstacle}
    (h : (compile p t s).result = .error ⟨n, .obstacle o⟩) :
    Render.document p t.payload = .error o ∨ ∃ x, o = .forbidden x := by
  obtain ⟨-, ⟨refused, -⟩ | ⟨_, x, -, -, -, -, rfl⟩⟩ := result_compile_eq_obstacle_iff.1 h
  · exact .inl refused
  · exact .inr ⟨x, rfl⟩

theorem Passage.exists_forbidden_of_verdict {turn n : String} {r : Passage σ} {o : Obstacle}
    (h : r.verdict turn = .error ⟨n, .obstacle o⟩) : ∃ x, o = .forbidden x := by
  cases hf : r.failure with
  | some e => simp [verdict_of_failure hf] at h
  | none =>
    cases hx : r.document.firstInvalid? with
    | some x =>
      rw [verdict_of_forbidden hf hx] at h
      exact ⟨x, (Cause.obstacle.inj (CompileError.mk.inj (Except.error.inj h)).2).symm⟩
    | none => simp [verdict_of_carriable hf hx] at h

/-- The adapters of a compiler add no other obstacles. -/
theorem Compiler.obstacle_of_compile {c : Compiler σ} {t : Turn σ} {s : σ} {n : String}
    {o : Obstacle} (h : (c.compile t s).result = .error ⟨n, .obstacle o⟩) :
    Render.document c.platform t.payload = .error o ∨ ∃ x, o = .forbidden x := by
  cases own : (VoiceDialogue.compile c.platform t s).result with
  | error e =>
    rw [result_compile_of_error own] at h
    obtain rfl := Except.error.inj h
    exact VoiceDialogue.obstacle_of_compile own
  | ok d =>
    rw [result_compile_of_ok own] at h
    exact .inr (Passage.exists_forbidden_of_verdict h)

/-! ### Their wording -/

namespace Obstacle

/-- The wording of a character's obstacle always starts in the same way. -/
theorem reason_forbidden_ne (c : Char) (s : String) (other : s.toList.head? ≠ some 'c') :
    (forbidden c).reason ≠ s := by
  have starts (rest : String) : ("character " ++ rest).toList.head? = some 'c' := by
    simp
  have reason :
      (forbidden c).reason = "character " ++ (codePoint c ++ " cannot appear in markup") :=
    String.append_assoc
  rintro rfl
  apply other
  rw [reason]
  exact starts _

theorem reason_eq_emptyDestination_iff {o : Obstacle} :
    o.reason = "transfer with empty destination" ↔ o = .emptyDestination := by
  constructor
  · intro h
    cases o with
    | emptyName c => cases c <;> exact absurd h (by decide)
    | forbidden c => exact absurd h (reason_forbidden_ne c _ (by decide))
    | emptyDestination => rfl
    | _ => exact absurd h (by decide)
  · rintro rfl
    rfl

theorem reason_eq_emptyArchive_iff {o : Obstacle} :
    o.reason = "object call with an empty archive URI" ↔ o = .emptyArchive := by
  constructor
  · intro h
    cases o with
    | emptyName c => cases c <;> exact absurd h (by decide)
    | forbidden c => exact absurd h (reason_forbidden_ne c _ (by decide))
    | emptyArchive => rfl
    | _ => exact absurd h (by decide)
  · rintro rfl
    rfl

end Obstacle

/-! ### Together -/

/-- **Turns that a user can get hold of.**  They are valid, however they were
built, renamed and adapted.  Appending adapters gives another such turn, which
differs from the first one only at the end of the list of adapters.  And
compiling them, with or without the adapters of a compiler, is never refused
for an empty destination or an empty archive. -/
theorem Turn.reachable_turns_are_valid {t : Turn σ} (h : t.Reachable) :
    t.Valid ∧
      (∀ hs, (t.addAdapters hs).Reachable ∧
        t.addAdapters hs = ⟨t.name, t.payload, t.adapters ++ hs⟩) ∧
      (∀ p s n o, (compile p t s).result = .error ⟨n, .obstacle o⟩ →
        o.reason ≠ "transfer with empty destination" ∧
          o.reason ≠ "object call with an empty archive URI") ∧
      ∀ c : Compiler σ, ∀ s n o, (c.compile t s).result = .error ⟨n, .obstacle o⟩ →
        o.reason ≠ "transfer with empty destination" ∧
          o.reason ≠ "object call with an empty archive URI" := by
  have unmet {p : Platform} {o : Obstacle}
      (met : Render.document p t.payload = .error o ∨ ∃ x, o = .forbidden x) :
      o.reason ≠ "transfer with empty destination" ∧
        o.reason ≠ "object call with an empty archive URI" := by
    rw [Ne, Ne, Obstacle.reason_eq_emptyDestination_iff, Obstacle.reason_eq_emptyArchive_iff]
    obtain refused | ⟨x, rfl⟩ := met
    · obtain ⟨destination, archive⟩ := Render.document_ne_own p h.ownObstacle?_eq_none
      constructor
      · rintro rfl
        exact destination refused
      · rintro rfl
        exact archive refused
    · exact ⟨nofun, nofun⟩
  refine ⟨h.valid, ?_, ?_, ?_⟩
  · intro hs
    exact ⟨h.addAdapters hs, t.addAdapters_eq hs⟩
  · intro p s n o refused
    exact unmet (obstacle_of_compile refused)
  · intro c s n o refused
    exact unmet (Compiler.obstacle_of_compile refused)

/-- A call that is put through for a minute at most. -/
def supportCall : Turn Unit :=
  ⟨"support", .transfer
    { destination := "tel:100", style := .bridge, aai := none, transferAudio := none,
      items := [.speech ""], connectTimeout := some ⟨5000⟩, maxTime := some ⟨60000⟩ }, []⟩

/-- It is refused for what it says, but not for where it goes. -/
theorem supportCall_is_valid :
    supportCall.Reachable ∧ supportCall.Valid ∧
      ∃ o, (compile SettledConventions.default.platform supportCall ()).result =
          .error ⟨"support", .obstacle o⟩ ∧
        o.reason ≠ "transfer with empty destination" ∧
          o.reason ≠ "object call with an empty archive URI" := by
  have built : Turn.transferOf "support" .bridge
      [.destination "tel:100", .item (.speech ""), .connectTimeout ⟨5000⟩, .maxTime ⟨60000⟩]
      = .ok supportCall := rfl
  have reachable : supportCall.Reachable := .transfer built
  obtain ⟨valid, -, compiled, -⟩ := Turn.reachable_turns_are_valid reachable
  have refused : (compile SettledConventions.default.platform supportCall ()).result =
      .error ⟨"support", .obstacle .emptySpeech⟩ := rfl
  exact ⟨reachable, valid, _, refused, compiled _ _ _ _ refused⟩

end VoiceDialogue
