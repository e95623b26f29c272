/-
VoiceDialogue/Proofs/Turn/Reachable.lean

The turns that there are.

Turns can be put together by hand here, field by field, but a user cannot do
that.  A turn comes from a draft, or it gives a new name to what another turn
does, and then adapters are appended (`Turn.Reachable`).  Parameters and fetch
policies come from drafts of their own.  Audio items are the exception: their
constructors are open to everyone, and so a turn may hold items that no check
has seen.

Since drafts check what they build, turns that can be reached have nothing of
their own that could not be rendered (`Turn.Reachable.ownObstacle?_eq_none`).
-/
import VoiceDialogue.Proofs.Render.Obstacles
import VoiceDialogue.Turn.Basic

namespace VoiceDialogue

variable {σ : Type}

/-! ### Where values come from -/

/-- Whether a parameter comes from a draft. -/
def Parameter.Reachable (q : Parameter) : Prop :=
  ∃ name settings, Parameter.ofSettings name settings = .ok q

/-- Whether a fetch policy comes from a draft. -/
def FetchPolicy.Reachable (f : FetchPolicy) : Prop :=
  ∃ settings, FetchPolicy.ofSettings settings = .ok f

/-- Whether the values in a setting come from drafts. -/
def ObjectCall.Setting.Reachable : ObjectCall.Setting → Prop
  | .fetch f => f.Reachable
  | .parameter q => q.Reachable
  | .parameters qs => ∀ q ∈ qs, q.Reachable
  | _ => True

/-- The turns that a user can get hold of. -/
inductive Turn.Reachable : Turn σ → Prop
  | message {name settings t} :
      Turn.messageOf name settings = .ok t → Reachable t
  | objectCall {name settings t} :
      (∀ s ∈ settings, s.Reachable) → Turn.objectCallOf name settings = .ok t → Reachable t
  | transfer {name style settings t} :
      Turn.transferOf name style settings = .ok t → Reachable t
  | renamed {t name t'} :
      Reachable t → Turn.new name t.payload = .ok t' → Reachable t'
  | adapted {t} (h : Handle σ) :
      Reachable t → Reachable (t.addAdapter h)

/-! ### What checks leave -/

/-- A check that is followed by something. -/
theorem Built.bind_eq_ok_iff {α β : Type} {x : Built α} {f : α → Built β} {b : β} :
    (x >>= f) = .ok b ↔ ∃ a, x = .ok a ∧ f a = .ok b := by
  cases x with
  | error e => exact ⟨nofun, fun ⟨_, h, _⟩ => nomatch h⟩
  | ok a =>
    constructor
    · intro h
      exact ⟨a, rfl, h⟩
    · rintro ⟨_, e, h⟩
      obtain rfl := Except.ok.inj e
      exact h

theorem nonEmpty_eq_ok_iff {field text s : String} :
    nonEmpty field text = .ok s ↔ text ≠ "" ∧ text = s := by
  by_cases h : text = ""
  · simp [nonEmpty, h]
  · simp [nonEmpty, h]

theorem Turn.new_eq_ok_iff {name : String} {payload : Payload} {t : Turn σ} :
    Turn.new name payload = .ok t ↔ name ≠ "" ∧ t = ⟨name, payload, []⟩ := by
  rw [Turn.new, Built.bind_eq_ok_iff]
  constructor
  · rintro ⟨_, h, eq⟩
    obtain ⟨given, rfl⟩ := nonEmpty_eq_ok_iff.1 h
    exact ⟨given, (Except.ok.inj eq).symm⟩
  · rintro ⟨given, rfl⟩
    exact ⟨name, nonEmpty_eq_ok_iff.2 ⟨given, rfl⟩, rfl⟩

/-- Checking an object call does not touch the archives. -/
theorem ObjectCall.Draft.archives_of_objectCall {d : ObjectCall.Draft} {c : ObjectCall}
    (h : d.objectCall = .ok c) : "" ∉ d.call.archives ∧ c.archives = d.call.archives := by
  rw [ObjectCall.Draft.objectCall] at h
  split at h
  · cases h
  · next fine =>
    -- six more checks, none of them of the archives
    obtain ⟨_, -, h⟩ := Built.bind_eq_ok_iff.1 h
    obtain ⟨_, -, h⟩ := Built.bind_eq_ok_iff.1 h
    obtain ⟨_, -, h⟩ := Built.bind_eq_ok_iff.1 h
    obtain ⟨_, -, h⟩ := Built.bind_eq_ok_iff.1 h
    obtain ⟨_, -, h⟩ := Built.bind_eq_ok_iff.1 h
    obtain ⟨_, -, h⟩ := Built.bind_eq_ok_iff.1 h
    obtain rfl := Except.ok.inj h
    exact ⟨fine, rfl⟩

/-- A transfer that was checked has a destination. -/
theorem Transfer.Draft.destination_of_transfer {d : Transfer.Draft} {t : Transfer}
    (h : d.transfer = .ok t) : t.destination ≠ "" := by
  obtain ⟨destination, hd, h⟩ := Built.bind_eq_ok_iff.1 h
  obtain ⟨_, -, h⟩ := Built.bind_eq_ok_iff.1 h
  obtain ⟨_, -, h⟩ := Built.bind_eq_ok_iff.1 h
  obtain ⟨_, -, h⟩ := Built.bind_eq_ok_iff.1 h
  obtain rfl := Except.ok.inj h
  rw [Transfer.Draft.destinationText] at hd
  split at hd
  · cases hd
  · obtain ⟨given, rfl⟩ := nonEmpty_eq_ok_iff.1 hd
    exact given

/-! ### Turns -/

/-- No turn that can be reached has an empty destination or archive. -/
theorem Turn.Reachable.ownObstacle?_eq_none {t : Turn σ} (h : t.Reachable) :
    t.payload.ownObstacle? = none := by
  induction h with
  | message built =>
    obtain ⟨m, -, named⟩ := Built.bind_eq_ok_iff.1 built
    obtain ⟨-, rfl⟩ := Turn.new_eq_ok_iff.1 named
    rfl
  | objectCall _ built =>
    obtain ⟨c, checked, named⟩ := Built.bind_eq_ok_iff.1 built
    obtain ⟨-, rfl⟩ := Turn.new_eq_ok_iff.1 named
    obtain ⟨fine, archives⟩ := ObjectCall.Draft.archives_of_objectCall checked
    exact if_neg (archives ▸ fine)
  | transfer built =>
    obtain ⟨t, checked, named⟩ := Built.bind_eq_ok_iff.1 built
    obtain ⟨-, rfl⟩ := Turn.new_eq_ok_iff.1 named
    exact if_neg (Transfer.Draft.destination_of_transfer checked)
  | renamed _ named ih =>
    obtain ⟨-, rfl⟩ := Turn.new_eq_ok_iff.1 named
    exact ih
  | adapted h _ ih => exact ih

end VoiceDialogue
