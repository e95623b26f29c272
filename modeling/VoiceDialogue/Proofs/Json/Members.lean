/-
VoiceDialogue/Proofs/Json/Members.lean

Members of objects.

The objects that the library builds have sorted members (`Json.Sorted`).  One
step of sorting puts a member where its name belongs and drops an earlier
member of that name (`Json.mem_insertMember`); the other members stay.  So if
no name comes twice, sorting neither adds nor loses a member
(`Json.mem_sortMembers`), and an object with fixed names shows everything that
was put into it: two such objects are equal only if their members were
(`Json.object_inj`).
-/
import VoiceDialogue.Json.Value

namespace VoiceDialogue

namespace Json

/-- The names of some members. -/
abbrev memberNames (members : List (String × Json)) : List String := members.map Prod.fst

/-- Whether members stand in the order of their names, and none comes twice. -/
def Sorted (members : List (String × Json)) : Prop := (memberNames members).Pairwise (· < ·)

/-! ### One step of sorting -/

/-- The names after a step are those before it and the new one. -/
theorem mem_memberNames_insertMember (name : String) (value : Json)
    (members : List (String × Json)) (n : String) :
    n ∈ memberNames (insertMember name value members) ↔ n = name ∨ n ∈ memberNames members := by
  induction members with
  | nil => simp [insertMember]
  | cons m rest ih =>
    obtain ⟨n', v⟩ := m
    by_cases before : name < n'
    · simp [insertMember, before]
    by_cases same : name = n'
    · -- the member is replaced, and its name stays
      subst same
      simp [insertMember]
    · have later : n ∈ memberNames (insertMember name value rest)
          ↔ n = name ∨ n ∈ memberNames rest := ih
      simp only [insertMember, before, same, if_false, memberNames, List.map_cons,
        List.mem_cons] at later ⊢
      rw [later, or_left_comm]

/-- A step keeps the order. -/
theorem sorted_insertMember (name : String) (value : Json) {members : List (String × Json)}
    (h : Sorted members) : Sorted (insertMember name value members) := by
  induction members with
  | nil => simp [insertMember, Sorted]
  | cons m rest ih =>
    obtain ⟨n, v⟩ := m
    have first : ∀ n' ∈ memberNames rest, n < n' := (List.pairwise_cons.1 h).1
    have others : Sorted rest := (List.pairwise_cons.1 h).2
    by_cases before : name < n
    · have all : ∀ n' ∈ n :: memberNames rest, name < n' := by
        intro n' hn'
        rcases List.mem_cons.1 hn' with rfl | hn'
        · exact before
        · exact String.lt_trans before (first n' hn')
      rw [insertMember, if_pos before]
      exact List.pairwise_cons.2 ⟨all, h⟩
    by_cases same : name = n
    · subst same
      rw [insertMember, if_neg before, if_pos rfl]
      exact h
    · -- the member comes later, so its name is greater than the first one
      have after : n < name := by
        apply Decidable.by_contra
        intro other
        exact same (String.le_antisymm (String.not_lt.1 other) (String.not_lt.1 before))
      have all : ∀ n' ∈ memberNames (insertMember name value rest), n < n' := by
        intro n' hn'
        rcases (mem_memberNames_insertMember name value rest n').1 hn' with rfl | hn'
        · exact after
        · exact first n' hn'
      rw [insertMember, if_neg before, if_neg same]
      exact List.pairwise_cons.2 ⟨all, ih others⟩

/-- The members after a step are the new one and those of other names. -/
theorem mem_insertMember {members : List (String × Json)} (h : Sorted members) (name : String)
    (value : Json) (m : String × Json) :
    m ∈ insertMember name value members ↔ m = (name, value) ∨ m ∈ members ∧ m.1 ≠ name := by
  induction members with
  | nil => simp [insertMember]
  | cons m' rest ih =>
    obtain ⟨n, v⟩ := m'
    have first : ∀ n' ∈ memberNames rest, n < n' := (List.pairwise_cons.1 h).1
    have others : Sorted rest := (List.pairwise_cons.1 h).2
    have named : m ∈ rest → n < m.1 := fun hm => first m.1 (List.mem_map_of_mem hm)
    by_cases before : name < n
    · -- all names here are greater than the new one
      have greater : m ∈ (n, v) :: rest → name < m.1 := by
        intro hm
        rcases List.mem_cons.1 hm with rfl | hm
        · exact before
        · exact String.lt_trans before (named hm)
      rw [insertMember, if_pos before, List.mem_cons]
      refine or_congr Iff.rfl ⟨fun hm => ⟨hm, ?_⟩, And.left⟩
      intro eq
      exact String.lt_irrefl name (eq ▸ greater hm)
    by_cases same : name = n
    · -- the first member is replaced, and no later one has its name
      subst same
      rw [insertMember, if_neg before, if_pos rfl, List.mem_cons, List.mem_cons]
      constructor
      · rintro (rfl | hm)
        · exact .inl rfl
        · refine .inr ⟨.inr hm, ?_⟩
          intro eq
          exact String.lt_irrefl m.1 (eq ▸ named hm)
      · rintro (rfl | ⟨rfl | hm, other⟩)
        · exact .inl rfl
        · exact absurd rfl other
        · exact .inr hm
    · rw [insertMember, if_neg before, if_neg same, List.mem_cons, ih others, List.mem_cons]
      constructor
      · rintro (rfl | rfl | ⟨hm, other⟩)
        · exact .inr ⟨.inl rfl, Ne.symm same⟩
        · exact .inl rfl
        · exact .inr ⟨.inr hm, other⟩
      · rintro (rfl | ⟨rfl | hm, other⟩)
        · exact .inr (.inl rfl)
        · exact .inl rfl
        · exact .inr (.inr ⟨hm, other⟩)

/-! ### Sorting -/

/-- Sorting from some sorted members on: the order is kept, and what was there
before stays unless a later member has its name. -/
theorem foldl_insertMember {sorted : List (String × Json)} (h : Sorted sorted)
    {members : List (String × Json)} (distinct : (memberNames members).Nodup) :
    Sorted (members.foldl (fun sorted m => insertMember m.1 m.2 sorted) sorted) ∧
      ∀ m, m ∈ members.foldl (fun sorted m => insertMember m.1 m.2 sorted) sorted
        ↔ m ∈ members ∨ m ∈ sorted ∧ m.1 ∉ memberNames members := by
  induction members generalizing sorted with
  | nil => simpa using h
  | cons first rest ih =>
    have names : memberNames (first :: rest) = first.1 :: memberNames rest := rfl
    rw [names, List.nodup_cons] at distinct
    obtain ⟨fresh, distinct⟩ := distinct
    obtain ⟨order, mem⟩ := ih (sorted_insertMember first.1 first.2 h) distinct
    refine ⟨order, ?_⟩
    intro m
    have step := mem_insertMember h first.1 first.2 m
    rw [List.foldl_cons, mem, step, names, List.mem_cons, List.mem_cons, not_or]
    constructor
    · rintro (hm | ⟨rfl | ⟨hm, other⟩, new⟩)
      · exact .inl (.inr hm)
      · exact .inl (.inl rfl)
      · exact .inr ⟨hm, other, new⟩
    · rintro ((rfl | hm) | ⟨hm, other, new⟩)
      · exact .inr ⟨.inl rfl, fresh⟩
      · exact .inl hm
      · exact .inr ⟨.inr ⟨hm, other⟩, new⟩

/-- Sorting members of distinct names neither adds nor loses one. -/
theorem mem_sortMembers {members : List (String × Json)}
    (distinct : (memberNames members).Nodup) (m : String × Json) :
    m ∈ sortMembers members ↔ m ∈ members := by
  have start : Sorted [] := List.Pairwise.nil
  rw [sortMembers, (foldl_insertMember start distinct).2 m]
  simp

/-! ### Objects -/

/-- Members of the same distinct names are equal if they are the same as a
set: each name then has the same value. -/
theorem eq_of_mem_iff {xs ys : List (String × Json)} (names : memberNames xs = memberNames ys)
    (distinct : (memberNames xs).Nodup) (same : ∀ m, m ∈ xs ↔ m ∈ ys) : xs = ys := by
  induction xs generalizing ys with
  | nil => exact (List.map_eq_nil_iff.1 names.symm).symm
  | cons x xs ih =>
    obtain ⟨y, ys, rfl⟩ : ∃ y ys', ys = y :: ys' := by
      cases ys with
      | nil => cases names
      | cons y ys => exact ⟨y, ys, rfl⟩
    obtain ⟨first, others⟩ : x.1 = y.1 ∧ memberNames xs = memberNames ys := List.cons.inj names
    obtain ⟨fresh, distinct⟩ : x.1 ∉ memberNames xs ∧ (memberNames xs).Nodup :=
      List.nodup_cons.1 distinct
    have fresh' : x.1 ∉ memberNames ys := others ▸ fresh
    have head : x = y := by
      rcases List.mem_cons.1 ((same x).1 List.mem_cons_self) with eq | hx
      · exact eq
      · exact absurd (List.mem_map_of_mem hx) fresh'
    subst head
    have tails : ∀ m, m ∈ xs ↔ m ∈ ys := by
      intro m
      constructor
      · intro hm
        rcases List.mem_cons.1 ((same m).1 (List.mem_cons_of_mem x hm)) with rfl | hm'
        · exact absurd (List.mem_map_of_mem hm) fresh
        · exact hm'
      · intro hm
        rcases List.mem_cons.1 ((same m).2 (List.mem_cons_of_mem x hm)) with rfl | hm'
        · exact absurd (List.mem_map_of_mem hm) fresh'
        · exact hm'
    rw [ih others distinct tails]

/-- Objects show their members: if two of them have the same fixed names, they
are equal only if their members are. -/
theorem object_inj {xs ys : List (String × Json)} (names : memberNames xs = memberNames ys)
    (distinct : (memberNames xs).Nodup) : object xs = object ys ↔ xs = ys := by
  constructor
  · intro h
    have sorted : sortMembers xs = sortMembers ys := Json.obj.inj h
    have distinct' : (memberNames ys).Nodup := names ▸ distinct
    apply eq_of_mem_iff names distinct
    intro m
    rw [← mem_sortMembers distinct m, sorted, mem_sortMembers distinct' m]
  · rintro rfl
    rfl

/-- Objects are not equal if one of them has a member that the other lacks. -/
theorem object_ne {xs ys : List (String × Json)} (n : String) (distinct : (memberNames xs).Nodup)
    (distinct' : (memberNames ys).Nodup) (shown : n ∈ memberNames xs)
    (missing : n ∉ memberNames ys) : object xs ≠ object ys := by
  intro h
  have sorted : sortMembers xs = sortMembers ys := Json.obj.inj h
  obtain ⟨m, hm, rfl⟩ := List.mem_map.1 shown
  rw [← mem_sortMembers distinct, sorted, mem_sortMembers distinct'] at hm
  exact missing (List.mem_map_of_mem hm)

/-- Optional values are written so that they can be told apart, if the values
can and none of them is null. -/
theorem ofOption_injective {α : Type} {f : α → Json} (h : Function.Injective f)
    (given : ∀ a, f a ≠ .null) : Function.Injective (ofOption f) := by
  intro x y same
  cases x with
  | none =>
    cases y with
    | none => rfl
    | some b => exact absurd same.symm (given b)
  | some a =>
    cases y with
    | none => exact absurd same (given a)
    | some b => exact congrArg some (h same)

end Json

end VoiceDialogue
