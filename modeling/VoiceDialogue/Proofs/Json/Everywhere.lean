/-
VoiceDialogue/Proofs/Json/Everywhere.lean

Properties that hold all over a JSON value.

`Json.Everywhere p` says that the value itself and every value inside it, at
any depth, has the property `p`.  Two properties matter: that a number is whole
and fits in 64 bits (`Json.InWords`), so that it can be written and read without
a change, and that the members of an object stand in the order of their names,
none of them twice (`Json.Ordered`).
-/
import VoiceDialogue.Proofs.Json.Members

namespace VoiceDialogue

namespace Json

/-! ### The property of a value -/

section

variable (p : Json → Prop)

mutual

/-- Whether a value and all values in it have a property. -/
def Everywhere : Json → Prop
  | .arr items => p (.arr items) ∧ EverywhereIn items
  | .obj members => p (.obj members) ∧ EverywhereOf members
  | v => p v

/-- Whether all items, and all values in them, have a property. -/
def EverywhereIn : List Json → Prop
  | [] => True
  | v :: rest => Everywhere v ∧ EverywhereIn rest

/-- Whether the values of all members, and all values in them, have a property. -/
def EverywhereOf : List (String × Json) → Prop
  | [] => True
  | (_, v) :: rest => Everywhere v ∧ EverywhereOf rest

end

end

variable {p q : Json → Prop}

theorem everywhereIn_iff (items : List Json) :
    EverywhereIn p items ↔ ∀ v ∈ items, v.Everywhere p := by
  induction items with
  | nil => simp [EverywhereIn]
  | cons v rest ih => rw [EverywhereIn, ih, List.forall_mem_cons]

theorem everywhereOf_iff (members : List (String × Json)) :
    EverywhereOf p members ↔ ∀ m ∈ members, m.2.Everywhere p := by
  induction members with
  | nil => simp [EverywhereOf]
  | cons m rest ih => rw [EverywhereOf, ih, List.forall_mem_cons]

theorem everywhere_arr_iff (items : List Json) :
    (arr items).Everywhere p ↔ p (arr items) ∧ ∀ v ∈ items, v.Everywhere p := by
  rw [Everywhere, everywhereIn_iff]

theorem everywhere_obj_iff (members : List (String × Json)) :
    (obj members).Everywhere p ↔ p (obj members) ∧ ∀ m ∈ members, m.2.Everywhere p := by
  rw [Everywhere, everywhereOf_iff]

mutual

theorem Everywhere.imp (h : ∀ v, p v → q v) : (v : Json) → v.Everywhere p → v.Everywhere q
  | .null | .bool _ | .int _ | .float _ | .str _ => h _
  | .arr items => And.imp (h _) (EverywhereIn.imp h items)
  | .obj members => And.imp (h _) (EverywhereOf.imp h members)

theorem EverywhereIn.imp (h : ∀ v, p v → q v) :
    (items : List Json) → EverywhereIn p items → EverywhereIn q items
  | [] => id
  | v :: rest => And.imp (Everywhere.imp h v) (EverywhereIn.imp h rest)

theorem EverywhereOf.imp (h : ∀ v, p v → q v) :
    (members : List (String × Json)) → EverywhereOf p members → EverywhereOf q members
  | [] => id
  | (_, v) :: rest => And.imp (Everywhere.imp h v) (EverywhereOf.imp h rest)

end

/-! ### Numbers and members -/

/-- Whether a value is no number, or a whole one that fits in 64 bits, with or
without a sign. -/
def FitsWord : Json → Prop
  | .int n => -(Nat.pow 2 63 : Int) ≤ n ∧ n < (Nat.pow 2 64 : Int)
  | .float _ => False
  | _ => True

/-- Whether all numbers in a value are whole and fit in 64 bits. -/
abbrev InWords (v : Json) : Prop := v.Everywhere FitsWord

/-- Whether a value is no object, or one whose members are sorted. -/
def SortedHere : Json → Prop
  | .obj members => Sorted members
  | _ => True

/-- Whether the members of all objects in a value are sorted. -/
abbrev Ordered (v : Json) : Prop := v.Everywhere SortedHere

/-- Whether both hold. -/
abbrev Regular (v : Json) : Prop := v.Everywhere fun w => w.FitsWord ∧ w.SortedHere

theorem Regular.inWords {v : Json} (h : v.Regular) : v.InWords :=
  Everywhere.imp (fun _ => And.left) v h

theorem Regular.ordered {v : Json} (h : v.Regular) : v.Ordered :=
  Everywhere.imp (fun _ => And.right) v h

@[simp] theorem regular_null : null.Regular := ⟨trivial, trivial⟩

@[simp] theorem regular_bool (b : Bool) : (bool b).Regular := ⟨trivial, trivial⟩

@[simp] theorem regular_str (s : String) : (str s).Regular := ⟨trivial, trivial⟩

/-- A count of at most 64 bits. -/
theorem regular_ofNat {n : Nat} (h : n < Nat.pow 2 64) : (ofNat n).Regular := by
  refine ⟨⟨?_, ?_⟩, trivial⟩
  · exact Int.le_trans (by decide) (Int.natCast_nonneg n)
  · exact Int.ofNat_lt.2 h

theorem regular_ofOption {α : Type} {f : α → Json} (given : ∀ a, (f a).Regular) (o : Option α) :
    (ofOption f o).Regular := by
  cases o with
  | none => exact regular_null
  | some a => exact given a

theorem regular_arr_map {α : Type} {f : α → Json} (each : ∀ a, (f a).Regular) (as : List α) :
    (arr (as.map f)).Regular := by
  refine (everywhere_arr_iff _).2 ⟨⟨trivial, trivial⟩, ?_⟩
  intro v hv
  obtain ⟨a, -, rfl⟩ := List.mem_map.1 hv
  exact each a

/-- An object that is built from members of distinct names. -/
theorem regular_object {members : List (String × Json)} (distinct : (memberNames members).Nodup)
    (values : ∀ m ∈ members, m.2.Regular) : (object members).Regular := by
  have start : Sorted [] := List.Pairwise.nil
  have sorted : Sorted (sortMembers members) := (foldl_insertMember start distinct).1
  refine (everywhere_obj_iff _).2 ⟨⟨trivial, sorted⟩, ?_⟩
  intro m hm
  exact values m ((mem_sortMembers distinct m).1 hm)

end Json

end VoiceDialogue
