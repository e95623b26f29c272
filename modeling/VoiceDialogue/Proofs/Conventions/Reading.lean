/-
VoiceDialogue/Proofs/Conventions/Reading.lean

What the configuration reader makes of a JSON object.

The reader takes the members one by one, with the conventions that can still
come.  What it wants of them can be said of the members as a whole, in any
order: their names are distinct, each one is the key of a convention, and each
value can stand for a name (`Conventions.Accepted`).  A further member is
accepted if its convention is left and the others are accepted with the
conventions that then remain (`accepted_cons_iff`), which is a step of the
reader.  So an object is read exactly if its members are accepted
(`decode_object`), and every convention then has the name of its member, or
the default where it has none (`Conventions.configured`).
-/
import VoiceDialogue.Conventions.Decode
import VoiceDialogue.Proofs.Conventions.Names
import VoiceDialogue.Proofs.Json.Members
import VoiceDialogue.Proofs.Json.Reading

namespace VoiceDialogue

open Json

/-! ### Values that stand for names -/

/-- The text of a value, none if it is no string. -/
def Json.text? : Json → Option String
  | .str s => some s
  | _ => none

/-- Whether a value can stand for a name: a string, or null where the name may
be left out. -/
def Convention.Takes (c : Convention) (v : Json) : Prop :=
  (∃ s, v = .str s) ∨ (c.isOptional ∧ v = .null)

theorem Convention.Takes.settable {c : Convention} {v : Json} (h : c.Takes v) :
    c.isOptional ∨ v.text?.isSome := by
  rcases h with ⟨s, rfl⟩ | ⟨optional, rfl⟩
  · exact .inr rfl
  · exact .inl optional

/-! ### Names of members -/

namespace Json

theorem lookup_of_mem {members : List (String × Json)} (distinct : (memberNames members).Nodup)
    {name : String} {v : Json} (h : (name, v) ∈ members) : members.lookup name = some v := by
  induction members with
  | nil => cases h
  | cons m rest ih =>
    obtain ⟨fresh, distinct⟩ : m.1 ∉ memberNames rest ∧ (memberNames rest).Nodup :=
      List.nodup_cons.1 distinct
    rcases List.mem_cons.1 h with rfl | h
    · exact List.lookup_cons_self
    · have other : (name == m.1) = false := by
        rw [beq_eq_false_iff_ne]
        rintro rfl
        exact fresh (List.mem_map.2 ⟨_, h, rfl⟩)
      rw [List.lookup_cons, other]
      exact ih distinct h

theorem lookup_of_not_mem {members : List (String × Json)} {name : String}
    (h : name ∉ memberNames members) : members.lookup name = none := by
  rw [List.lookup_eq_none_iff]
  intro m hm
  rw [bne_iff_ne]
  rintro rfl
  exact h (List.mem_map_of_mem hm)

/-- With distinct names, the order of the members does not matter. -/
theorem lookup_perm {members members' : List (String × Json)}
    (distinct : (memberNames members).Nodup) (same : members'.Perm members) (name : String) :
    members'.lookup name = members.lookup name := by
  have names : (memberNames members').Perm (memberNames members) := same.map Prod.fst
  by_cases h : name ∈ memberNames members
  · obtain ⟨⟨_, v⟩, hm, rfl⟩ := List.mem_map.1 h
    rw [lookup_of_mem distinct hm, lookup_of_mem (names.nodup_iff.2 distinct) (same.mem_iff.2 hm)]
  · rw [lookup_of_not_mem h, lookup_of_not_mem (mt names.mem_iff.1 h)]

end Json

namespace Conventions

/-! ### Members that are accepted -/

/-- Whether all members are accepted, with the conventions that are left: no
name comes twice, and each is the key of a convention that takes the value. -/
structure Accepted (left : List Convention) (members : List (String × Json)) : Prop where
  distinct : (memberNames members).Nodup
  known : ∀ m ∈ members, ∃ c ∈ left, m.1 = c.key ∧ c.Takes m.2

theorem Accepted.perm {left : List Convention} {members members' : List (String × Json)}
    (h : Accepted left members) (same : members'.Perm members) : Accepted left members' :=
  ⟨(same.map Prod.fst).nodup_iff.2 h.distinct, fun m hm => h.known m (same.mem_iff.1 hm)⟩

/-- One member more: its convention must be left, and is not left for the
others. -/
theorem accepted_cons_iff {left : List Convention} (once : left.Nodup) (m : String × Json)
    (members : List (String × Json)) :
    Accepted left (m :: members) ↔
      ∃ c ∈ left, m.1 = c.key ∧ c.Takes m.2 ∧ Accepted (left.erase c) members := by
  constructor
  · rintro ⟨distinct, known⟩
    obtain ⟨fresh, distinct⟩ : m.1 ∉ memberNames members ∧ (memberNames members).Nodup :=
      List.nodup_cons.1 distinct
    obtain ⟨c, hc, key, takes⟩ := known m List.mem_cons_self
    refine ⟨c, hc, key, takes, distinct, ?_⟩
    intro m' hm'
    obtain ⟨c', hc', key', takes'⟩ := known m' (List.mem_cons_of_mem m hm')
    -- two members for one convention would have one name
    have other : c' ≠ c := by
      rintro rfl
      rw [key, ← key'] at fresh
      exact fresh (List.mem_map_of_mem hm')
    exact ⟨c', (List.mem_erase_of_ne other).2 hc', key', takes'⟩
  · rintro ⟨c, hc, key, takes, distinct, known⟩
    have fresh : m.1 ∉ memberNames members := by
      intro again
      obtain ⟨m', hm', same⟩ := List.mem_map.1 again
      obtain ⟨c', hc', key', -⟩ := known m' hm'
      rw [key', key] at same
      obtain rfl := Convention.key_injective same
      exact once.not_mem_erase hc'
    refine ⟨List.nodup_cons.2 ⟨fresh, distinct⟩, ?_⟩
    refine List.forall_mem_cons.2 ⟨⟨c, hc, key, takes⟩, ?_⟩
    intro m' hm'
    obtain ⟨c', hc', rest⟩ := known m' hm'
    exact ⟨c', List.mem_of_mem_erase hc', rest⟩

/-! ### What members configure -/

/-- The name of a convention after some members: that of its member, and the
one before if it has none. -/
def configured (names : Conventions) (members : List (String × Json)) (c : Convention) :
    Option String :=
  match members.lookup c.key with
  | some v => v.text?
  | none => names.get c

theorem configured_nil (names : Conventions) (c : Convention) :
    configured names [] c = names.get c := rfl

theorem configured_perm (names : Conventions) {members members' : List (String × Json)}
    (distinct : (memberNames members).Nodup) (same : members'.Perm members) (c : Convention) :
    configured names members' c = configured names members c := by
  rw [configured, configured, lookup_perm distinct same]

/-- The first member can be entered at once, if no other member has its name. -/
theorem configured_cons (names : Conventions) {c : Convention} {v : Json} (takes : c.Takes v)
    {members : List (String × Json)} (fresh : c.key ∉ memberNames members) (d : Convention) :
    configured names ((c.key, v) :: members) d = configured (names.set c v.text?) members d := by
  rw [configured, configured, List.lookup_cons]
  by_cases same : d = c
  · -- no later member replaces the name again
    subst same
    rw [beq_self_eq_true, lookup_of_not_mem fresh]
    exact (get_set_self names takes.settable).symm
  · have keys : (d.key == c.key) = false :=
      beq_eq_false_iff_ne.2 fun h => same (Convention.key_injective h)
    rw [keys, get_set_of_ne names v.text? same]

/-! ### Reading a name -/

theorem readName_skipBlank (c : Convention) (cs : List Char) :
    readName c (skipBlank cs) = readName c cs := by
  rw [readName, readName, readOptional, readOptional, readString, readString, skipBlank_skipBlank]

theorem readString_of_str {raw : List Char} {s : String} (h : IsValue raw (.str s))
    (wanted : String) (rest : List Char) : readString wanted (raw ++ rest) = .ok (s, rest) := by
  cases h with
  | @str raw text quoted =>
    have scanned : scanString (raw ++ ['"'] ++ rest) = .ok (text, rest) := by
      rw [List.append_assoc]
      exact scanString_quoted quoted rest
    rw [List.cons_append, List.cons_append, readString, skipBlank_cons rfl]
    simp only [scanned, Scan.mapValue_ok]

theorem readString_of_other {raw : List Char} {v : Json} (h : IsValue raw v)
    (other : ∀ s, v ≠ .str s) (wanted : String) (rest : List Char) :
    ∃ f, readString wanted (raw ++ rest) = .error f := by
  obtain ⟨c, cs, rfl, solid, -, quote, -⟩ := h.front
  rw [List.cons_append, readString, skipBlank_cons solid]
  split
  · next same =>
    obtain ⟨s, string⟩ := quote (List.cons.inj same).1
    exact absurd string (other s)
  · exact ⟨_, rfl⟩

/-- What is not null is read as a string, for an optional name too. -/
theorem readName_of_given {raw : List Char} {v : Json} (h : IsValue raw v) (given : v ≠ .null)
    (c : Convention) (rest : List Char) :
    readName c (raw ++ rest) = (readString "a string" (raw ++ rest)).mapValue some := by
  rw [readName]
  split
  · obtain ⟨a, cs, rfl, solid, -, -, word⟩ := h.front
    rw [List.cons_append, readOptional, skipBlank_cons solid]
    split
    · next same => exact absurd (word (List.cons.inj same).1) given
    · rfl
  · rfl

theorem readName_of_takes {raw : List Char} {v : Json} (h : IsValue raw v) {c : Convention}
    (takes : c.Takes v) (rest : List Char) : readName c (raw ++ rest) = .ok (v.text?, rest) := by
  rcases takes with ⟨s, rfl⟩ | ⟨optional, rfl⟩
  · rw [readName_of_given h nofun, readString_of_str h, Scan.mapValue_ok, text?]
  · cases h
    rw [readName, if_pos optional]
    rfl

theorem readName_of_not_takes {raw : List Char} {v : Json} (h : IsValue raw v) {c : Convention}
    (refused : ¬ c.Takes v) (rest : List Char) : ∃ f, readName c (raw ++ rest) = .error f := by
  have other : ∀ s, v ≠ .str s := fun s same => refused (.inl ⟨s, same⟩)
  obtain ⟨f, fault⟩ := readString_of_other h other "a string" rest
  refine ⟨f, ?_⟩
  by_cases given : v = .null
  · -- null is a fault of its own only where a name is required
    have required : ¬ c.isOptional := fun optional => refused (.inr ⟨optional, given⟩)
    rw [readName, if_neg required, fault, Scan.mapValue_error]
  · rw [readName_of_given h given, fault, Scan.mapValue_error]

/-! ### Reading a member -/

theorem expect_eq_ok_iff (left : List Convention) (name : String) (c : Convention) :
    expect left name = .ok c ↔ c ∈ left ∧ name = c.key := by
  constructor
  · intro h
    rw [expect] at h
    split at h
    · cases h
    · next d found =>
      split at h
      · next hd =>
        obtain rfl := Except.ok.inj h
        have key : d.key = name := by simpa using List.find?_some found
        exact ⟨hd, key.symm⟩
      · cases h
  · rintro ⟨hc, rfl⟩
    rw [expect, Convention.find?_key]
    exact if_pos hc

/-- A member is read as the name for the convention that its key is expected
to stand for. -/
theorem readMember_eq {raw : List Char} {m : String × Json} (h : IsMember raw m)
    {rest tail : List Char} (opened : skipBlank (raw ++ rest) = '"' :: tail) :
    ∃ value blank, IsValue value m.2 ∧ IsBlanks blank ∧
      ∀ left, readMember left tail =
        match expect left m.1 with
        | .error f => .error f
        | .ok c => (readName c (value ++ (blank ++ rest))).mapValue fun x => (c, x) := by
  obtain @⟨before, name, text, between, inner, value, v, after, blank, quoted, blank₁, blank₂,
    isValue, blank₃⟩ := h
  refine ⟨value, after, isValue, blank₃, ?_⟩
  intro left
  simp only [List.append_assoc, List.cons_append] at opened
  rw [skipBlank_append blank, skipBlank_cons rfl] at opened
  obtain rfl := (List.cons.inj opened).2
  rw [readMember, scanString_quoted quoted, Scan.next_ok, skipBlank_append blank₁,
    skipBlank_cons rfl]
  cases expect left (String.ofList text) with
  | error f => rfl
  | ok c =>
    show (readName c (inner ++ (value ++ (after ++ rest)))).mapValue _ =
      (readName c (value ++ (after ++ rest))).mapValue _
    rw [← readName_skipBlank, skipBlank_append blank₂, readName_skipBlank]

variable {left : List Convention} {raw rest tail : List Char} {m : String × Json}

theorem readMember_of_takes (h : IsMember raw m) (opened : skipBlank (raw ++ rest) = '"' :: tail)
    {c : Convention} (hc : c ∈ left) (key : m.1 = c.key) (takes : c.Takes m.2) :
    ∃ blank, IsBlanks blank ∧ readMember left tail = .ok ((c, m.2.text?), blank ++ rest) := by
  obtain ⟨value, blank, isValue, isBlanks, read⟩ := readMember_eq h opened
  refine ⟨blank, isBlanks, ?_⟩
  rw [read, (expect_eq_ok_iff left m.1 c).2 ⟨hc, key⟩]
  simp only [readName_of_takes isValue takes, Scan.mapValue_ok]

theorem readMember_of_untaken (h : IsMember raw m)
    (opened : skipBlank (raw ++ rest) = '"' :: tail)
    (untaken : ∀ c ∈ left, m.1 = c.key → ¬ c.Takes m.2) :
    ∃ f, readMember left tail = .error f := by
  obtain ⟨value, blank, isValue, isBlanks, read⟩ := readMember_eq h opened
  rw [read]
  split
  · exact ⟨_, rfl⟩
  · next c expected =>
    obtain ⟨hc, key⟩ := (expect_eq_ok_iff left m.1 c).1 expected
    obtain ⟨f, fault⟩ := readName_of_not_takes isValue (untaken c hc key) (blank ++ rest)
    exact ⟨f, by rw [fault, Scan.mapValue_error]⟩

/-! ### Reading all members -/

variable {bound : Nat} {names : Conventions} {c : Convention} {x : Option String}
  {blank : List Char}

theorem readMembers_last (isBlanks : IsBlanks blank)
    (member : readMember left tail = .ok ((c, x), blank ++ '\x7d' :: rest)) :
    readMembers (bound + 1) left names tail = .ok (names.set c x, rest) := by
  rw [readMembers, member, Scan.next_ok, skipBlank_append isBlanks]
  rfl

theorem readMembers_more (isBlanks : IsBlanks blank)
    (member : readMember left tail = .ok ((c, x), blank ++ ',' :: rest)) {next : List Char}
    (opened : skipBlank rest = '"' :: next) :
    readMembers (bound + 1) left names tail =
      readMembers bound (left.erase c) (names.set c x) next := by
  rw [readMembers, member, Scan.next_ok, skipBlank_append isBlanks, skipBlank_cons rfl]
  simp only [opened]

/-- Accepted members are read to the closing brace.  The induction is on the
members; each takes one convention and one of the bound. -/
theorem readMembers_of_accepted {members : List (String × Json)} (once : left.Nodup)
    (enough : left.length < bound) (h : IsMembers raw members) (accepted : Accepted left members)
    (names : Conventions) (opened : skipBlank (raw ++ '\x7d' :: rest) = '"' :: tail) :
    ∃ names', readMembers bound left names tail = .ok (names', rest) ∧
      ∀ d, names'.get d = configured names members d := by
  induction members generalizing bound left names raw tail with
  | nil => cases h
  | cons m members ih =>
    obtain ⟨bound, rfl⟩ : ∃ n, bound = n + 1 := ⟨bound - 1, by omega⟩
    obtain ⟨c, hc, key, takes, others⟩ := (accepted_cons_iff once m members).1 accepted
    obtain ⟨k, v⟩ := m
    obtain rfl : k = c.key := key
    have fresh : c.key ∉ memberNames members := (List.nodup_cons.1 accepted.distinct).1
    cases h with
    | last member =>
      obtain ⟨blank, isBlanks, read⟩ := readMember_of_takes member opened hc rfl takes
      refine ⟨names.set c v.text?, readMembers_last isBlanks read, ?_⟩
      intro d
      rw [configured_cons names takes fresh, configured_nil]
    | @more raw _ raw' _ member more =>
      rw [List.append_assoc] at opened
      obtain ⟨blank, isBlanks, read⟩ := readMember_of_takes member opened hc rfl takes
      obtain ⟨next, opened'⟩ := more.front ('\x7d' :: rest)
      -- one convention less is left, so the smaller bound is enough
      have fewer : (left.erase c).length < bound := by
        rw [List.length_erase_of_mem hc]
        have := List.length_pos_of_mem hc
        omega
      obtain ⟨names', read', answers⟩ :=
        ih (once.erase c) fewer more others (names.set c v.text?) opened'
      refine ⟨names', (readMembers_more isBlanks read opened').trans read', ?_⟩
      intro d
      rw [answers, configured_cons names takes fresh]

/-- Members that are not accepted are refused at the first one that no
convention takes. -/
theorem readMembers_of_refused {members : List (String × Json)} (once : left.Nodup)
    (h : IsMembers raw members) (refused : ¬ Accepted left members) (names : Conventions)
    (opened : skipBlank (raw ++ '\x7d' :: rest) = '"' :: tail) :
    ∃ f, readMembers bound left names tail = .error f := by
  induction members generalizing bound left names raw tail with
  | nil => cases h
  | cons m members ih =>
    cases bound with
    | zero => exact ⟨_, rfl⟩
    | succ bound =>
      by_cases first : ∃ c ∈ left, m.1 = c.key ∧ c.Takes m.2
      · obtain ⟨c, hc, key, takes⟩ := first
        have others : ¬ Accepted (left.erase c) members := fun accepted =>
          refused ((accepted_cons_iff once m members).2 ⟨c, hc, key, takes, accepted⟩)
        -- the first member is read, so another one must be wrong
        cases h with
        | last member => exact absurd ⟨List.nodup_nil, nofun⟩ others
        | more member more =>
          rw [List.append_assoc] at opened
          obtain ⟨blank, isBlanks, read⟩ := readMember_of_takes member opened hc key takes
          obtain ⟨next, opened'⟩ := more.front ('\x7d' :: rest)
          rw [readMembers_more isBlanks read opened']
          exact ih (once.erase c) more others (names.set c m.2.text?) opened'
      · have untaken : ∀ c ∈ left, m.1 = c.key → ¬ c.Takes m.2 := fun c hc key takes =>
          first ⟨c, hc, key, takes⟩
        obtain ⟨f, read⟩ : ∃ f, readMember left tail = .error f := by
          cases h with
          | last member => exact readMember_of_untaken member opened untaken
          | more member _ =>
            rw [List.append_assoc] at opened
            exact readMember_of_untaken member opened untaken
        exact ⟨f, by rw [readMembers, read, Scan.next_error]⟩

/-! ### Reading a configuration -/

theorem readConfiguration_brace {before : List Char} (blank : IsBlanks before)
    (cs : List Char) : readConfiguration (before ++ '\x7b' :: cs) = readObject cs := by
  rw [readConfiguration, skipBlank_append blank, skipBlank_cons rfl]
  rfl

/-- An object of accepted members is read to its end. -/
theorem readConfiguration_of_accepted {before : List Char} {members : List (String × Json)}
    (isBlanks : IsBlanks before) (h : IsValue raw (.obj members))
    (accepted : Accepted Convention.all members) (rest : List Char) :
    ∃ names, readConfiguration (before ++ raw ++ rest) = .ok (names, rest) ∧
      ∀ c, names.get c = configured {} members c := by
  cases h with
  | @emptyObj blank isBlanks' =>
    refine ⟨{}, ?_, configured_nil {}⟩
    simp only [List.append_assoc, List.cons_append, List.nil_append]
    rw [readConfiguration_brace isBlanks, readObject, skipBlank_append isBlanks']
    rfl
  | @obj raw members h =>
    obtain ⟨tail, opened⟩ := h.front ('\x7d' :: rest)
    obtain ⟨names, read, answers⟩ :=
      readMembers_of_accepted (by decide) (Nat.lt_succ_self _) h accepted {} opened
    refine ⟨names, ?_, answers⟩
    simp only [List.append_assoc, List.cons_append, List.nil_append]
    rw [readConfiguration_brace isBlanks, readObject, opened]
    exact read

theorem readConfiguration_of_refused {before : List Char} {members : List (String × Json)}
    (isBlanks : IsBlanks before) (h : IsValue raw (.obj members))
    (refused : ¬ Accepted Convention.all members) (rest : List Char) :
    ∃ f, readConfiguration (before ++ raw ++ rest) = .error f := by
  cases h with
  | emptyObj _ => exact absurd ⟨List.nodup_nil, nofun⟩ refused
  | @obj raw members h =>
    obtain ⟨tail, opened⟩ := h.front ('\x7d' :: rest)
    obtain ⟨f, read⟩ := readMembers_of_refused (by decide) h refused {} opened
    refine ⟨f, ?_⟩
    simp only [List.append_assoc, List.cons_append, List.nil_append]
    rw [readConfiguration_brace isBlanks, readObject, opened]
    exact read

variable {text : String} {members : List (String × Json)}

/-- The text of an object is decoded if its members are accepted, and they say
what is named in it. -/
theorem decode_of_accepted (h : IsText text (.obj members))
    (accepted : Accepted Convention.all members) :
    ∃ names, decode text = .ok names ∧ ∀ c, names.get c = configured {} members c := by
  obtain ⟨before, raw, after, parts, blank, value, blank'⟩ := h
  obtain ⟨names, read, answers⟩ := readConfiguration_of_accepted blank value accepted after
  refine ⟨names, ?_, answers⟩
  rw [decode, parts]
  exact whole_of_ok read blank'

/-- The text of an object whose members are not accepted is not decoded. -/
theorem decode_of_refused (h : IsText text (.obj members))
    (refused : ¬ Accepted Convention.all members) : ∃ f, decode text = .error f := by
  obtain ⟨before, raw, after, parts, blank, value, blank'⟩ := h
  obtain ⟨f, read⟩ := readConfiguration_of_refused blank value refused after
  refine ⟨f, ?_⟩
  rw [decode, parts]
  exact whole_of_error read

end Conventions

end VoiceDialogue
