/-
VoiceDialogue/Proofs/Render/Branches.lean

The branches of a conditional, and which of them runs.

A voice browser reads a conditional from a flat list of children: an `elseif`
or an `else` closes the branch before it and opens the next one
(`Element.branches`), and the first branch whose guard admits the reported
code runs (`Element.running?`).  The renderer writes such a list in one pass,
the first condition on the tag of the conditional and the others between the
children.

`branchesFrom_layout` says that branches written one after the other are read
back as they were.  From there `branches_outcomeBranches` lists the branches of
a supervised transfer, and `running?_outcomeBranches` says which one runs:
that of the reported code if it is one of the eight, and the last one for any
other.  That codes are told apart is `Outcome.find?_all`.
-/
import VoiceDialogue.Proofs.Render.Shape
import VoiceDialogue.Proofs.Turn.Outcome

namespace VoiceDialogue

/-! ### Conditionals -/

/-- When a branch of a conditional runs. -/
inductive Guard
  /-- If a condition holds. -/
  | condition (text : String)
  /-- If no branch before it runs. -/
  | otherwise

/-- A branch of a conditional: when it runs, and what it runs. -/
structure Branch where
  guard : Guard
  body : List Node

/-- The condition on a tag. -/
def Element.guard (e : Element) : Guard := .condition ((e.attribute? "cond").getD "")

/-- The guard of the branch that a child of a conditional opens, unless the
child belongs to the branch that is open. -/
def Node.opens? : Node → Option Guard
  | .text _ => none
  | .element e =>
      if e.name = "elseif" then some e.guard
      else if e.name = "else" then some .otherwise
      else none

/-- Cuts children into branches, where a branch is open and has a body so
far. -/
def branchesFrom (guard : Guard) (body : List Node) : List Node → List Branch
  | [] => [⟨guard, body⟩]
  | c :: rest =>
      match c.opens? with
      | some next => ⟨guard, body⟩ :: branchesFrom next [] rest
      | none => branchesFrom guard (body ++ [c]) rest

/-- The branches of a conditional. -/
def Element.branches (e : Element) : List Branch := branchesFrom e.guard [] e.children

/-! ### Layout -/

/-- Whether no child opens a branch. -/
def Unbranched (cs : List Node) : Prop := ∀ c ∈ cs, c.opens? = none

/-- The child that opens a branch. -/
def Guard.opening : Guard → Node
  | .condition text => .element ((Element.new "elseif").setAttribute "cond" text)
  | .otherwise => .element (.new "else")

/-- The children that make up a branch after the first. -/
def Branch.layout (b : Branch) : List Node := b.guard.opening :: b.body

theorem Element.guard_setAttribute_cond (e : Element) (text : String) :
    (e.setAttribute "cond" text).guard = .condition text := by
  have value : (e.setAttribute "cond" text).attribute? "cond" = some text := by
    rw [attribute?, attributes_setAttribute, Attributes.get?_set, if_pos rfl]
  rw [guard, value, Option.getD_some]

theorem Guard.opens?_opening (g : Guard) : g.opening.opens? = some g := by
  cases g with
  | condition text =>
    show some ((Element.new "elseif").setAttribute "cond" text).guard = _
    rw [Element.guard_setAttribute_cond]
  | otherwise => rfl

/-- Children that open nothing go to the branch that is open. -/
theorem branchesFrom_append (g : Guard) (body : List Node) {cs : List Node} (h : Unbranched cs)
    (rest : List Node) : branchesFrom g body (cs ++ rest) = branchesFrom g (body ++ cs) rest := by
  induction cs generalizing body with
  | nil => rw [List.nil_append, List.append_nil]
  | cons c cs ih =>
    obtain ⟨hc, hcs⟩ := List.forall_mem_cons.1 h
    rw [List.cons_append, branchesFrom, hc]
    show branchesFrom g (body ++ [c]) (cs ++ rest) = _
    rw [ih (body ++ [c]) hcs, List.append_assoc, List.singleton_append]

/-- Branches that are written one after the other are read back. -/
theorem branchesFrom_layout (g : Guard) (body : List Node) {bs : List Branch}
    (h : ∀ b ∈ bs, Unbranched b.body) :
    branchesFrom g body (bs.flatMap Branch.layout) = ⟨g, body⟩ :: bs := by
  induction bs generalizing g body with
  | nil => rfl
  | cons b bs ih =>
    obtain ⟨hb, hbs⟩ := List.forall_mem_cons.1 h
    rw [List.flatMap_cons, Branch.layout, List.cons_append, branchesFrom, b.guard.opens?_opening]
    -- the open branch is closed, and the next one starts without a body
    show ⟨g, body⟩ :: branchesFrom b.guard [] (b.body ++ bs.flatMap Branch.layout) = _
    rw [branchesFrom_append b.guard [] hb, List.nil_append, ih b.guard b.body hbs]

/-! ### Literals and conditions -/

/-- Whether a character stands for itself between single quotes. -/
def isPlain (c : Char) : Bool := c ≠ '\'' && c ≠ '\\' && c ≠ '\n' && c ≠ '\r'

/-- The characters before a closing quote that is the last character, if they
are plain. -/
def untilQuote? : List Char → Option (List Char)
  | [] => none
  | c :: rest =>
      if c = '\'' ∧ rest = [] then some []
      else if isPlain c then (untilQuote? rest).map (c :: ·)
      else none

/-- The value of a string literal in single quotes, if there is nothing in it
to be decoded. -/
def literal? (code : String) : Option String :=
  match code.toList with
  | '\'' :: rest => (untilQuote? rest).map String.ofList
  | _ => none

/-- What is left of some characters after the given ones. -/
def after? : List Char → List Char → Option (List Char)
  | [], cs => some cs
  | p :: ps, c :: cs => if p = c then after? ps cs else none
  | _ :: _, [] => none

/-- The code that a condition compares the result of a transfer with. -/
def comparand? (condition : String) : Option String :=
  match after? "transfer == ".toList condition.toList with
  | none => none
  | some rest => literal? (String.ofList rest)

/-- What an expression comes to after a transfer: the result variable holds
the reported code. -/
def value? (reported expression : String) : Option String :=
  if expression = "transfer" then some reported else literal? expression

/-- Whether a guard admits a reported code. -/
def Guard.admits (reported : String) : Guard → Bool
  | .condition text => comparand? text = some reported
  | .otherwise => true

/-- The branch that runs when a code is reported: the first one whose guard
admits it. -/
def Element.running? (e : Element) (reported : String) : Option Branch :=
  e.branches.find? fun b => b.guard.admits reported

theorem untilQuote?_plain {cs : List Char} (h : ∀ c ∈ cs, isPlain c) :
    untilQuote? (cs ++ ['\'']) = some cs := by
  induction cs with
  | nil => rfl
  | cons c cs ih =>
    obtain ⟨hc, hcs⟩ := List.forall_mem_cons.1 h
    have more : cs ++ ['\''] ≠ [] := by simp
    rw [List.cons_append, untilQuote?, if_neg (fun e => more e.2), if_pos hc, ih hcs,
      Option.map_some]

/-- A plain string between single quotes is a literal with that value. -/
theorem literal?_quoted {s : String} (h : ∀ c ∈ s.toList, isPlain c) :
    literal? ("'" ++ s ++ "'") = some s := by
  have spelled : ("'" ++ s ++ "'").toList = '\'' :: (s.toList ++ ['\'']) := by
    rw [String.toList_append, String.toList_append]
    rfl
  rw [literal?, spelled]
  show (untilQuote? (s.toList ++ ['\''])).map String.ofList = some s
  rw [untilQuote?_plain h, Option.map_some, String.ofList_toList]

theorem after?_append (ps cs : List Char) : after? ps (ps ++ cs) = some cs := by
  induction ps with
  | nil => rfl
  | cons p ps ih => rw [List.cons_append, after?, if_pos rfl, ih]

/-! ### Codes -/

namespace Outcome

/-- Codes need no escapes. -/
theorem isPlain_code (o : Outcome) : ∀ c ∈ o.code.toList, isPlain c := by
  have plain : (all.map code).all (·.toList.all isPlain) = true := rfl
  exact List.all_eq_true.1 (List.all_eq_true.1 plain o.code o.code_mem_codes)

/-- The expression that a document reports for a reported code: the quoted
code if an outcome has it, and the result variable otherwise. -/
def expression (reported : String) : String :=
  if reported ∈ all.map code then "'" ++ reported ++ "'" else "transfer"

/-- The condition of an outcome compares with the code of the outcome. -/
theorem comparand?_outcomeIs (o : Outcome) : comparand? (Render.outcomeIs o) = some o.code := by
  have condition : (Render.outcomeIs o).toList
      = "transfer == ".toList ++ ("'" ++ o.code ++ "'").toList := by
    rw [Render.outcomeIs, ← String.toList_append]
    apply congrArg String.toList
    rw [← String.append_assoc, ← String.append_assoc]
    rfl
  rw [comparand?, condition, after?_append]
  show literal? (String.ofList ("'" ++ o.code ++ "'").toList) = some o.code
  rw [String.ofList_toList, literal?_quoted o.isPlain_code]

/-- What is reported comes to the code that was reported. -/
theorem value?_expression (reported : String) :
    value? reported (expression reported) = some reported := by
  by_cases known : reported ∈ all.map code
  · obtain ⟨o, -, rfl⟩ := List.mem_map.1 known
    have quoted : ∀ k ∈ all.map code, "'" ++ k ++ "'" ≠ "transfer" := by decide
    rw [expression, if_pos known, value?, if_neg (quoted o.code known),
      literal?_quoted o.isPlain_code]
  · rw [expression, if_neg known, value?, if_pos rfl]

end Outcome

/-! ### The branches of a supervised transfer -/

namespace Render

variable {p : Platform}

/-- The children that report an expression and go on. -/
def report (p : Platform) (expression : String) : List Node :=
  [.element (script (p.transferStatusCall expression)), .element (onward p)]

/-- The branch of an outcome that has a code. -/
def outcomeBranch (p : Platform) (o : Outcome) : Branch :=
  ⟨.condition (outcomeIs o), report p ("'" ++ o.code ++ "'")⟩

/-- The branch of every other code. -/
def otherBranch (p : Platform) : Branch := ⟨.otherwise, report p "transfer"⟩

theorem appendReport_eq (expression : String) (e : Element) :
    appendReport p expression e = { e with children := e.children ++ report p expression } := by
  have children : e.children ++ [.element (script (p.transferStatusCall expression))]
      ++ [.element (onward p)] = e.children ++ report p expression := List.append_assoc ..
  rw [← children]
  rfl

/-- One more outcome is one more branch. -/
theorem appendFurther_eq (e : Element) (o : Outcome) :
    appendFurther p e o = { e with children := e.children ++ (outcomeBranch p o).layout } := by
  have children : e.children ++ [(outcomeBranch p o).guard.opening] ++ (outcomeBranch p o).body
      = e.children ++ (outcomeBranch p o).layout := List.append_assoc ..
  rw [appendFurther, appendOutcome, appendReport_eq, ← children]
  rfl

/-- Outcomes in a row are branches in a row. -/
theorem foldl_appendFurther_eq (e : Element) (os : List Outcome) :
    os.foldl (appendFurther p) e =
      { e with children := e.children ++ (os.map (outcomeBranch p)).flatMap Branch.layout } := by
  induction os generalizing e with
  | nil =>
    obtain ⟨name, attributes, children⟩ := e
    rw [List.map_nil, List.flatMap_nil, List.append_nil]
    rfl
  | cons o os ih =>
    rw [List.foldl_cons, ih, appendFurther_eq, List.map_cons, List.flatMap_cons,
      List.append_assoc]

/-- The conditional of a supervised transfer: the condition of the first
outcome is on its tag, and the other branches follow the body of the first. -/
theorem outcomeBranches_eq (p : Platform) :
    outcomeBranches p = ⟨"if", Attributes.empty.set "cond" (outcomeIs .noAnswer),
      (outcomeBranch p .noAnswer).body ++
        (Outcome.all.tail.map (outcomeBranch p) ++ [otherBranch p]).flatMap Branch.layout⟩ := by
  show appendReport p "transfer" ((Outcome.all.tail.foldl (appendFurther p)
    (appendReport p _ ((Element.new "if").setAttribute "cond" (outcomeIs .noAnswer)))).append
      (.new "else")) = _
  rw [appendReport_eq, foldl_appendFurther_eq, appendReport_eq, List.flatMap_append,
    ← List.append_assoc]
  show Element.mk _ _ (_ ++ [(otherBranch p).guard.opening] ++ (otherBranch p).body) = _
  rw [List.append_assoc]
  rfl

/-- One branch for every outcome with a code, and a last one for other codes. -/
theorem branches_outcomeBranches (p : Platform) :
    (outcomeBranches p).branches = Outcome.all.map (outcomeBranch p) ++ [otherBranch p] := by
  have unbranched (expression : String) : Unbranched (report p expression) := by
    intro c hc
    simp only [report, List.mem_cons, List.not_mem_nil, or_false] at hc
    rcases hc with rfl | rfl
    · rw [script_eq]
      rfl
    · rfl
  have bodies : ∀ b ∈ Outcome.all.tail.map (outcomeBranch p) ++ [otherBranch p],
      Unbranched b.body := by
    intro b hb
    rcases List.mem_append.1 hb with hb | hb
    · obtain ⟨o, -, rfl⟩ := List.mem_map.1 hb
      exact unbranched _
    · rw [List.mem_singleton.1 hb]
      exact unbranched _
  have first : ((Element.new "if").setAttribute "cond" (outcomeIs .noAnswer)).guard
      = (outcomeBranch p .noAnswer).guard := Element.guard_setAttribute_cond _ _
  rw [outcomeBranches_eq, Element.branches]
  show branchesFrom ((Element.new "if").setAttribute "cond" (outcomeIs .noAnswer)).guard []
    ((outcomeBranch p .noAnswer).body ++ _) = _
  -- the first branch has its guard on the tag, and nothing opens it
  have body : Unbranched (outcomeBranch p .noAnswer).body := unbranched _
  rw [first, branchesFrom_append _ [] body, List.nil_append, branchesFrom_layout _ _ bodies]
  rfl

/-- Which branch runs: that of the code if an outcome has it, and the last one
otherwise.  What it reports is the expression of the code. -/
theorem running?_outcomeBranches (p : Platform) (reported : String) :
    ∃ b, (outcomeBranches p).running? reported = some b ∧
      b.body = report p (Outcome.expression reported) := by
  have admits (o : Outcome) :
      (outcomeBranch p o).guard.admits reported = decide (o.code = reported) := by
    show decide (comparand? (outcomeIs o) = some reported) = _
    simp only [o.comparand?_outcomeIs, Option.some.injEq]
  have among : (Outcome.all.map (outcomeBranch p)).find? (fun b => b.guard.admits reported)
      = (Outcome.all.find? fun o => o.code = reported).map (outcomeBranch p) := by
    rw [List.find?_map]
    congr
    funext o
    exact admits o
  rw [Element.running?, branches_outcomeBranches, List.find?_append, among, Outcome.find?_all]
  by_cases known : reported ∈ Outcome.all.map Outcome.code
  · obtain ⟨o, ho, rfl⟩ := List.mem_map.1 known
    refine ⟨outcomeBranch p o, ?_, ?_⟩
    · rw [if_pos known, Outcome.ofCode_code ho]
      rfl
    · rw [Outcome.expression, if_pos known]
      rfl
  · refine ⟨otherBranch p, ?_, ?_⟩
    · rw [if_neg known]
      rfl
    · rw [Outcome.expression, if_neg known]
      rfl

end Render

end VoiceDialogue
