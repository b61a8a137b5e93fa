import SceneScript.Kinds.Operators
import SceneScript.Proofs.Expressions
import SceneScript.Proofs.Levels
import SceneScript.Proofs.Quiet

/-!
# Rendering operators

Blocks with rules for operators, connected through all their inputs down to blocks that stand for
identifiers, hold an expression. The code of such a block in a context is the code of the
expression, so no two expressions have the same code in the same context.

* `Program.Holds`: the expression that a block holds.
* `Program.Feeds.run_valueCode`: the code in an input is that of the expression.
* **`valueCode_unambiguous`**: equal codes in the same context come from equal expressions.
-/

namespace SceneScript

/-! ## Rules step by step -/

theorem Rule.conditional_eq : conditional = .value (.value "A" .conditional fun a =>
    .value "B" .conditional fun b => .value "C" .conditional fun c =>
      .done (a.getD "_" ++ " ? " ++ b.getD "_" ++ " : " ++ c.getD "_", .conditional)) :=
  rfl

theorem Rule.application_eq : application = .value (.value "A" .none fun a =>
    .done ("f(" ++ a.getD "_" ++ ")", .functionCall)) :=
  rfl

namespace Program

/-! ## Blocks that hold expressions -/

section

variable (p : Program)

/-- The block of a reference is enabled, and its kind has the given rule. -/
def HasRule (r : Ref) (b : Block) (rule : Rule) : Prop :=
  p.workspace.block? r = some b ∧ b.enabled = true ∧ ∃ d, p.definition? b = some d ∧ d.rule = rule

/-- A block hangs in an input that does not refuse it. -/
def Connects (b : Block) (input : String) (r : Ref) : Prop :=
  b.valueInput input = some r ∧ ∃ child, p.workspace.block? r = some child ∧
    (p.options.checkSockets && p.refuses b input child) = false

/-- The expression that a block holds if it is asked for its code while the names `s` are in use.
Afterwards the names `t` are in use. A block at the bottom can have any rule that gives an
identifier without asking for an input. -/
inductive Holds : Scope → Ref → Expression → Scope → Prop
  | word {s t : Scope} {r : Ref} {b : Block} {plan : Plan (String × Precedence)} {name : Word}
    (hb : p.HasRule r b (.value plan))
    (hname : ∀ inner, (p.interpret p.variableField inner b plan).run.run s =
      (.ok (some (name.val, .atomic)), t)) :
    Holds s r (.word name) t
  | conditional {s s' s'' t : Scope} {r ra rb rc : Ref} {b : Block} {x y z : Expression}
    (hb : p.HasRule r b .conditional) (ha : p.Connects b "A" ra) (hx : Holds s ra x s')
    (hb' : p.Connects b "B" rb) (hy : Holds s' rb y s'') (hc : p.Connects b "C" rc)
    (hz : Holds s'' rc z t) : Holds s r (.conditional x y z) t
  | member {s t : Scope} {r ra : Ref} {b : Block} {x : Expression} {name : Word}
    (hb : p.HasRule r b .member) (ha : p.Connects b "A" ra) (hx : Holds s ra x t)
    (hname : p.fieldText b "NAME" = name.val) : Holds s r (.member x name) t
  | application {s t : Scope} {r ra : Ref} {b : Block} {x : Expression}
    (hb : p.HasRule r b .application) (ha : p.Connects b "A" ra) (hx : Holds s ra x t) :
    Holds s r (.application x) t

/-- An expression hangs in an input. -/
def Feeds (b : Block) (input : String) (s : Scope) (e : Expression) (t : Scope) : Prop :=
  ∃ r, p.Connects b input r ∧ p.Holds s r e t

end

/-! ## Their code -/

variable {p : Program} {inner : Ref → Gen Fragment} {b : Block} {r : Ref} {s t : Scope}

theorem run_block (h : p.workspace.block? r = some b) :
    (p.block r : Gen Block).run.run s = (.ok b, s) := by
  rw [block, h]
  rfl

theorem run_valueCode {input code : String} {precedence : Precedence}
    (hconnects : p.Connects b input r)
    (hinner : (inner r).run.run s = (.ok (.value code precedence), t)) (hne : code ≠ "")
    (outer : Precedence) : (p.valueCode inner b input outer).run.run s =
      (.ok (some (precedence.wrap code outer)), t) := by
  obtain ⟨hinput, child, hchild, haccepts⟩ := hconnects
  have hempty : code.isEmpty = false := by simpa using hne
  rw [valueCode, hinput]
  dsimp only
  rw [run_bind_gen, run_block hchild]
  dsimp only
  rw [if_neg (by simp [haccepts]), run_bind_gen, hinner]
  dsimp only
  rw [if_neg (by simp [hempty])]
  rfl

theorem run_fragmentStep {plan : Plan (String × Precedence)} {code : String}
    {precedence : Precedence} (hb : p.HasRule r b (.value plan))
    (hplan : (p.interpret p.variableField inner b plan).run.run s =
      (.ok (some (code, precedence)), t)) :
    (p.fragmentStep p.variableField inner r).run.run s = (.ok (.value code precedence), t) := by
  obtain ⟨hblock, henabled, d, hd, hrule⟩ := hb
  rw [fragmentStep, run_bind_gen, run_block hblock]
  dsimp only
  rw [if_neg (by simp [henabled]), hd]
  dsimp only
  rw [hrule, applyRule, run_bind_gen, hplan]
  rfl

theorem run_interpret_value {α : Type} {input : String} {outer : Precedence}
    {next : Option String → Plan α} {code : Option String}
    (h : (p.valueCode inner b input outer).run.run s = (.ok code, t)) :
    (p.interpret p.variableField inner b (.value input outer next)).run.run s =
      (p.interpret p.variableField inner b (next code)).run.run t := by
  rw [interpret, run_bind_gen, h]

/-- A block that holds an expression has its code. -/
theorem Holds.run_fragmentWithin {e : Expression} (h : p.Holds s r e t) :
    ∀ levels, e.height ≤ levels →
      (p.fragmentWithin levels r : Gen Fragment).run.run s =
        (.ok (.value e.code e.precedence), t) := by
  induction h with
  | word hb hname =>
    rintro (_ | levels) hlevels
    · cases hlevels
    · exact run_fragmentStep hb (hname _)
  | @conditional _ _ _ _ _ _ _ _ _ x y z hb ha _ hb' _ hc _ ihx ihy ihz =>
    rintro (_ | levels) hlevels
    · cases hlevels
    rw [Expression.height] at hlevels
    have hx := run_valueCode ha (ihx levels (by omega)) x.code_ne_empty .conditional
    have hy := run_valueCode hb' (ihy levels (by omega)) y.code_ne_empty .conditional
    have hz := run_valueCode hc (ihz levels (by omega)) z.code_ne_empty .conditional
    rw [Rule.conditional_eq] at hb
    rw [fragmentWithin_succ]
    refine run_fragmentStep hb ?_
    rw [run_interpret_value hx, run_interpret_value hy, run_interpret_value hz]
    rfl
  | @member _ _ _ _ _ x _ hb ha _ hname ihx =>
    rintro (_ | levels) hlevels
    · cases hlevels
    have hx := run_valueCode ha (ihx levels (Nat.le_of_succ_le_succ hlevels)) x.code_ne_empty .member
    refine run_fragmentStep hb ((run_interpret_value hx).trans ?_)
    rw [Expression.code, ← hname]
    rfl
  | @application _ _ _ _ _ x hb ha _ ihx =>
    rintro (_ | levels) hlevels
    · cases hlevels
    have hx := run_valueCode ha (ihx levels (Nat.le_of_succ_le_succ hlevels)) x.code_ne_empty .none
    rw [Rule.application_eq] at hb
    rw [fragmentWithin_succ]
    refine run_fragmentStep hb ?_
    rw [run_interpret_value hx, Expression.code]
    rfl

/-! ## Enough levels -/

theorem HasRule.unique {b' : Block} {rule rule' : Rule} (h : p.HasRule r b rule)
    (h' : p.HasRule r b' rule') : b = b' ∧ rule = rule' := by
  obtain ⟨hb, -, d, hd, rfl⟩ := h
  obtain ⟨hb', -, d', hd', rfl⟩ := h'
  obtain rfl : b = b' := Option.some.inj (hb.symm.trans hb')
  obtain rfl : d = d' := Option.some.inj (hd.symm.trans hd')
  exact ⟨rfl, rfl⟩

theorem Connects.unique {input : String} {r' : Ref} (h : p.Connects b input r)
    (h' : p.Connects b input r') : r = r' :=
  Option.some.inj (h.1.symm.trans h'.1)

/-- A rule that asks for an input in which a block hangs depends on the code of that block. -/
theorem not_word_of_connects {input : String} {outer : Precedence} {found : String × Precedence}
    {next : Option String → Plan (String × Precedence)} (h : p.Connects b input r) :
    ¬ ∀ inner, (p.interpret p.variableField inner b (.value input outer next)).run.run s =
      (.ok (some found), t) := by
  intro hword
  obtain ⟨hinput, child, hchild, haccepts⟩ := h
  have hrun := hword fun _ => throw .cyclic
  have hfails : (p.valueCode (fun _ => throw .cyclic) b input outer).run.run s =
      (.error .cyclic, s) := by
    rw [valueCode, hinput]
    dsimp only
    rw [run_bind_gen, run_block hchild]
    dsimp only
    rw [if_neg (by simp [haccepts])]
    rfl
  rw [interpret, run_bind_gen, hfails] at hrun
  cases hrun

/-- A block at the bottom holds nothing but identifiers. -/
theorem Holds.height_eq_one {plan : Plan (String × Precedence)} {found : String × Precedence}
    {e : Expression} {s' t' : Scope} (h : p.Holds s r e t) (hb : p.HasRule r b (.value plan))
    (hword : ∀ inner, (p.interpret p.variableField inner b plan).run.run s' =
      (.ok (some found), t')) :
    e.height = 1 := by
  cases h with
  | word => rfl
  | conditional hb' ha | member hb' ha | application hb' ha =>
    obtain ⟨rfl, hrule⟩ := hb.unique hb'
    cases hrule
    exact absurd hword (not_word_of_connects ha)

/-- How high the expression in a block is depends on the block alone. -/
theorem Holds.height_unique {e : Expression} (h : p.Holds s r e t) :
    ∀ {s' t' : Scope} {e' : Expression}, p.Holds s' r e' t' → e.height = e'.height := by
  induction h with
  | word hb hname => exact fun h' => (h'.height_eq_one hb hname).symm
  | conditional hb ha hx hb' hy hc hz ihx ihy ihz =>
    intro s' t' e' h'
    cases h' with
    | word hb₂ hname => exact (Holds.conditional hb ha hx hb' hy hc hz).height_eq_one hb₂ hname
    | conditional hb₂ ha₂ hx₂ hb₂' hy₂ hc₂ hz₂ =>
      obtain ⟨rfl, -⟩ := hb.unique hb₂
      obtain rfl := ha.unique ha₂
      obtain rfl := hb'.unique hb₂'
      obtain rfl := hc.unique hc₂
      rw [Expression.height, Expression.height, ihx hx₂, ihy hy₂, ihz hz₂]
    | member hb₂ | application hb₂ => cases (hb.unique hb₂).2
  | member hb ha hx hname ihx =>
    intro s' t' e' h'
    cases h' with
    | word hb₂ hname₂ => exact (Holds.member hb ha hx hname).height_eq_one hb₂ hname₂
    | member hb₂ ha₂ hx₂ =>
      obtain ⟨rfl, -⟩ := hb.unique hb₂
      obtain rfl := ha.unique ha₂
      rw [Expression.height, Expression.height, ihx hx₂]
    | conditional hb₂ | application hb₂ => cases (hb.unique hb₂).2
  | application hb ha hx ihx =>
    intro s' t' e' h'
    cases h' with
    | word hb₂ hname₂ => exact (Holds.application hb ha hx).height_eq_one hb₂ hname₂
    | application hb₂ ha₂ hx₂ =>
      obtain ⟨rfl, -⟩ := hb.unique hb₂
      obtain rfl := ha.unique ha₂
      rw [Expression.height, Expression.height, ihx hx₂]
    | conditional hb₂ | member hb₂ => cases (hb.unique hb₂).2

/-- Different blocks, as many as a height says, that hold expressions of at most this height. -/
structure Descends (p : Program) (height : Nat) (path : List Ref) : Prop where
  length : path.length = height
  nodup : path.Nodup
  held : ∀ q ∈ path, ∃ s e t, p.Holds s q e t ∧ e.height ≤ height

theorem Holds.descends_cons {e : Expression} {height : Nat} {path : List Ref}
    (h : p.Holds s r e t) (hheight : e.height = height + 1) (hpath : p.Descends height path) :
    p.Descends e.height (r :: path) where
  length := by rw [List.length_cons, hpath.length, hheight]
  nodup := by
    -- The block is not met again further down, where expressions are lower.
    refine List.nodup_cons.2 ⟨fun hmem => ?_, hpath.nodup⟩
    obtain ⟨s', e', t', h', hle⟩ := hpath.held r hmem
    have hsame := h.height_unique h'
    omega
  held := by
    intro q hq
    rcases List.mem_cons.1 hq with rfl | hq
    · exact ⟨s, e, t, h, Nat.le_refl _⟩
    · obtain ⟨s', e', t', h', hle⟩ := hpath.held q hq
      exact ⟨s', e', t', h', by omega⟩

theorem Holds.exists_descends {e : Expression} (h : p.Holds s r e t) :
    ∃ path, p.Descends e.height path := by
  induction h with
  | word hb hname =>
    have hempty : p.Descends 0 [] :=
      { length := rfl, nodup := List.nodup_nil, held := fun q hq => absurd hq List.not_mem_nil }
    exact ⟨_, (Holds.word hb hname).descends_cons rfl hempty⟩
  | @conditional _ _ _ _ _ _ _ _ _ x y z hb ha hx hb' hy hc hz ihx ihy ihz =>
    have hchild : ∃ path, p.Descends (max x.height (max y.height z.height)) path := by
      rcases Nat.le_total (max y.height z.height) x.height with hle | hle
      · rwa [Nat.max_eq_left hle]
      · rw [Nat.max_eq_right hle]
        rcases Nat.le_total z.height y.height with hle | hle
        · rwa [Nat.max_eq_left hle]
        · rwa [Nat.max_eq_right hle]
    obtain ⟨path, hpath⟩ := hchild
    exact ⟨_, (Holds.conditional hb ha hx hb' hy hc hz).descends_cons rfl hpath⟩
  | member hb ha hx hname ihx =>
    obtain ⟨path, hpath⟩ := ihx
    exact ⟨_, (Holds.member hb ha hx hname).descends_cons rfl hpath⟩
  | application hb ha hx ihx =>
    obtain ⟨path, hpath⟩ := ihx
    exact ⟨_, (Holds.application hb ha hx).descends_cons rfl hpath⟩

theorem Holds.lt_size {e : Expression} (h : p.Holds s r e t) : r < p.workspace.size := by
  cases h with
  | word hb | conditional hb | member hb | application hb => exact Workspace.lt_size_of_block? hb.1

/-- An expression is no higher than there are blocks. -/
theorem Holds.height_le_size {e : Expression} (h : p.Holds s r e t) :
    e.height ≤ p.workspace.size := by
  obtain ⟨path, hpath⟩ := h.exists_descends
  have hsubset : path ⊆ List.range p.workspace.size := by
    intro q hq
    obtain ⟨s', e', t', h', -⟩ := hpath.held q hq
    exact List.mem_range.2 h'.lt_size
  have hlength := (hpath.nodup.subperm hsubset).length_le
  rwa [hpath.length, List.length_range] at hlength

/-- **The code in an input** in which an expression hangs is that of the expression. -/
theorem Feeds.run_valueCode {input : String} {e : Expression} (h : p.Feeds b input s e t)
    (outer : Precedence) : (p.valueCode p.fragment b input outer).run.run s =
      (.ok (some (e.codeIn outer)), t) := by
  obtain ⟨r, hconnects, hholds⟩ := h
  have hlevels : e.height ≤ p.maxLevels := Nat.le_succ_of_le hholds.height_le_size
  exact Program.run_valueCode hconnects (hholds.run_fragmentWithin _ hlevels) e.code_ne_empty outer

/-- A block that stands for a declared variable holds the identifier of the variable. -/
theorem holds_word_of_declared {field : String} {v : Variable} {name : Word} (hs : s.Steady p)
    (hb : p.HasRule r b (.value (.identifier field fun name => .done (name, .atomic))))
    (hset : (b.fields.get? field).bind FieldValue.reference? = some v.id)
    (hv : v ∈ p.workspace.declared) (hname : p.identifierOf v = name.val) :
    p.Holds s r (.word name) s := by
  have hfield : (p.variableField b field : Gen String).run.run s = (.ok name.val, s) := by
    rw [variableField, hset]
    dsimp only
    rw [run_resolve, hs.resolve_eq hv, hname]
  refine .word hb fun inner => ?_
  rw [interpret, run_bind_gen, hfield]
  rfl

end Program

/-- **Rendering is unambiguous.** An expression that hangs in an input has a code there, this code is
read back as the expression, and so a different expression has a different code in the same context,
be it in the same program or in another one. -/
theorem valueCode_unambiguous {p p' : Program} {b b' : Block} {input input' : String}
    {s s' t t' : Scope} {e e' : Expression} (h : p.Feeds b input s e t)
    (h' : p'.Feeds b' input' s' e' t') (outer : Precedence) :
    ∃ text text', (p.valueCode p.fragment b input outer).run.run s = (.ok (some text), t) ∧
      (p'.valueCode p'.fragment b' input' outer).run.run s' = (.ok (some text'), t') ∧
        Expression.read? text = some e ∧ Expression.read? text' = some e' ∧
          (text = text' → e = e') := by
  have hread := e.read?_codeIn outer
  have hread' := e'.read?_codeIn outer
  refine ⟨_, _, h.run_valueCode outer, h'.run_valueCode outer, hread, hread', fun htext => ?_⟩
  rw [htext, hread'] at hread
  exact (Option.some.inj hread).symm

/-- Kinds for the three operators, with inputs that take any value. -/
def operatorKind (kind : String) (inputs : List String) (rule : Rule) : Definition where
  shape :=
    { kind
      message := ""
      args := inputs.map fun input => .input input (.value .any)
      output := some .shape
      category := .values
      tooltip := ""
      inputsInline := true }
  rule

/-- A block of an operator, or of a variable. -/
def operatorBlock (kind : String) (fields : List (String × FieldValue))
    (inputs : List (String × Option Ref)) : Block :=
  { id := kind, kind, fields := .ofList fields, values := .ofList inputs,
    linkage := .expression .shape }

/-- The outermost block of `f((x ? y : f(x)).size)`. -/
def outerBlock : Block :=
  operatorBlock "call" [] [("A", some 1)]

/-- The block of `x ? y : f(x)`. -/
def choiceBlock : Block :=
  operatorBlock "choice" [] [("A", some 3), ("B", some 4), ("C", some 5)]

/-- The blocks of `f((x ? y : f(x)).size)`. The block of `x` hangs in two inputs. -/
def choiceProgram : Program where
  workspace :=
    { blocks := #[
        outerBlock,
        operatorBlock "member" [("NAME", .text "size")] [("A", some 2)],
        choiceBlock,
        operatorBlock "get_shape" [("VAR", .reference "1")] [],
        operatorBlock "get_shape" [("VAR", .reference "2")] [],
        operatorBlock "call" [] [("A", some 3)]]
      declared := [⟨"1", "x", .shape⟩, ⟨"2", "y", .shape⟩] }
  registry :=
    Registry.empty.registerAll [operatorKind "call" ["A"] .application,
      operatorKind "member" ["A"] .member, operatorKind "choice" ["A", "B", "C"] .conditional,
      Kinds.getter "get_shape" .shape "shape_1" ""]

/-- The expression `f(x)`. -/
def callExpression : Expression :=
  .application (.word ⟨"x", by decide⟩)

/-- The expression `(x ? y : f(x)).size`. -/
def choiceExpression : Expression :=
  .member (.conditional (.word ⟨"x", by decide⟩) (.word ⟨"y", by decide⟩) callExpression)
    ⟨"size", by decide⟩

theorem holds_x_choiceProgram : choiceProgram.Holds choiceProgram.initialScope 3
    (.word ⟨"x", by decide⟩) choiceProgram.initialScope := by
  refine Program.holds_word_of_declared (v := ⟨"1", "x", .shape⟩) (Program.steady_initialScope _)
    ⟨rfl, rfl, _, rfl, rfl⟩ rfl ?_ ?_
  · decide
  · decide +kernel

theorem holds_y_choiceProgram : choiceProgram.Holds choiceProgram.initialScope 4
    (.word ⟨"y", by decide⟩) choiceProgram.initialScope := by
  refine Program.holds_word_of_declared (v := ⟨"2", "y", .shape⟩) (Program.steady_initialScope _)
    ⟨rfl, rfl, _, rfl, rfl⟩ rfl ?_ ?_
  · decide
  · decide +kernel

theorem holds_call_choiceProgram : choiceProgram.Holds choiceProgram.initialScope 5
    callExpression choiceProgram.initialScope :=
  .application ⟨rfl, rfl, _, rfl, rfl⟩ ⟨rfl, _, rfl, rfl⟩ holds_x_choiceProgram

theorem holds_member_choiceProgram : choiceProgram.Holds choiceProgram.initialScope 1
    choiceExpression choiceProgram.initialScope := by
  have hrule : choiceProgram.HasRule 2 choiceBlock .conditional := ⟨rfl, rfl, _, rfl, rfl⟩
  have hx : choiceProgram.Connects choiceBlock "A" 3 := ⟨rfl, _, rfl, rfl⟩
  have hy : choiceProgram.Connects choiceBlock "B" 4 := ⟨rfl, _, rfl, rfl⟩
  have hcall : choiceProgram.Connects choiceBlock "C" 5 := ⟨rfl, _, rfl, rfl⟩
  refine .member ⟨rfl, rfl, _, rfl, rfl⟩ ⟨rfl, _, rfl, rfl⟩ ?_ rfl
  exact .conditional hrule hx holds_x_choiceProgram hy holds_y_choiceProgram hcall
    holds_call_choiceProgram

theorem feeds_outerBlock : choiceProgram.Feeds outerBlock "A" choiceProgram.initialScope
    choiceExpression choiceProgram.initialScope :=
  ⟨1, ⟨rfl, _, rfl, rfl⟩, holds_member_choiceProgram⟩

theorem feeds_choiceBlock : choiceProgram.Feeds choiceBlock "C" choiceProgram.initialScope
    callExpression choiceProgram.initialScope :=
  ⟨5, ⟨rfl, _, rfl, rfl⟩, holds_call_choiceProgram⟩

/-- The two expressions in the blocks of `f((x ? y : f(x)).size)` have different codes. -/
theorem valueCode_unambiguous_choiceProgram :
    choiceProgram.Feeds outerBlock "A" choiceProgram.initialScope choiceExpression
        choiceProgram.initialScope ∧
      choiceProgram.Feeds choiceBlock "C" choiceProgram.initialScope callExpression
          choiceProgram.initialScope ∧
        ∃ text text', (choiceProgram.valueCode choiceProgram.fragment outerBlock "A" .none).run.run
              choiceProgram.initialScope = (.ok (some text), choiceProgram.initialScope) ∧
            (choiceProgram.valueCode choiceProgram.fragment choiceBlock "C" .none).run.run
                choiceProgram.initialScope = (.ok (some text'), choiceProgram.initialScope) ∧
              Expression.read? text = some choiceExpression ∧
                Expression.read? text' = some callExpression ∧ text ≠ text' := by
  obtain ⟨text, text', hrun, hrun', hread, hread', hsame⟩ :=
    valueCode_unambiguous feeds_outerBlock feeds_choiceBlock .none
  refine ⟨feeds_outerBlock, feeds_choiceBlock, text, text', hrun, hrun', hread, hread', ?_⟩
  exact fun htext => absurd (hsame htext) (by decide)

end SceneScript
