import SceneScript.Proofs.Lines
import SceneScript.Proofs.Script.Denotation
import SceneScript.Proofs.Tags

/-!
# Properties of code that spread

A rule puts code together from the answers to what it asks for. If a property of code spreads, which
is to say that it holds for what stays on one line and is kept when code is put together, then it
holds for the code of all blocks as soon as it holds for the runtime namespace. Handlers are set
apart: no other rule asks for a chain of statements.

* `Spreads`: a property that is kept when code is put together.
* `Plan.Gives`: a plan that asks for no chain and keeps a property.
* `Yields`: a step that hands out names and has a result with a property.
* `gives_of_mem_standard`: all rules but that of handlers keep properties that spread.
* **`yields_fragment`**: the code of every value has a property that spreads.
-/

namespace SceneScript

open Script

/-! ## Putting code together -/

/-- A property of code holds for what stays on one line, and is kept when code is put together. -/
structure Script.Spreads (A : String → Prop) : Prop where
  inline : ∀ {s : String}, Inline s.toList → A s
  append : ∀ {a b : String}, A a → A b → A (a ++ b)

namespace Script.Spreads

variable {A : String → Prop} (h : Spreads A)

include h

theorem quote (text : String) : A (Text.quote text) := h.inline (inline_quote text)

theorem number (x : Double) : A (Literal.number x) := h.inline (inline_number x)

theorem intercalate {sep : String} (hsep : A sep) {codes : List String}
    (hcodes : ∀ code ∈ codes, A code) : A (String.intercalate sep codes) := by
  induction codes with
  | nil => exact h.inline (by simp [Inline])
  | cons code rest ih =>
    rw [List.forall_mem_cons] at hcodes
    cases rest with
    | nil => exact hcodes.1
    | cons next rest =>
      rw [String.intercalate_cons_cons]
      exact h.append (h.append hcodes.1 hsep) (ih hcodes.2)

theorem descriptor (id type : String) {props : List (String × String)}
    (hprops : ∀ prop ∈ props, A prop.1 ∧ A prop.2) : A (Literal.descriptor id type props) := by
  have hcodes : ∀ code ∈ props.map fun prop => prop.1 ++ ": " ++ prop.2, A code := by
    intro code hcode
    obtain ⟨prop, hprop, rfl⟩ := List.mem_map.1 hcode
    obtain ⟨hname, hvalue⟩ := hprops prop hprop
    exact h.append (h.append hname (h.inline (by simp [Inline]))) hvalue
  have hbody := h.intercalate (h.inline (s := ", ") (by simp [Inline])) hcodes
  unfold Literal.descriptor
  dsimp only
  refine h.append (h.append (h.append (h.append (h.append (h.append ?_ (h.quote id)) ?_)
    (h.quote type)) ?_) ?_) ?_
  case refine_4 =>
    split_ifs
    · exact h.inline (by simp [Inline])
    · exact h.append (h.append (h.inline (by simp [Inline])) hbody) (h.inline (by simp [Inline]))
  all_goals exact h.inline (by simp [Inline])

theorem wrap {code : String} (hcode : A code) (inner outer : Precedence) :
    A (inner.wrap code outer) := by
  unfold Precedence.wrap
  split_ifs
  · exact hcode
  · exact h.append (h.append (h.inline (by simp [Inline])) hcode) (h.inline (by simp [Inline]))

theorem callHead {runtime : String} (hruntime : A runtime) (op : Operation) :
    A (callHead runtime op) := by
  have hname := h.inline (inline_of_isIdentifier (isIdentifier_operationName op))
  have hkeyword := h.inline (inline_keyword op)
  refine h.append hkeyword (h.append (h.append (h.append hruntime ?_) hname) ?_)
  all_goals exact h.inline (by simp [Inline])

theorem call {runtime : String} (hruntime : A runtime) (op : Operation) {args : List String}
    (hargs : ∀ arg ∈ args, A arg) : A (op.call runtime args) := by
  have hcodes := h.intercalate (h.inline (s := ", ") (by simp [Inline])) hargs
  rw [call_eq]
  exact h.append (h.append (h.callHead hruntime op) hcodes) (h.inline (by simp [Inline]))

end Script.Spreads

/-! ## Plans -/

namespace Plan

variable {α β : Type}

/-- A plan asks for no chain. If the code that it gets has property `A`, then so has the code that
it hands over to calls, and its result has property `R`. -/
def Gives (A : String → Prop) (R : α → Prop) : Plan α → Prop
  | done result => R result
  | nothing => True
  | value _ _ next => ∀ code : Option String, (∀ c ∈ code, A c) → (next code).Gives A R
  | body _ _ => False
  | identifier _ next | number _ next => ∀ answer, A answer → (next answer).Gives A R
  | text _ next => ∀ s, (next s).Gives A R
  | call args next => (∀ arg ∈ args, A arg) ∧ ∀ code, A code → (next code).Gives A R
  | owner next => ∀ id kind, (next id kind).Gives A R

section Steps

variable {A : String → Prop} {R : α → Prop} {S : β → Prop} {input field type : String}
  {outer : Precedence} {args : List String} {props : List (String × String)}

@[simp] theorem gives_pure {a : α} : (pure a : Plan α).Gives A R ↔ R a := Iff.rfl

@[simp] theorem gives_require_bind {f : String → Plan β} :
    (require input outer >>= f).Gives A S ↔ ∀ code, A code → (f code).Gives A S := by
  refine ⟨fun h code hcode => h (some code) (by simpa using hcode), fun h code hcode => ?_⟩
  cases code with
  | none => trivial
  | some code => exact h code (hcode code rfl)

@[simp] theorem gives_valueOr_bind {default : String} {f : String → Plan β} :
    (valueOr input outer default >>= f).Gives A S ↔
      (∀ code, A code → (f code).Gives A S) ∧ (f default).Gives A S := by
  refine ⟨fun h => ⟨fun code hcode => h (some code) (by simpa using hcode), h none (by simp)⟩,
    fun h code hcode => ?_⟩
  cases code with
  | none => exact h.2
  | some code => exact h.1 code (hcode code rfl)

@[simp] theorem gives_value?_bind {f : Option String → Plan β} :
    (value? input outer >>= f).Gives A S ↔
      ∀ code : Option String, (∀ c ∈ code, A c) → (f code).Gives A S := Iff.rfl

@[simp] theorem gives_identifierIn_bind {f : String → Plan β} :
    (identifierIn field >>= f).Gives A S ↔ ∀ name, A name → (f name).Gives A S := Iff.rfl

@[simp] theorem gives_literal_bind {f : String → Plan β} :
    (literal field >>= f).Gives A S ↔ ∀ s, (f (Text.quote s)).Gives A S := Iff.rfl

@[simp] theorem gives_numberIn_bind {f : String → Plan β} :
    (numberIn field >>= f).Gives A S ↔ ∀ n, A n → (f n).Gives A S := Iff.rfl

@[simp] theorem gives_callWith_bind {f : String → Plan β} : (callWith args >>= f).Gives A S ↔
    (∀ arg ∈ args, A arg) ∧ ∀ code, A code → (f code).Gives A S := Iff.rfl

@[simp] theorem gives_perform_bind {f : String → Plan β} : (perform args >>= f).Gives A S ↔
    (∀ arg ∈ args, A arg) ∧ ∀ code, A code → (f (code ++ ";")).Gives A S := Iff.rfl

@[simp] theorem gives_perform {R : String → Prop} : (perform args).Gives A R ↔
    (∀ arg ∈ args, A arg) ∧ ∀ code, A code → R (code ++ ";") := Iff.rfl

@[simp] theorem gives_owner {next : String → String → Plan α} :
    (owner next).Gives A R ↔ ∀ id kind, (next id kind).Gives A R := Iff.rfl

@[simp] theorem gives_describe {R : String × Precedence → Prop} : (describe type props).Gives A R ↔
    ∀ id : String, String → R (Literal.descriptor id type props, .atomic) := Iff.rfl

end Steps

end Plan

/-- A rule asks for no chain and keeps a property. The code of a statement does not end with the end
of a line. -/
def Rule.Gives (A : String → Prop) : Rule → Prop
  | .statement plan => plan.Gives A fun code => A code ∧ Text.Firm code.toList
  | .value plan => plan.Gives A fun v => A v.1

/-- The texts that the rules of the standard kinds put between the answers. -/
def fixedTexts : List String :=
  [" = ", "; ", ";", "[", ",", "]", "1", "45", "a", "b", "c", "m", "o", "s", "t"]

/-- **All rules but that of handlers** ask for no chain and keep properties that spread. -/
theorem gives_of_mem_standard {A : String → Prop} (h : Spreads A) :
    ∀ d ∈ Registry.standard.definitions, d.kind ≠ "on_click" → d.rule.Gives A := by
  have hfixed : ∀ s ∈ fixedTexts, A s := by
    have hinline : ∀ s ∈ fixedTexts, Inline s.toList := by simp [fixedTexts, Inline]
    exact fun s hs => h.inline (hinline s hs)
  simp only [fixedTexts, List.forall_mem_cons, List.not_mem_nil, false_implies, implies_true,
    and_true] at hfixed
  obtain ⟨hequals, hbetween, hend, hopen, hcomma, hclose, hfixed⟩ := hfixed
  have hcreate : ∀ name value call : String, A name → A value → A call →
      A (name ++ " = " ++ value ++ "; " ++ call ++ ";") := fun _ _ _ hname hvalue hcall =>
    h.append (h.append (h.append (h.append (h.append hname hequals) hvalue) hbetween) hcall) hend
  have hpoint : ∀ x y z : String, A x → A y → A z →
      A ("[" ++ x ++ "," ++ y ++ "," ++ z ++ "]") := fun _ _ _ hx hy hz =>
    h.append (h.append (h.append (h.append (h.append (h.append hopen hx) hcomma) hy) hcomma) hz)
      hclose
  have hfirm := Text.firm_append (b := ";") (.last (by decide) (by decide) (by decide))
  rw [Registry.definitions_standard]
  simp +contextual [Kinds.standard, Definition.kind, Rule.Gives, Kinds.moveCamera,
    Kinds.createLight, Kinds.moveLightAlong, Kinds.setAmbientLightIntensity,
    Kinds.setLightIntensity, Kinds.lightbulb, Kinds.spotlight, Kinds.colourPicker,
    Kinds.colorMaterial, Kinds.textureMaterial, Kinds.setMass, Kinds.createShape,
    Kinds.createShapeAndAddTo, Kinds.moveShapeTowardsShape, Kinds.solid, Kinds.customObject,
    Kinds.onClick, Kinds.setSkyColor, Kinds.coords, Kinds.mathNumber, Kinds.getter, hfixed, hend,
    hcreate, hpoint, hfirm, h.quote, h.append, h.descriptor, ← String.append_assoc,
    -String.toList_append]

/-! ## Steps that hand out names -/

section Yields

variable {α β : Type} {P : α → Prop} {Q : β → Prop} {A : String → Prop}

/-- From sound names, a step has a result with a property, and the names stay sound. -/
def Yields (P : α → Prop) (m : Naming α) : Prop :=
  ∀ s : Scope, s.Sound → P (m.run s).1 ∧ (m.run s).2.Sound

theorem yields_pure {a : α} (h : P a) : Yields P (pure a) := fun _ hs => ⟨h, hs⟩

theorem Yields.bind {m : Naming α} {f : α → Naming β} (h : Yields P m)
    (hf : ∀ a, P a → Yields Q (f a)) : Yields Q (m >>= f) := by
  intro s hs
  obtain ⟨hresult, hsound⟩ := h s hs
  exact hf _ hresult _ hsound

/-- A name that agrees with itself is an identifier. -/
theorem yields_of_agrees (h : Spreads A) {m : Naming String} (hm : Agrees SameName m m) :
    Yields A m := by
  intro s hs
  obtain ⟨-, hsound, -, hfree⟩ := hm s hs
  exact ⟨h.inline (inline_of_isIdentifier hfree.1), hsound⟩

theorem yields_identifier (h : Spreads A) (node : Node) (field : String) :
    Yields A (node.identifier .standard field) := by
  unfold Node.identifier
  cases hreference : (node.fields.lookup field).bind FieldValue.reference? with
  | some id => exact yields_of_agrees h (agrees_resolve id)
  | none =>
    dsimp only
    split
    · next tag initial hkind =>
      have hagrees := agrees_identifier hkind (Node.proper_of_fieldKind? hkind)
      rw [Node.identifier, hreference, hkind] at hagrees
      exact yields_of_agrees h hagrees
    · exact yields_pure (h.inline (by simp [Inline]))

/-- All answers to a plan that asks for no chain have a property. -/
structure Parts.Keep (parts : Parts) (A : String → Prop) : Prop where
  value : ∀ input outer, Yields (fun code => ∀ c ∈ code, A c) (parts.value input outer)
  identifier : ∀ field, Yields A (parts.identifier field)
  number : ∀ field, A (parts.number field)
  call : ∀ args, (∀ arg ∈ args, A arg) → A (parts.call args)

/-- If the answers have a property, then so has the result of a plan that keeps it. -/
theorem Plan.Gives.yields {R : α → Prop} {parts : Parts} (hparts : parts.Keep A) {plan : Plan α}
    (h : plan.Gives A R) : Yields (fun result => ∀ a ∈ result, R a) (plan.run parts).run := by
  induction plan with
  | done result =>
    refine yields_pure fun a ha => ?_
    cases ha
    exact h
  | nothing => exact yields_pure (by simp)
  | value input outer next ih =>
    exact (hparts.value input outer).bind fun code hcode => ih code (h code hcode)
  | body => exact h.elim
  | identifier field next ih =>
    exact (hparts.identifier field).bind fun name hname => ih name (h name hname)
  | text field next ih => exact ih _ (h _)
  | number field next ih => exact ih _ (h _ (hparts.number field))
  | call args next ih => exact ih _ (h.2 _ (hparts.call args h.1))
  | owner next ih => exact ih _ _ (h _ _)

/-- A plan that asks for no chain does not depend on what is in chains. -/
theorem Plan.Gives.run_eq {R : α → Prop} {plan : Plan α} (h : plan.Gives (fun _ => True) R)
    (parts : Parts) (body : String → Naming String) :
    plan.run { parts with body } = plan.run parts := by
  induction plan with
  | done | nothing => rfl
  | value input outer next ih =>
    exact bind_congr fun code => ih code (h code fun _ _ => trivial)
  | body => exact h.elim
  | identifier field next ih => exact bind_congr fun name => ih name (h name trivial)
  | text field next ih => exact ih _ (h _)
  | number field next ih => exact ih _ (h _ trivial)
  | call args next ih => exact ih _ (h.2 _ trivial)
  | owner next ih => exact ih _ _ (h _ _)

end Yields

/-! ## Blocks -/

/-- The code of a fragment has a property. The code of a statement is empty or does not end with the
end of a line. -/
def Fragment.Keeps (A : String → Prop) (statement : Bool) (f : Fragment) : Prop :=
  A f.code ∧ (statement = true → f.code = "" ∨ Text.Firm f.code.toList)

section Blocks

variable {A : String → Prop} (h : Spreads A) {options : ScriptOptions}
  (hruntime : A options.runtime) {node : Node} {enabled statement : Bool}
  {values : List (String × Naming Fragment)}

include h

theorem keeps_of_code_eq {f : Fragment} (hf : f.code = "") : f.Keeps A statement := by
  refine ⟨?_, fun _ => .inl hf⟩
  rw [hf]
  exact h.inline (by simp [Inline])

include hruntime

theorem keep_parts (hvalues : ∀ input, Yields (Fragment.Keeps A false)
      ((values.lookup input).getD (pure (.statement ""))))
    (bodies : List (String × Naming String)) :
    (node.parts .standard options values bodies).Keep A where
  value input outer := by
    refine (hvalues input).bind fun f hf => yields_pure fun code hcode => ?_
    cases f with
    | statement code => cases hcode
    | value code precedence =>
      simp only [Fragment.codeIn?] at hcode
      split_ifs at hcode
      · cases hcode
      · rw [← Option.mem_some_iff.1 hcode]
        exact h.wrap hf.1 precedence outer
  identifier field := yields_identifier h node field
  number field := h.number _
  call args hargs := by
    unfold Node.parts
    dsimp only
    split
    · exact h.call hruntime _ hargs
    · exact h.inline (by simp [Inline])

/-- The code of a block that is no handler keeps a property that spreads. -/
theorem yields_nodeFragment (hvalues : ∀ input, Yields (Fragment.Keeps A false)
      ((values.lookup input).getD (pure (.statement "")))) (bodies : List (String × Naming String))
    {shape : Shape} (hshape : Registry.standard.shape? node.kind = some shape)
    (hplain : enabled = true → node.kind ≠ "on_click") :
    Yields (Fragment.Keeps A shape.isStatement)
      (node.fragment .standard options enabled values bodies) := by
  have hempty : (node.emptyFragment .standard).Keeps A shape.isStatement :=
    keeps_of_code_eq h (node.code_emptyFragment .standard)
  cases enabled with
  | false => exact yields_pure hempty
  | true =>
    obtain ⟨d, hd, rfl⟩ := Option.map_eq_some_iff.1 hshape
    have hmem := Registry.mem_of_get? hd
    have hrule := gives_of_mem_standard h d hmem ((Registry.kind_of_get? hd).symm ▸ hplain rfl)
    have hstatement := Registry.isStatement_of_mem_standard d hmem
    have hparts : (node.parts .standard options values bodies).Keep A :=
      keep_parts h hruntime hvalues bodies
    simp only [Node.fragment, Bool.not_true, Bool.false_eq_true, if_false, hd]
    cases hplan : d.rule with
    | statement plan =>
      rw [hplan] at hrule
      refine (Plan.Gives.yields hparts hrule).bind fun result hresult => ?_
      cases result with
      | none => exact yields_pure (keeps_of_code_eq h rfl)
      | some code =>
        obtain ⟨hcode, hfirm⟩ := hresult code rfl
        exact yields_pure ⟨hcode, fun _ => .inr hfirm⟩
    | value plan =>
      rw [hplan] at hrule hstatement
      refine (Plan.Gives.yields hparts hrule).bind fun result hresult => ?_
      cases result with
      | none => exact yields_pure hempty
      | some v =>
        refine yields_pure ⟨hresult v rfl, fun hvalue => ?_⟩
        rw [hstatement] at hvalue
        cases hvalue

end Blocks

/-- The code of a block that is no handler does not depend on the margin. -/
theorem nodeFragment_margin {options : ScriptOptions} {node : Node} {enabled : Bool}
    {values : List (String × Naming Fragment)} (hplain : enabled = true → node.kind ≠ "on_click")
    (margin : String) (bodies bodies' : List (String × Naming String)) :
    node.fragment .standard { options with indent := margin } enabled values bodies =
      node.fragment .standard options enabled values bodies' := by
  cases enabled with
  | false => rfl
  | true =>
    simp only [Node.fragment, Bool.not_true, Bool.false_eq_true, if_false]
    cases hd : Registry.standard.get? node.kind with
    | none => rfl
    | some d =>
      have hrule := gives_of_mem_standard ⟨fun _ => trivial, fun _ _ => trivial⟩ d
        (Registry.mem_of_get? hd) ((Registry.kind_of_get? hd).symm ▸ hplain rfl)
      dsimp only
      cases hplan : d.rule with
      | statement plan =>
        rw [hplan] at hrule
        have hrun := Plan.Gives.run_eq hrule (node.parts .standard options values bodies')
          (node.parts .standard options values bodies).body
        exact congrArg (fun m : OptionT Naming String => m.run >>= _) hrun
      | value plan =>
        rw [hplan] at hrule
        have hrun := Plan.Gives.run_eq hrule (node.parts .standard options values bodies')
          (node.parts .standard options values bodies).body
        exact congrArg (fun m : OptionT Naming (String × Precedence) => m.run >>= _) hrun

/-! ## Trees -/

theorem ne_onClick_of_value {kind : String} {shape : Shape}
    (hkind : Registry.standard.shape? kind = some shape) (hshape : shape.isStatement = false) :
    kind ≠ "on_click" := by
  rintro rfl
  have honClick : Registry.standard.shape? "on_click" = some Kinds.onClick.shape := by rfl
  rw [honClick] at hkind
  cases hkind
  cases hshape

section Values

variable {A : String → Prop} {options : ScriptOptions}

mutual

/-- **The code of every value has a property that spreads**, if the runtime namespace has it. -/
theorem yields_fragment (h : Spreads A) (hruntime : A options.runtime) : ∀ t : Tree,
    t.Typed false → Yields (Fragment.Keeps A false) (t.fragment .standard options)
  | .none, _ => by
    rw [Tree.fragment]
    exact yields_pure (keeps_of_code_eq h rfl)
  | .block id kind enabled fields values statements next, htyped => by
    obtain ⟨⟨shape, hkind, hshape⟩, hvalues, -⟩ := htyped
    have hinputs := yields_inputFragments h hruntime values hvalues kind
    rw [Tree.fragment, ← hshape]
    exact yields_nodeFragment h hruntime hinputs _ hkind fun _ => ne_onClick_of_value hkind hshape

theorem yields_inputFragments (h : Spreads A) (hruntime : A options.runtime) :
    ∀ values : List (String × Tree), Tree.TypedInputs false values →
    ∀ kind input : String, Yields (Fragment.Keeps A false)
      (((Tree.inputFragments .standard options kind values).lookup input).getD
        (pure (.statement "")))
  | [], _, kind, input => by
    rw [Tree.inputFragments]
    exact yields_pure (keeps_of_code_eq h rfl)
  | (name, t) :: rest, htyped, kind, input => by
    rw [Tree.inputFragments, List.lookup_cons]
    cases input == name
    · exact yields_inputFragments h hruntime rest htyped.2 kind input
    · dsimp only [Option.getD_some]
      split
      · exact yields_pure (keeps_of_code_eq h rfl)
      · exact yields_fragment h hruntime t htyped.1

end

end Values

mutual

/-- The code of a value does not depend on the margin. -/
theorem fragment_margin (options : ScriptOptions) (margin : String) : ∀ t : Tree, t.Typed false →
    t.fragment .standard { options with indent := margin } = t.fragment .standard options
  | .none, _ => by rw [Tree.fragment, Tree.fragment]
  | .block id kind enabled fields values statements next, htyped => by
    obtain ⟨⟨shape, hkind, hshape⟩, hvalues, -⟩ := htyped
    rw [Tree.fragment, Tree.fragment, inputFragments_margin options margin values hvalues kind]
    exact nodeFragment_margin (fun _ => ne_onClick_of_value hkind hshape) margin _ _

theorem inputFragments_margin (options : ScriptOptions) (margin : String) :
    ∀ values : List (String × Tree), Tree.TypedInputs false values → ∀ kind : String,
      Tree.inputFragments .standard { options with indent := margin } kind values =
        Tree.inputFragments .standard options kind values
  | [], _, kind => by rw [Tree.inputFragments, Tree.inputFragments]
  | (name, t) :: rest, htyped, kind => by
    rw [Tree.inputFragments, Tree.inputFragments, fragment_margin options margin t htyped.1,
      inputFragments_margin options margin rest htyped.2 kind]

end

end SceneScript
