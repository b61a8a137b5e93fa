import SceneScript.Proofs.Increments
import SceneScript.Proofs.Script.Listing
import SceneScript.Proofs.Script.Spreading

/-!
# Indentation is layout

Bodies of handlers are split into lines and put together again once for each handler around them.
Still a script is nothing but its listing with margins: the listing is made without any margin, and
with a margin each line of it stands behind as many margins as there are handlers around it.

* `Tree.listing`, `Workspace.listing`: the listing of a tree, of a workspace.
* `codes_eq_listing`: the code of a tree is the code of its listing, whatever the margin is.
* `yields_listing`: the statements of a listing do not end with the end of a line.
* **`lines_script_indented`**: the lines of a script with margins and without.
-/

namespace SceneScript

open Script

/-! ## Listings of workspaces -/

/-- The text of a handler up to its body. -/
def handlerOpening (runtime name : String) : String :=
  runtime ++ ".onClick(" ++ name ++ ", async () => \x7b"

namespace Tree

variable (options : ScriptOptions)

mutual

/-- The listing of a tree's chain. -/
def listing : Tree → Naming Listing
  | none => return .none
  | block id kind enabled fields values statements next => do
    if enabled && kind == "on_click" then
      let name ← (⟨id, kind, fields⟩ : Node).identifier .standard "VAR"
      let body ← ((inputListings statements).lookup "DO").getD (pure .none)
      return .handler (handlerOpening options.runtime name) body (← next.listing)
    else
      let fragment ← (⟨id, kind, fields⟩ : Node).fragment .standard options enabled
        (inputFragments .standard options kind values) []
      let rest ← next.listing
      return if fragment.isEmpty then rest else .statement fragment.code rest

/-- The listings of the chains in inputs. -/
def inputListings : List (String × Tree) → List (String × Naming Listing)
  | [] => []
  | (input, t) :: rest => (input, t.listing) :: inputListings rest

end

/-- The listing of a forest; expressions that hang nowhere are left out. -/
def forestListing : List Tree → Naming Listing
  | [] => return .none
  | t :: rest => do
    if (t.output? .standard).isNone then
      let l ← t.listing options
      return l.append (← forestListing rest)
    else forestListing rest

end Tree

/-- The listing of a workspace. -/
def Workspace.listing (w : Workspace) (options : ScriptOptions) : Listing :=
  match w.forest? with
  | some forest => ((Tree.forestListing options forest).run
      { names := .ofVariables w.declared options.runtime }).1
  | none => .none

/-! ## Handlers -/

section Handlers

variable {options : ScriptOptions}

theorem nodeFragment_onClick (id : String) (fields : List (String × FieldValue))
    (values : List (String × Naming Fragment)) (bodies : List (String × Naming String)) :
    (⟨id, "on_click", fields⟩ : Node).fragment .standard options true values bodies = (do
      let name ← (⟨id, "on_click", fields⟩ : Node).identifier .standard "VAR"
      let body ← (bodies.lookup "DO").getD (pure "")
      return .statement
        (Operation.onClick.call options.runtime [name, Kinds.handler body] ++ ";")) := by
  have hd : Registry.standard.get? "on_click" = some Kinds.onClick :=
    Registry.get?_standard (d := Kinds.onClick) (by simp [Kinds.standard])
  simp only [Node.fragment, Bool.not_true, Bool.false_eq_true, if_false, hd]
  have hop : ∀ args, (Node.parts .standard options (⟨id, "on_click", fields⟩ : Node) values
      bodies).call args = Operation.onClick.call options.runtime args := by
    intro args
    simp only [Node.parts, hd]
    rfl
  simp only [← hop]
  rfl

/-- A handler is what its listing says. -/
theorem call_handler_eq (runtime name margin : String) (codes : List String) :
    Operation.onClick.call runtime
        [name, Kinds.handler (Text.indent margin (String.intercalate "\n" codes))] ++ ";" =
      Listing.handlerCode margin (handlerOpening runtime name) codes := by
  have hcall : ∀ handler, Operation.onClick.call runtime [name, handler] =
      runtime ++ ".onClick(" ++ name ++ ", " ++ handler ++ ")" := by
    intro handler
    simp [Operation.call, Operation.keyword, Operation.isConstructor, Operation.isAsync,
      Operation.name, String.append_assoc]
  rw [hcall]
  unfold Listing.handlerCode Kinds.handler
  dsimp only
  split_ifs
  · rw [← String.toList_inj]
    simp [handlerOpening, Listing.closing]
  · rw [← String.toList_inj]
    simp [handlerOpening, Listing.closing]

end Handlers

/-! ## Code from listings -/

section Codes

variable (options : ScriptOptions) (margin : String)

mutual

/-- **The code of a chain is that of its listing**, whatever the margin is. -/
theorem codes_eq_listing : ∀ t : Tree, t.Typed true →
    t.codes .standard { options with indent := margin } = do
      return (← t.listing options).codes margin
  | .none, _ => by
    rw [Tree.codes, Tree.listing]
    rfl
  | .block id kind enabled fields values statements next, htyped => by
    obtain ⟨-, hvalues, hstatements, hnext⟩ := htyped
    rw [Tree.codes, Tree.listing, codes_eq_listing next hnext]
    by_cases hhandler : (enabled && kind == "on_click") = true
    · rw [Bool.and_eq_true, beq_iff_eq] at hhandler
      obtain ⟨rfl, rfl⟩ := hhandler
      rw [nodeFragment_onClick, lookup_inputBodies_eq statements hstatements "DO"]
      simp only [BEq.rfl, Bool.and_self, if_true, bind_assoc, pure_bind]
      refine bind_congr fun name => bind_congr fun body => bind_congr fun rest => ?_
      have hfirm := Listing.firm_handlerCode margin (handlerOpening options.runtime name)
        (body.codes margin)
      rw [call_handler_eq, if_neg (by simpa [Fragment.isEmpty, Fragment.code] using hfirm.ne_nil)]
      rfl
    · have hplain : enabled = true → (⟨id, kind, fields⟩ : Node).kind ≠ "on_click" := by
        rintro rfl rfl
        exact hhandler rfl
      rw [inputFragments_margin options margin values hvalues kind,
        nodeFragment_margin hplain margin _ []]
      simp only [hhandler, Bool.false_eq_true, if_false, bind_assoc, pure_bind]
      refine bind_congr fun fragment => bind_congr fun rest => ?_
      split_ifs <;> rfl

theorem lookup_inputBodies_eq : ∀ statements : List (String × Tree),
    Tree.TypedInputs true statements → ∀ input : String,
      ((Tree.inputBodies .standard { options with indent := margin } statements).lookup input).getD
        (pure "") = do
      let l ← ((Tree.inputListings options statements).lookup input).getD (pure .none)
      return Text.indent margin (String.intercalate "\n" (l.codes margin))
  | [], _, input => by
    rw [Tree.inputBodies, Tree.inputListings]
    rfl
  | (name, t) :: rest, htyped, input => by
    rw [Tree.inputBodies, Tree.inputListings, List.lookup_cons, List.lookup_cons]
    cases input == name
    · exact lookup_inputBodies_eq rest htyped.2 input
    · dsimp only [Option.getD_some]
      rw [indented, codes_eq_listing t htyped.1, bind_assoc]
      rfl

end

/-- The code of a forest is that of its listing, whatever the margin is. -/
theorem flatCodes_eq_listing : ∀ {forest : List Tree},
    (∀ t ∈ forest, t.Typed (t.output? .standard).isNone) →
    Tree.flatCodes .standard { options with indent := margin } forest = do
      return (← Tree.forestListing options forest).codes margin
  | [], _ => rfl
  | t :: rest, htyped => by
    rw [List.forall_mem_cons] at htyped
    have hrest := flatCodes_eq_listing htyped.2
    rw [Tree.flatCodes, Tree.forestListing, hrest]
    cases hchain : (t.output? .standard).isNone with
    | false => simp
    | true =>
      rw [codes_eq_listing options margin t (hchain ▸ htyped.1)]
      simp [Listing.codes_append]

end Codes

/-! ## Listings without loose ends -/

theorem firm_handlerOpening (runtime name : String) :
    Text.Firm (handlerOpening runtime name).toList :=
  Text.firm_append (.last (by decide) (by decide) (by decide)) _

theorem Script.Spreads.handlerOpening {A : String → Prop} (h : Spreads A) {runtime name : String}
    (hruntime : A runtime) (hname : A name) : A (handlerOpening runtime name) := by
  refine h.append (h.append (h.append hruntime ?_) hname) ?_
  all_goals exact h.inline (by simp [Inline])

section Yields

variable {A : String → Prop} {options : ScriptOptions}

mutual

/-- The statements of a listing have a property that spreads, and do not end with the end of a
line. -/
theorem yields_listing (h : Spreads A) (hruntime : A options.runtime) : ∀ t : Tree, t.Typed true →
    Yields (Listing.All fun code => Text.Firm code.toList ∧ A code) (t.listing options)
  | .none, _ => by
    rw [Tree.listing]
    exact yields_pure trivial
  | .block id kind enabled fields values statements next, htyped => by
    obtain ⟨⟨shape, hkind, hshape⟩, hvalues, hstatements, hnext⟩ := htyped
    have hrest := yields_listing h hruntime next hnext
    rw [Tree.listing]
    by_cases hhandler : (enabled && kind == "on_click") = true
    · rw [if_pos hhandler]
      refine (yields_identifier h _ "VAR").bind fun name hname => ?_
      refine (yields_inputListings h hruntime statements hstatements "DO").bind fun body hbody => ?_
      refine hrest.bind fun rest hrest => yields_pure ⟨?_, hbody, hrest⟩
      exact ⟨firm_handlerOpening _ name, h.handlerOpening hruntime hname⟩
    · have hplain : enabled = true → (⟨id, kind, fields⟩ : Node).kind ≠ "on_click" := by
        rintro rfl rfl
        exact hhandler rfl
      have hinputs := yields_inputFragments h hruntime values hvalues kind
      rw [if_neg hhandler]
      refine (yields_nodeFragment h hruntime hinputs [] hkind hplain).bind fun f hf => ?_
      refine hrest.bind fun rest hrest => yields_pure ?_
      split_ifs with hempty
      · exact hrest
      · have hfirm := (hf.2 hshape).resolve_left (by simpa [Fragment.isEmpty] using hempty)
        exact ⟨⟨hfirm, hf.1⟩, hrest⟩

theorem yields_inputListings (h : Spreads A) (hruntime : A options.runtime) :
    ∀ statements : List (String × Tree), Tree.TypedInputs true statements → ∀ input : String,
      Yields (Listing.All fun code => Text.Firm code.toList ∧ A code)
        (((Tree.inputListings options statements).lookup input).getD (pure .none))
  | [], _, input => by
    rw [Tree.inputListings]
    exact yields_pure trivial
  | (name, t) :: rest, htyped, input => by
    rw [Tree.inputListings, List.lookup_cons]
    cases input == name
    · exact yields_inputListings h hruntime rest htyped.2 input
    · exact yields_listing h hruntime t htyped.1

end

theorem yields_forestListing (h : Spreads A) (hruntime : A options.runtime) :
    ∀ {forest : List Tree}, (∀ t ∈ forest, t.Typed (t.output? .standard).isNone) →
      Yields (Listing.All fun code => Text.Firm code.toList ∧ A code)
        (Tree.forestListing options forest)
  | [], _ => yields_pure trivial
  | t :: rest, htyped => by
    rw [List.forall_mem_cons] at htyped
    have hrest := yields_forestListing h hruntime htyped.2
    rw [Tree.forestListing]
    cases hchain : (t.output? .standard).isNone with
    | false => simpa using hrest
    | true =>
      rw [if_pos rfl]
      refine (yields_listing h hruntime t (hchain ▸ htyped.1)).bind fun l hl => ?_
      exact hrest.bind fun rest hrest => yields_pure (hl.append hrest)

end Yields

/-! ## Workspaces -/

/-- Code that has no line feeds unless the runtime namespace has some. -/
theorem spreads_feedless (runtime : String) :
    Spreads fun code => '\n' ∉ runtime.toList → '\n' ∉ code.toList where
  inline hs _ hmem := (hs _ hmem).1 rfl
  append ha hb hruntime := by
    rw [String.toList_append, List.mem_append, not_or]
    exact ⟨ha hruntime, hb hruntime⟩

section Workspaces

variable {w : Workspace} (hw : w.WellLinked Registry.standard.shape?) {forest : List Tree}
  (hforest : w.forest? = some forest) (options : ScriptOptions)

include hw hforest

/-- The script of a workspace is the code of its listing, whatever the margin is. -/
theorem script_eq_listing (margin : String) :
    ({ workspace := w, registry := .standard, options := { options with indent := margin } } :
      Program).script = .ok (String.intercalate "\n" ((w.listing options).codes margin)) := by
  rw [Program.script_eq_forestScript (hw.hasOutputs _) hforest, forestScript_eq_flatCodes,
    flatCodes_eq_listing options margin (hw.typed_forest hforest), Workspace.listing, hforest]
  rfl

theorem all_listing : (w.listing options).All fun code =>
    Text.Firm code.toList ∧ ('\n' ∉ options.runtime.toList → '\n' ∉ code.toList) := by
  have htyped := hw.typed_forest hforest
  have hyields : Yields (Listing.All _) (Tree.forestListing options forest) :=
    yields_forestListing (spreads_feedless options.runtime) id htyped
  rw [Workspace.listing, hforest]
  exact (hyields _ (sound_initial w.declared options.runtime)).1

end Workspaces

/-- **Indentation is layout.** With any margin that does not leave its line, the script of a
workspace has as many lines as without a margin, and as its listing. Each line stands behind one
margin for each handler that has the line in its body, unless the line was written empty. That can
only be if there is a line feed in the runtime namespace. -/
theorem lines_script_indented (text : String) (w : Workspace) (options : ScriptOptions)
    (hparse : (parse Registry.standard.shape? text).workspace = some w)
    (hindent : Inline options.indent.toList) :
    ∃ script base,
      ({ workspace := w, registry := .standard, options } : Program).script = .ok script ∧
      ({ workspace := w, registry := .standard, options := { options with indent := "" } } :
        Program).script = .ok base ∧
      (Text.lines script).length = (Text.lines base).length ∧
      (Text.lines base).length = (w.listing options).written.length ∧
      (∀ k line written, (Text.lines base)[k]? = some line →
        (w.listing options).written[k]? = some written →
        (Text.lines script)[k]? = some (String.join (List.replicate
          (if written = "" then 0 else (w.listing options).handlersAround k) options.indent) ++
            line) ∧
        ∃ n, written = line ++ String.join (List.replicate n "\r")) ∧
      ('\n' ∉ options.runtime.toList → ∀ k line, (Text.lines base)[k]? = some line →
        (Text.lines script)[k]? = some (String.join (List.replicate
          ((w.listing options).handlersAround k) options.indent) ++ line)) := by
  have hw := wellLinked_of_parse hparse
  obtain ⟨forest, hforest⟩ := exists_forest_of_parse hparse
  have hall := all_listing hw hforest options
  have hfirm : (w.listing options).Firm := hall.imp fun _ h => h.1
  have hempty : Inline "".toList := by simp [Inline]
  have hlength := Listing.length_lines_codes hempty hfirm
  refine ⟨_, _, script_eq_listing hw hforest options options.indent,
    script_eq_listing hw hforest options "", ?_, hlength, fun k line written hline hwritten => ?_,
    fun hruntime k line hline => ?_⟩
  · rw [Listing.length_lines_codes hindent hfirm, hlength]
  · exact Listing.getElem?_lines_codes hindent hfirm hline hwritten
  · obtain ⟨hk, -⟩ := List.getElem?_eq_some_iff.1 hline
    rw [hlength] at hk
    have hwritten := List.getElem?_eq_getElem hk
    have hne := Listing.ne_empty_of_mem_written hfirm (hall.imp fun _ h => h.2 hruntime) _
      (List.mem_of_getElem? hwritten)
    obtain ⟨hscript, -⟩ := Listing.getElem?_lines_codes hindent hfirm hline hwritten
    rwa [if_neg hne] at hscript

/-- A handler that sets up another one, which sets the colour of the sky. -/
def nestedText : String :=
  "\x7b\"blocks\":\x7b\"blocks\":[\x7b\"type\":\"on_click\",\"inputs\":\x7b\"DO\":\x7b\"block\":" ++
    "\x7b\"type\":\"on_click\",\"inputs\":\x7b\"DO\":\x7b\"block\":" ++
    "\x7b\"type\":\"set_sky_color\"\x7d\x7d\x7d\x7d\x7d\x7d\x7d]\x7d\x7d"

/-- Its listing. -/
def nestedListing (runtime : String) : Listing :=
  .handler (handlerOpening runtime "shape_1")
    (.handler (handlerOpening runtime "shape_1")
      (.statement (runtime ++ ".setSkyColor(\"#87ceeb\");") .none) .none) .none

theorem exists_listing_nestedText :
    ∃ w, (parse Registry.standard.shape? nestedText).workspace = some w ∧
      ∀ runtime ∈ ["x", "\nx"], w.listing ⟨runtime, "  ", true⟩ = nestedListing runtime := by
  have hchars : nestedText.toList = _ :=
    Json.toList_append_of (Json.toList_append_of String.toList_ofList String.toList_ofList)
      String.toList_ofList
  have hsome : ((parse Registry.standard.shape? nestedText).workspace.map fun w =>
      decide (∀ runtime ∈ ["x", "\nx"],
        w.listing ⟨runtime, "  ", true⟩ = nestedListing runtime)) = some true := by
    rw [parse, Document.ofText, Json.decodeText, Json.Draft.ofText_of_toList hchars]
    decide +kernel
  obtain ⟨w, hparse, hlisting⟩ := Option.map_eq_some_iff.1 hsome
  exact ⟨w, hparse, of_decide_eq_true hlisting⟩

theorem lines_script_indented_nestedText :
    ∃ w script base line, (parse Registry.standard.shape? nestedText).workspace = some w ∧
      Inline "  ".toList ∧
      ({ workspace := w, registry := .standard, options := ⟨"x", "  ", true⟩ } :
        Program).script = .ok script ∧
      ({ workspace := w, registry := .standard, options := ⟨"x", "", true⟩ } :
        Program).script = .ok base ∧
      (w.listing ⟨"x", "  ", true⟩).handlersAround 2 = 2 ∧
      (Text.lines base)[2]? = some line ∧ (Text.lines script)[2]? = some ("    " ++ line) := by
  obtain ⟨w, hparse, hlistings⟩ := exists_listing_nestedText
  have hlisting := hlistings "x" (by simp)
  have hindent : Inline "  ".toList := by simp [Inline]
  obtain ⟨script, base, hscript, hbase, -, hlength, -, hlines⟩ :=
    lines_script_indented nestedText w ⟨"x", "  ", true⟩ hparse hindent
  have haround : (nestedListing "x").handlersAround 2 = 2 := by decide +kernel
  have hwritten : (nestedListing "x").written.length = 5 := by decide +kernel
  rw [hlisting] at hlength hlines
  rw [hwritten] at hlength
  have hline : (Text.lines base)[2]? = some (Text.lines base)[2] :=
    List.getElem?_eq_getElem (by omega)
  have hindented := hlines (by decide) 2 _ hline
  rw [haround] at hindented
  exact ⟨w, script, base, _, hparse, hindent, hscript, hbase, hlisting ▸ haround, hline, hindented⟩

/-- A line that was written empty gets no margin, although there is a handler around it. -/
theorem empty_line_not_indented :
    ∃ w script base, (parse Registry.standard.shape? nestedText).workspace = some w ∧
      Inline "  ".toList ∧
      ({ workspace := w, registry := .standard, options := ⟨"\nx", "  ", true⟩ } :
        Program).script = .ok script ∧
      ({ workspace := w, registry := .standard, options := ⟨"\nx", "", true⟩ } :
        Program).script = .ok base ∧
      (w.listing ⟨"\nx", "  ", true⟩).handlersAround 2 = 1 ∧
      (Text.lines base)[2]? = some "" ∧ (Text.lines script)[2]? ≠ some ("  " ++ "") := by
  obtain ⟨w, hparse, hlistings⟩ := exists_listing_nestedText
  have hlisting := hlistings "\nx" (by simp)
  obtain ⟨forest, hforest⟩ := exists_forest_of_parse hparse
  have hw := wellLinked_of_parse hparse
  have hscript := script_eq_listing hw hforest ⟨"\nx", "  ", true⟩
  have hall := all_listing hw hforest ⟨"\nx", "  ", true⟩
  have hempty : (nestedListing "\nx").written[2]? = some "" := by decide +kernel
  have haround : (nestedListing "\nx").handlersAround 2 = 1 := by decide +kernel
  rw [hlisting] at hscript hall
  have hfirm : (nestedListing "\nx").Firm := hall.imp fun _ h => h.1
  have hline : ∀ margin : String, Inline margin.toList →
      (Text.lines (String.intercalate "\n" ((nestedListing "\nx").codes margin)))[2]? =
        some "" := by
    intro margin hmargin
    have hfixed : Text.reline margin "" = "" := by simp [Text.reline, Text.margined, Text.chop]
    rw [Listing.lines_codes hmargin hfirm, Listing.getElem?_laidOut margin _ 0 2, hempty,
      Option.map_some, Function.iterate_fixed hfixed]
  have hindent : Inline "  ".toList := by simp [Inline]
  refine ⟨w, _, _, hparse, hindent, hscript "  ", hscript "", hlisting ▸ haround,
    hline "" (by simp [Inline]), ?_⟩
  rw [hline "  " hindent]
  decide

end SceneScript
