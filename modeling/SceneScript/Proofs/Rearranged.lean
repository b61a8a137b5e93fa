import SceneScript.Proofs.MemberOrder
import SceneScript.Proofs.Visits

/-!
# The order of members does not matter

Documents that differ in nothing but the reasons why something cannot be read are linked side by
side: each step does the same to the workspace and reports the same, up to these reasons. So if
everything in a text can be read, a rearranged text has the same workspace and the same diagnostics.

* `Diagnostics.masked`: the diagnostics without the reasons why something cannot be read.
* `Linking.InStep`: steps of linking that do the same and leave states that are alike.
* **`parse_eq_of_rearranged`**: rearranged texts have the same workspace and the same diagnostics.
-/

namespace SceneScript

open Json

/-! ## Diagnostics without reasons -/

/-- The diagnostic without the reason why something cannot be read. -/
def Diagnostic.masked (d : Diagnostic) : Diagnostic :=
  if d.code = 100 then { d with message := "" } else d

theorem Diagnostic.code_masked (d : Diagnostic) : d.masked.code = d.code := by
  rw [masked]
  split_ifs <;> rfl

theorem Diagnostic.masked_of_ne {d : Diagnostic} (h : d.code ≠ 100) : d.masked = d := if_neg h

namespace Diagnostics

/-- The diagnostics without the reasons why something cannot be read. -/
def masked (c : Diagnostics) : Diagnostics :=
  { c with
    errors := c.errors.map Diagnostic.masked
    warnings := c.warnings.map Diagnostic.masked }

theorem masked_push (c : Diagnostics) (d : Diagnostic) :
    (c.push d).masked = c.masked.push d.masked := by
  have hseverity : d.masked.severity = d.severity := by
    rw [Diagnostic.masked]
    split_ifs <;> rfl
  rw [push, push, hseverity]
  cases d.severity with
  | error =>
    simp only [masked, List.length_map]
    split_ifs <;> simp
  | warning => simp [masked]

theorem eq_of_map_masked_eq : ∀ {l l' : List Diagnostic},
    l.map Diagnostic.masked = l'.map Diagnostic.masked → (∀ d ∈ l, d.code ≠ 100) → l' = l
  | [], [], _, _ => rfl
  | d :: l, d' :: l', h, hcodes => by
    obtain ⟨hd, hl⟩ := List.cons.inj h
    obtain ⟨hcode, hcodes⟩ := List.forall_mem_cons.1 hcodes
    have hcode' : d'.code ≠ 100 := by
      rwa [← Diagnostic.code_masked, ← hd, Diagnostic.code_masked]
    rw [Diagnostic.masked_of_ne hcode, Diagnostic.masked_of_ne hcode'] at hd
    rw [hd, eq_of_map_masked_eq hl hcodes]

/-- Diagnostics are the same if they differ only in such reasons and there are none. -/
theorem eq_of_masked_eq {c c' : Diagnostics} (h : c.masked = c'.masked)
    (hc : ∀ d ∈ c.stored, d.code ≠ 100) : c' = c := by
  obtain ⟨errors, warnings, totalErrors, totalWarnings⟩ := c
  obtain ⟨errors', warnings', totalErrors', totalWarnings'⟩ := c'
  obtain ⟨hcodes, hcodes'⟩ := List.forall_mem_append.1 hc
  simp only [masked, Diagnostics.mk.injEq] at h ⊢
  obtain ⟨herrors, hwarnings, rfl, rfl⟩ := h
  exact ⟨eq_of_map_masked_eq herrors hcodes, eq_of_map_masked_eq hwarnings hcodes', rfl, rfl⟩

end Diagnostics

/-! ## Linking side by side -/

namespace Linking

/-- States that differ only in the reasons why something cannot be read. -/
structure Alike (s s' : Linking) : Prop where
  workspace : s.workspace = s'.workspace
  ids : s.ids = s'.ids
  anonymous : s.anonymous = s'.anonymous
  diagnostics : s.diagnostics.masked = s'.diagnostics.masked

theorem Alike.errors {s s' : Linking} (h : s.Alike s') : s.errors = s'.errors := by
  have herrors := congrArg Diagnostics.totalErrors h.diagnostics
  exact herrors

/-- Steps that do the same from alike states. -/
def InStep {α : Type} (x y : Link α) : Prop :=
  ∀ ⦃s s' : Linking⦄, s.Alike s' → (x.run s).1 = (y.run s').1 ∧ (x.run s).2.Alike (y.run s').2

section Steps

variable {α β : Type}

theorem inStep_pure (a : α) : InStep (pure a) (pure a) := fun _ _ h => ⟨rfl, h⟩

theorem InStep.bind {x y : Link α} {f g : α → Link β} (h : InStep x y)
    (hfg : ∀ a, InStep (f a) (g a)) : InStep (x >>= f) (y >>= g) := by
  intro s s' hs
  obtain ⟨hresult, hstate⟩ := h hs
  show ((f (x.run s).1).run (x.run s).2).1 = ((g (y.run s').1).run (y.run s').2).1 ∧
    ((f (x.run s).1).run (x.run s).2).2.Alike ((g (y.run s').1).run (y.run s').2).2
  rw [← hresult]
  exact hfg _ hstate

theorem inStep_report {problem problem' : Problem}
    (h : problem.diagnostic.masked = problem'.diagnostic.masked) :
    InStep (report problem) (report problem') := by
  refine fun s s' hs => ⟨rfl, hs.workspace, hs.ids, hs.anonymous, ?_⟩
  show (s.diagnostics.push _).masked = (s'.diagnostics.push _).masked
  rw [Diagnostics.masked_push, Diagnostics.masked_push, hs.diagnostics, h]

/-- A block that cannot be read is reported alike whatever the reason is. -/
theorem inStep_report_unreadable (cause cause' : Cause) :
    InStep (report (.unreadableBlock cause)) (report (.unreadableBlock cause')) := by
  have hmasked : (Problem.unreadableBlock cause).diagnostic.masked =
      (Problem.unreadableBlock cause').diagnostic.masked := rfl
  exact inStep_report hmasked

theorem inStep_edit (f : Workspace → Workspace) : InStep (edit f) (edit f) :=
  fun _ _ hs => ⟨rfl, congrArg f hs.workspace, hs.ids, hs.anonymous, hs.diagnostics⟩

theorem inStep_attach (parent previous : Option Ref) (r : Ref) :
    InStep (attach parent previous r) (attach parent previous r) := by
  cases previous with
  | none => exact inStep_edit _
  | some p => exact inStep_edit _

theorem readFields_eq {fields fields' : Dict Json} (h : fields.Alike Json.Alike fields')
    (shape : Shape) : shape.readFields fields = shape.readFields fields' := by
  rw [Shape.readFields, Shape.readFields]
  congr 1
  rw [← List.forall₂_eq_eq_eq]
  refine List.rel_filterMap ?_ h.entries
  rintro ⟨name, value⟩ ⟨name', value'⟩ ⟨hname, hvalue⟩
  obtain rfl : name = name' := hname
  simp only [hvalue _]
  exact rel_refl (fun _ => rfl) _

/-- Alike headers make the same block. -/
theorem newBlock_eq {header header' : Header} (h : header.Alike header') (shape : Shape)
    (id : String) : newBlock shape id header = newBlock shape id header' := by
  rw [newBlock, newBlock, readFields_eq h.fields, h.enabled]

theorem inStep_place {header header' : Header} (h : header.Alike header') (shape : Shape)
    (asStatement : Bool) (nesting : Nat) :
    InStep (place shape header asStatement nesting) (place shape header' asStatement nesting) := by
  intro s s' hs
  obtain ⟨workspace, diagnostics, ids, anonymous⟩ := s
  obtain ⟨workspace', diagnostics', ids', anonymous'⟩ := s'
  obtain ⟨hworkspace, hids, hanonymous, hdiagnostics⟩ := hs
  dsimp only at hworkspace hids hanonymous hdiagnostics
  subst hworkspace hids hanonymous
  -- whatever ids are taken into use, the states differ in nothing but the diagnostics
  have hstate (taken : List String) (number : Nat) :
      Alike ⟨workspace, diagnostics, taken, number⟩ ⟨workspace, diagnostics', taken, number⟩ :=
    ⟨rfl, rfl, rfl, hdiagnostics⟩
  have hid : nextId ⟨workspace, diagnostics, ids, anonymous⟩ header =
      nextId ⟨workspace, diagnostics', ids, anonymous⟩ header' := by
    rw [nextId, nextId, h.id]
  have hunnamed : header.unnamed = header'.unnamed := by
    rw [Header.unnamed, Header.unnamed, h.id]
  rw [run_place, run_place, hid, hunnamed]
  dsimp only
  rw [newBlock_eq h]
  split_ifs
  · exact ⟨rfl, (inStep_report rfl (hstate _ _)).2⟩
  · exact ⟨rfl, (inStep_report rfl (hstate _ _)).2⟩
  · exact ⟨rfl, (inStep_report rfl (hstate _ _)).2⟩
  · exact ⟨rfl, (inStep_edit (·.insert _) (hstate _ _)).2⟩

end Steps

section Chains

variable (catalog : Catalog)

mutual

theorem inStep_linkChain {chain chain' : Chain} : chain.Alike chain' →
    ∀ nesting parent previous, InStep (linkChain catalog nesting parent previous chain)
      (linkChain catalog nesting parent previous chain')
  | .none, _, _, _ => inStep_pure _
  | .unreadable cause cause', _, _, _ => by
    rw [linkChain, linkChain]
    exact (inStep_report_unreadable cause cause').bind fun _ => inStep_pure _
  | .block hheader hinputs hnext, nesting, parent, previous => by
    rw [linkChain, linkChain, hheader.kind, hheader.id]
    cases catalog _ with
    | none => exact (inStep_report rfl).bind fun _ => inStep_pure _
    | some shape =>
      refine (inStep_place hheader shape true nesting).bind ?_
      rintro (_ | ⟨r, id⟩)
      · exact inStep_pure _
      · refine (inStep_linkInputs hinputs nesting shape r id).bind fun _ => ?_
        refine (inStep_attach parent previous r).bind fun _ => ?_
        exact (inStep_linkChain hnext nesting none (some r)).bind fun _ => inStep_pure _

theorem inStep_linkValue {chain chain' : Chain} : chain.Alike chain' →
    ∀ nesting parent, InStep (linkValue catalog nesting parent chain)
      (linkValue catalog nesting parent chain')
  | .none, _, _ => inStep_pure _
  | .unreadable cause cause', _, _ => by
    rw [linkValue, linkValue]
    exact (inStep_report_unreadable cause cause').bind fun _ => inStep_pure _
  | .block hheader hinputs hnext, nesting, parent => by
    rw [linkValue, linkValue, hheader.kind, hheader.id]
    cases catalog _ with
    | none => exact (inStep_report rfl).bind fun _ => inStep_pure _
    | some shape =>
      dsimp only
      rw [hnext.isSome_eq]
      split_ifs
      · exact (inStep_report rfl).bind fun _ => inStep_pure _
      refine (inStep_place hheader shape false nesting).bind ?_
      rintro (_ | ⟨r, id⟩)
      · exact inStep_pure _
      · refine (inStep_linkInputs hinputs nesting shape r id).bind fun _ => ?_
        exact (inStep_attach parent none r).bind fun _ => inStep_pure _

theorem inStep_linkInputs {inputs inputs' : List (String × Chain)} :
    Chain.AlikeInputs inputs inputs' → ∀ nesting shape r id,
      InStep (linkInputs catalog nesting shape r id inputs)
        (linkInputs catalog nesting shape r id inputs')
  | .nil, _, _, _, _ => inStep_pure _
  | .cons hchain hrest, nesting, shape, r, id => by
    rw [linkInputs, linkInputs]
    have hothers := inStep_linkInputs hrest nesting shape r id
    cases shape.input? _ with
    | none => exact (inStep_report rfl).bind fun _ => hothers
    | some takes =>
      cases takes with
      | value accepts =>
        refine (inStep_linkValue hchain (nesting + 1) (some r)).bind fun _ => ?_
        exact (inStep_edit _).bind fun _ => hothers
      | statements =>
        refine (inStep_linkChain hchain (nesting + 1) (some r) none).bind fun _ => ?_
        exact (inStep_edit _).bind fun _ => hothers

end

theorem isExpression_eq {chain chain' : Chain} (h : chain.Alike chain') :
    isExpression catalog chain = isExpression catalog chain' := by
  cases h with
  | none => rfl
  | unreadable cause cause' => rfl
  | block hheader hinputs hnext => rw [isExpression, isExpression, hheader.kind]

theorem inStep_linkTop {chain chain' : Chain} (h : chain.Alike chain') :
    InStep (linkTop catalog chain) (linkTop catalog chain') := by
  have hpush (head : Option Ref) : InStep (pushHead head) (pushHead head) := by
    cases head with
    | none => exact inStep_pure ()
    | some r => exact inStep_edit _
  rw [linkTop, linkTop, isExpression_eq catalog h]
  split_ifs
  · exact (inStep_linkValue catalog h 0 none).bind hpush
  · exact (inStep_linkChain catalog h 0 none none).bind hpush

theorem inStep_linkTops {chains chains' : List Chain}
    (h : List.Forall₂ Chain.Alike chains chains') :
    InStep (chains.forM (linkTop catalog)) (chains'.forM (linkTop catalog)) := by
  induction h with
  | nil => exact inStep_pure ()
  | cons hchain _ ih => exact (inStep_linkTop catalog hchain).bind fun _ => ih

end Chains

theorem inStep_declare (v : Declaration) : InStep (declare v) (declare v) := by
  intro s s' hs
  refine ⟨rfl, ?_⟩
  rw [run_declare, run_declare, ← hs.workspace]
  cases v.problem? s.workspace.declared with
  | none =>
    refine ⟨?_, hs.ids, hs.anonymous, hs.diagnostics⟩
    show Workspace.mk _ _ _ = Workspace.mk _ _ _
    rw [hs.workspace]
  | some problem => exact (inStep_report rfl hs).2

theorem inStep_declareAll : ∀ l : List Declaration, InStep (l.forM declare) (l.forM declare)
  | [] => inStep_pure ()
  | v :: rest => (inStep_declare v).bind fun _ => inStep_declareAll rest

theorem inStep_linkDocument (catalog : Catalog) {document document' : Document}
    (h : document.Alike document') :
    InStep (linkDocument catalog document) (linkDocument catalog document') := by
  rw [linkDocument, linkDocument, h.declarations]
  exact (inStep_declareAll _).bind fun _ => inStep_linkTops catalog h.chains

end Linking

/-- Alike documents are linked to the same workspace and to the same diagnostics, whatever reasons
they are reported with. -/
theorem link_alike (catalog : Catalog) {document document' : Document}
    (h : document.Alike document') :
    (link catalog document).workspace = (link catalog document').workspace ∧
      (link catalog document).diagnostics.masked = (link catalog document').diagnostics.masked := by
  have hstart : Linking.Alike {} {} := ⟨rfl, rfl, rfl, rfl⟩
  have hstate := (Linking.inStep_linkDocument catalog h hstart).2
  rw [link_eq, link_eq]
  dsimp only
  rw [hstate.errors, hstate.workspace]
  exact ⟨rfl, hstate.diagnostics⟩

/-! ## Rearranged texts -/

namespace Json

/-- The spelling of a text without escapes. -/
def Spelling.plain (text : String) : Spelling := ⟨text.toList.map .plain, .closed⟩

theorem Spelling.text_plain (text : String) : (plain text).text = .ok text := by
  have hchars : ∀ l : List Char, characters .closed (l.map .plain) = .ok l := by
    intro l
    induction l with
    | nil => rfl
    | cons c rest ih => rw [List.map_cons, characters, ih, Except.map]
  rw [Spelling.text, plain, hchars, Except.map, String.ofList_toList]

/-- The object with some members. -/
def Draft.ofMembers (members : List (String × Draft)) : Draft :=
  .object (Members.ofList (members.map fun m => (.plain m.1, m.2)))

/-- The members of an object may come in any order if no name is used twice. -/
theorem Draft.reordered_ofMembers {fixed : String → Prop} {members members' : List (String × Draft)}
    (h : members.Perm members') (hnames : (members.map Prod.fst).Nodup)
    (hfree : ∀ m ∈ members, ¬ fixed m.1) :
    (ofMembers members).Reordered fixed (ofMembers members') := by
  refine .of_perm (h.map _) ?_ ?_
  · rw [List.pairwise_map]
    refine (List.pairwise_map.1 hnames).imp fun {m m'} hne name hname hname' => hne ?_
    rw [Spelling.text_plain] at hname hname'
    exact Except.ok.inj (hname.trans hname'.symm)
  · intro entry hentry name hname htext
    obtain ⟨m, hm, rfl⟩ := List.mem_map.1 hentry
    rw [Spelling.text_plain] at htext
    exact hfree m hm (Except.ok.inj htext ▸ hname)

/-- A connection to a block of a kind. -/
def Draft.ofKind (kind : String) : Draft :=
  ofMembers [("block", ofMembers [("type", .string (.plain kind))])]

/-- The document of one block with some members. -/
def Draft.ofBlock (members : List (String × Draft)) : Draft :=
  ofMembers [("blocks", ofMembers [("blocks", .list (.item (ofMembers members) .closed))])]

theorem Draft.reordered_ofBlock {fixed : String → Prop} {members members' : List (String × Draft)}
    (h : (ofMembers members).Reordered fixed (ofMembers members')) :
    (ofBlock members).Reordered fixed (ofBlock members') :=
  .object (.member rfl rfl (.object (.member rfl rfl (.list (.item h .closed)) .closed)) .closed)

end Json

/-- A text that cannot be read has a diagnostic that tells why. -/
theorem exists_unreadable (catalog : Catalog) {text : String} {cause : Cause}
    (h : Document.ofText text = .error cause) :
    ∃ d ∈ (parse catalog text).diagnostics.stored, d.code = 100 := by
  rw [parse, h]
  exact ⟨_, List.mem_cons_self, rfl⟩

/-- If everything in a text can be read, then every text that differs from it only in the order of
members, in spaces and in spelling has the same workspace and the same diagnostics. A member with
the name of embedded texts must neither come to the first place nor leave it. -/
theorem parse_eq_of_rearranged (catalog : Catalog) (text text' : String)
    (h : Json.Rearranged (· = Draft.embedName) text text')
    (hreadable : ∀ d ∈ (parse catalog text).diagnostics.stored, d.code ≠ 100) :
    parse catalog text' = parse catalog text := by
  have hagree := Document.agree_ofText h
  cases hdocument : Document.ofText text with
  | error cause =>
    obtain ⟨d, hmem, hcode⟩ := exists_unreadable catalog hdocument
    exact absurd hcode (hreadable d hmem)
  | ok document =>
    rw [hdocument] at hagree
    obtain ⟨document', hdocument', halike⟩ := hagree.exists_of_ok
    obtain ⟨hworkspace, hmasked⟩ := link_alike catalog halike
    rw [parse_of_ok hdocument] at hreadable ⊢
    rw [parse_of_ok hdocument', Linked.mk.injEq]
    exact ⟨hworkspace.symm, Diagnostics.eq_of_masked_eq hmasked hreadable⟩

/-- A block with two inputs, which are not in the order of their names. -/
def spotlightText : String :=
  "\x7b\"blocks\":\x7b\"blocks\":[\x7b\"type\":\"spotlight\",\"inputs\":\x7b\"BRIGHTNESS\":" ++
  "\x7b\"block\":\x7b\"type\":\"math_number\"\x7d\x7d,\"ANGLE\":" ++
  "\x7b\"block\":\x7b\"type\":\"coords\"\x7d\x7d\x7d\x7d]\x7d\x7d"

/-- The block of `spotlightText` with its members and its inputs the other way round. -/
def turnedText : String :=
  "\x7b \"blocks\": \x7b\"blocks\": [\x7b\"inputs\":\x7b\"ANGLE\":" ++
  "\x7b\"block\":\x7b\"type\":\"coords\"\x7d\x7d,\"BRIGHTNESS\":" ++
  "\x7b\"block\":\x7b\"type\":\"math_number\"\x7d\x7d\x7d,\"type\":\"spotlight\"\x7d]\x7d\x7d"

theorem rearranged_spotlightText :
    Json.Rearranged (· = Draft.embedName) spotlightText turnedText := by
  have hchars : spotlightText.toList = _ :=
    Json.toList_append_of (Json.toList_append_of String.toList_ofList String.toList_ofList)
      String.toList_ofList
  have hchars' : turnedText.toList = _ :=
    Json.toList_append_of (Json.toList_append_of String.toList_ofList String.toList_ofList)
      String.toList_ofList
  have hdraft : Draft.ofText spotlightText = (.ofBlock [("type", .string (.plain "spotlight")),
      ("inputs", .ofMembers [("BRIGHTNESS", .ofKind "math_number"), ("ANGLE", .ofKind "coords")])],
      false) := by
    rw [Draft.ofText_of_toList hchars]
    decide +kernel
  have hdraft' : Draft.ofText turnedText = (.ofBlock [
      ("inputs", .ofMembers [("ANGLE", .ofKind "coords"), ("BRIGHTNESS", .ofKind "math_number")]),
      ("type", .string (.plain "spotlight"))], false) := by
    rw [Draft.ofText_of_toList hchars']
    decide +kernel
  rw [Json.Rearranged, hdraft, hdraft']
  -- the members of the block change places first, and then its inputs
  have hmembers (inputs : Draft) : (Draft.ofMembers [("type", .string (.plain "spotlight")),
      ("inputs", inputs)]).Reordered (· = Draft.embedName)
        (.ofMembers [("inputs", inputs), ("type", .string (.plain "spotlight"))]) :=
    Draft.reordered_ofMembers (.swap _ _ _) (by simp) (by simp [Draft.embedName])
  refine ⟨Draft.reordered_ofBlock ((hmembers _).trans (.object ?_)), rfl⟩
  refine .member rfl rfl ?_ (.refl _)
  exact Draft.reordered_ofMembers (.swap _ _ _) (by simp) (by simp [Draft.embedName])

theorem parse_eq_of_rearranged_spotlightText :
    Json.Rearranged (· = Draft.embedName) spotlightText turnedText ∧
      (∀ d ∈ (parse Registry.standard.shape? spotlightText).diagnostics.stored, d.code ≠ 100) ∧
      (parse Registry.standard.shape? spotlightText).workspace.isSome ∧
      parse Registry.standard.shape? turnedText = parse Registry.standard.shape? spotlightText := by
  have hchars : spotlightText.toList = _ :=
    Json.toList_append_of (Json.toList_append_of String.toList_ofList String.toList_ofList)
      String.toList_ofList
  have hfacts :
      (∀ d ∈ (parse Registry.standard.shape? spotlightText).diagnostics.stored, d.code ≠ 100) ∧
        (parse Registry.standard.shape? spotlightText).workspace.isSome := by
    rw [parse, Document.ofText, decodeText, Draft.ofText_of_toList hchars]
    decide +kernel
  exact ⟨rearranged_spotlightText, hfacts.1, hfacts.2,
    parse_eq_of_rearranged Registry.standard.shape? spotlightText turnedText
      rearranged_spotlightText hfacts.1⟩

/-- A field whose value has a member with the name of embedded texts in the last place. -/
def lateEmbedText : String :=
  "\x7b\"blocks\":\x7b\"blocks\":[\x7b\"type\":\"math_number\",\"fields\":\x7b\"NUM\":" ++
  "\x7b\"a\":true,\"$serde_json::private::RawValue\":\"5\"\x7d\x7d\x7d]\x7d\x7d"

/-- The same value with this member in the first place. -/
def earlyEmbedText : String :=
  "\x7b\"blocks\":\x7b\"blocks\":[\x7b\"type\":\"math_number\",\"fields\":\x7b\"NUM\":" ++
  "\x7b\"$serde_json::private::RawValue\":\"5\",\"a\":true\x7d\x7d\x7d]\x7d\x7d"

/-- Members with any names may not be rearranged: a value that can be read as an object becomes an
embedded text with something behind it. -/
theorem embedText_order_matters :
    Json.Rearranged (fun _ => False) lateEmbedText earlyEmbedText ∧
      (parse Registry.standard.shape? lateEmbedText).diagnostics.stored = [] ∧
      (parse Registry.standard.shape? earlyEmbedText).diagnostics.stored.map Diagnostic.code =
        [100] := by
  have hchars : lateEmbedText.toList = _ :=
    Json.toList_append_of String.toList_ofList String.toList_ofList
  have hchars' : earlyEmbedText.toList = _ :=
    Json.toList_append_of String.toList_ofList String.toList_ofList
  have hdraft : Draft.ofText lateEmbedText = (.ofBlock [("type", .string (.plain "math_number")),
      ("fields", .ofMembers [("NUM", .ofMembers [("a", .bool true),
        (Draft.embedName, .string (.plain "5"))])])], false) := by
    rw [Draft.ofText_of_toList hchars]
    decide +kernel
  have hdraft' : Draft.ofText earlyEmbedText = (.ofBlock [("type", .string (.plain "math_number")),
      ("fields", .ofMembers [("NUM", .ofMembers [(Draft.embedName, .string (.plain "5")),
        ("a", .bool true)])])], false) := by
    rw [Draft.ofText_of_toList hchars']
    decide +kernel
  refine ⟨?_, ?_⟩
  · rw [Json.Rearranged, hdraft, hdraft']
    refine ⟨Draft.reordered_ofBlock (.object (.member rfl rfl (.refl _) ?_)), rfl⟩
    refine .member rfl rfl (.object (.member rfl rfl ?_ .closed)) .closed
    exact Draft.reordered_ofMembers (.swap _ _ _) (by simp [Draft.embedName]) fun _ _ => id
  · rw [parse, parse, Document.ofText, Document.ofText, decodeText, decodeText,
      Draft.ofText_of_toList hchars, Draft.ofText_of_toList hchars']
    decide +kernel

end SceneScript
