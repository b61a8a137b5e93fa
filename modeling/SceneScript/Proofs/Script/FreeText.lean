import SceneScript.Proofs.Lockstep
import SceneScript.Proofs.Parsed
import SceneScript.Proofs.Script.Agreement
import SceneScript.Proofs.Script.Skeleton

/-!
# Free text cannot change a script

Texts that users type, and the ids of blocks, come into a script only inside of string literals.
They also have no influence on which names are handed out: for that it only matters which ids are
the same. So two workspaces that differ in nothing else have scripts of the same skeleton.

* `Workspace.blank`: a workspace without typed texts and ids.
* `SameScope`: the names in use by two workspaces, up to the ids of blocks.
* `freeText`: what it means for code to be alike, whatever the texts are.
* **`skeleton_eq_of_blank_eq`**: scripts that differ only in typed texts and ids have one skeleton.
-/

namespace SceneScript

/-! ## Workspaces without texts -/

/-- The value of a field without a typed text. -/
def FieldValue.blank : FieldValue → FieldValue
  | text _ => text ""
  | colour _ => colour ""
  | dropdown _ => dropdown ""
  | value => value

/-- The block without typed texts and id. -/
def Block.blank (b : Block) : Block :=
  { b with id := "", fields := b.fields.mapEntries fun _ => FieldValue.blank }

/-- The workspace without typed texts and ids. -/
def Workspace.blank (w : Workspace) : Workspace := { w with blocks := w.blocks.map Block.blank }

namespace FieldValue

theorem number?_blank (value : FieldValue) : value.blank.number? = value.number? := by
  cases value <;> rfl

theorem reference?_blank (value : FieldValue) : value.blank.reference? = value.reference? := by
  cases value <;> rfl

end FieldValue

namespace Block

variable {b b' : Block}

/-- What does not depend on texts and id is the same. -/
theorem eq_of_blank_eq {α : Type} (h : b.blank = b'.blank) (f : Block → α)
    (hf : ∀ b : Block, f b.blank = f b) : f b = f b' := by
  rw [← hf b, h, hf b']

theorem kind_eq_of_blank_eq (h : b.blank = b'.blank) : b.kind = b'.kind :=
  eq_of_blank_eq h kind fun _ => rfl

theorem output_eq_of_blank_eq (h : b.blank = b'.blank) : b.output = b'.output :=
  eq_of_blank_eq h output fun _ => rfl

theorem bind_get?_of_blank_eq {α : Type} (h : b.blank = b'.blank) (field : String)
    {f : FieldValue → Option α} (hf : ∀ value, f value.blank = f value) :
    (b.fields.get? field).bind f = (b'.fields.get? field).bind f := by
  have hfields : (b.fields.mapEntries fun _ => FieldValue.blank) =
      b'.fields.mapEntries fun _ => FieldValue.blank := congrArg Block.fields h
  have hget := congrArg (fun fields => (fields.get? field).bind f) hfields
  simpa only [Dict.get?_mapEntries, Option.bind_map, Function.comp_def, hf] using hget

end Block

namespace Workspace

variable {w w' : Workspace}

theorem block?_blank (w : Workspace) (r : Ref) :
    w.blank.block? r = (w.block? r).map Block.blank := by
  simp [block?, blank]

theorem size_eq_of_blank_eq (h : w.blank = w'.blank) : w.size = w'.size := by
  have hblocks := congrArg (fun w : Workspace => w.blocks.size) h
  simpa [blank, size] using hblocks

/-- Blocks at the same place differ only in texts and ids. -/
theorem rel_block?_of_blank_eq (h : w.blank = w'.blank) (r : Ref) :
    Option.Rel (fun b b' => b.blank = b'.blank) (w.block? r) (w'.block? r) := by
  have hblock : w.blank.block? r = w'.blank.block? r := by rw [h]
  rw [block?_blank, block?_blank] at hblock
  cases hb : w.block? r with
  | none =>
    rw [hb, Option.map_none] at hblock
    rw [Option.map_eq_none_iff.1 hblock.symm]
    exact .none
  | some b =>
    rw [hb, Option.map_some] at hblock
    obtain ⟨b', hb', heq⟩ := Option.map_eq_some_iff.1 hblock.symm
    rw [hb']
    exact .some heq.symm

/-- Two ids that blocks at the same place have. -/
def SameId (w w' : Workspace) (id id' : String) : Prop :=
  ∃ r b b', w.block? r = some b ∧ w'.block? r = some b' ∧ b.id = id ∧ b'.id = id'

/-- Ids of the one workspace are the same exactly if those of the other one are. -/
theorem SameId.eq_iff {catalog : Catalog} (hw : w.WellLinked catalog) (hw' : w'.WellLinked catalog)
    {a a' b b' : String} (ha : w.SameId w' a a') (hb : w.SameId w' b b') : a = b ↔ a' = b' := by
  obtain ⟨r, c, c', hc, hc', rfl, rfl⟩ := ha
  obtain ⟨s, d, d', hd, hd', rfl, rfl⟩ := hb
  constructor
  · intro hid
    obtain rfl := hw.ref_eq_of_id hc hd hid
    cases hc'.symm.trans hd'
    rfl
  · intro hid
    obtain rfl := hw'.ref_eq_of_id hc' hd' hid
    cases hc.symm.trans hd
    rfl

end Workspace

namespace Script

/-! ## Names -/

theorem unquoted_of_isIdentifier {name : String} (h : isIdentifier name = true) :
    Unquoted name := by
  rintro c hc rfl
  exact absurd (isIdentifierChar_of_mem h _ hc) (by decide)

/-- The same names are in use, up to the ids of the blocks that they were made for. -/
structure SameScope (ρ : String → String → Prop) (s s' : Scope) : Prop where
  sound : s.Sound
  names : s.names = s'.names
  fresh : List.Forall₂ (fun entry entry' : (String × String) × String =>
    ρ entry.1.1 entry'.1.1 ∧ entry.1.2 = entry'.1.2 ∧ entry.2 = entry'.2) s.fresh s'.fresh

/-- Two steps hand out the same name. -/
def HandsOut (ρ : String → String → Prop) (m m' : Naming String) : Prop :=
  ∀ s s', SameScope ρ s s' → (m.run s).1 = (m'.run s').1 ∧ Unquoted (m.run s).1 ∧
    SameScope ρ (m.run s).2 (m'.run s').2

section Names

variable {ρ : String → String → Prop}

theorem handsOut_pure {name : String} (h : Unquoted name) : HandsOut ρ (pure name) (pure name) :=
  fun _ _ hs => ⟨rfl, h, hs⟩

theorem handsOut_get_bind {f f' : Scope → Naming String}
    (h : ∀ s s', s.names = s'.names → HandsOut ρ (f s) (f' s')) :
    HandsOut ρ (get >>= f) (get >>= f') :=
  fun s s' hs => h s s' hs.names s s' hs

theorem handsOut_resolve (key : String) :
    HandsOut ρ (Naming.resolve key) (Naming.resolve key) := by
  intro s s' hs
  obtain ⟨-, hsound, -, hfree⟩ := agrees_resolve key s hs.sound
  have hname : (s.names.resolve key).1 = (s'.names.resolve key).1 := by rw [hs.names]
  have hnames : (s.names.resolve key).2 = (s'.names.resolve key).2 := by rw [hs.names]
  exact ⟨hname, unquoted_of_isIdentifier hfree.1, hsound, hnames, hs.fresh⟩

variable (hρ : ∀ {a a' b b'}, ρ a a' → ρ b b' → (a = b ↔ a' = b'))

include hρ

theorem lookup_fresh_eq {fresh fresh' : List ((String × String) × String)}
    (h : List.Forall₂ (fun entry entry' : (String × String) × String =>
      ρ entry.1.1 entry'.1.1 ∧ entry.1.2 = entry'.1.2 ∧ entry.2 = entry'.2) fresh fresh')
    {id id' : String} (hid : ρ id id') (field : String) :
    fresh.lookup (id, field) = fresh'.lookup (id', field) := by
  induction h with
  | nil => rfl
  | @cons entry entry' rest rest' hentry _ ih =>
    obtain ⟨⟨key, name⟩, value⟩ := entry
    obtain ⟨⟨key', name'⟩, value'⟩ := entry'
    obtain ⟨hkey, rfl, rfl⟩ := hentry
    have hsame : ((id, field) == (key, name)) = ((id', field) == (key', name)) := by
      rw [Bool.eq_iff_iff, beq_iff_eq, beq_iff_eq, Prod.mk.injEq, Prod.mk.injEq, hρ hid hkey]
    rw [List.lookup_cons, List.lookup_cons, hsame, ih]

theorem handsOut_freshName {id id' : String} (hid : ρ id id') (field : String) {stem : String}
    (hstem : isIdentifier stem = true) :
    HandsOut ρ (Naming.freshName id field stem) (Naming.freshName id' field stem) := by
  intro s s' hs
  obtain ⟨-, hsound, -, hfree⟩ := agrees_freshName id field hstem s hs.sound
  refine ⟨?_, unquoted_of_isIdentifier hfree.1, ?_⟩
  · rw [run_freshName, run_freshName, ← lookup_fresh_eq hρ hs.fresh hid field, ← hs.names]
    cases s.fresh.lookup (id, field) <;> rfl
  · rw [run_freshName] at hsound ⊢
    rw [run_freshName, ← lookup_fresh_eq hρ hs.fresh hid field, ← hs.names]
    cases hlookup : s.fresh.lookup (id, field) with
    | some name => exact hs
    | none =>
      rw [hlookup] at hsound
      exact ⟨hsound, rfl, .cons ⟨hid, rfl, rfl⟩ hs.fresh⟩

theorem handsOut_identifier {node node' : Node} (hkind : node.kind = node'.kind)
    (hid : ρ node.id node'.id) {field : String}
    (hreference : (node.fields.lookup field).bind FieldValue.reference? =
      (node'.fields.lookup field).bind FieldValue.reference?) :
    HandsOut ρ (node.identifier .standard field) (node'.identifier .standard field) := by
  have hfields : node'.fieldKind? .standard field = node.fieldKind? .standard field := by
    rw [Node.fieldKind?, Node.fieldKind?, hkind]
  unfold Node.identifier
  rw [← hreference, hfields]
  cases (node.fields.lookup field).bind FieldValue.reference? with
  | some key => exact handsOut_resolve key
  | none =>
    cases hfield : node.fieldKind? .standard field with
    | none => exact handsOut_pure (by decide)
    | some kind =>
      have hproper := Node.proper_of_fieldKind? hfield
      cases kind with
      | reference tag initial =>
        cases initial with
        | fresh stem => exact handsOut_freshName hρ hid field hproper
        | first fallback =>
          refine handsOut_get_bind fun s s' hnames => ?_
          rw [← hnames]
          cases s.names.firstOfTag? tag with
          | some v => exact handsOut_resolve v.id
          | none => exact handsOut_pure (unquoted_of_isIdentifier hproper.1)
      | _ => exact handsOut_pure (by decide)

end Names

/-! ## Likeness -/

/-- Code is alike if it is the same outside of literals; texts and ids need not be alike. -/
def freeText (ρ : String → String → Prop) : Likeness where
  scope := SameScope ρ
  code := SameOutside
  name := SameOutside
  text _ _ := True
  number := SameOutside
  id _ _ := True

theorem regular_freeText (ρ : String → String → Prop) {margin : String} (h : Unquoted margin) :
    (freeText ρ).Regular margin where
  empty := .nil
  isEmpty_eq _ _ hcode := hcode.isEmpty_eq
  wrap _ _ hcode := hcode.wrap
  lines _ _ hcodes := .intercalate (by decide) hcodes
  indent _ _ hcode := .indent h hcode

theorem HandsOut.lockstep {ρ : String → String → Prop} {m m' : Naming String}
    (h : HandsOut ρ m m') : Lockstep (SameScope ρ) SameOutside m.toGen m'.toGen := by
  intro s s' hs
  obtain ⟨hname, hunquoted, hscope⟩ := h s s' hs
  have hsame : SameOutside (m.run s).1 (m'.run s').1 := hname ▸ .of_unquoted hunquoted
  exact ⟨hsame, hscope⟩

/-! ## Steps of rules -/

section Steps

variable {ρ : String → String → Prop}

theorem alike_require (input : String) (outer : Precedence) :
    (Plan.require input outer).Alike (freeText ρ) SameOutside (Plan.require input outer) := by
  refine .value fun code code' h => ?_
  cases h with
  | none => exact .nothing
  | some h => exact .done h

theorem alike_valueOr (input : String) (outer : Precedence) {default : String}
    (hdefault : Unquoted default) :
    (Plan.valueOr input outer default).Alike (freeText ρ) SameOutside
      (Plan.valueOr input outer default) := by
  refine .value fun code code' h => .done ?_
  cases h with
  | none => exact .of_unquoted hdefault
  | some h => exact h

theorem alike_value? (input : String) (outer : Precedence) :
    (Plan.value? input outer).Alike (freeText ρ) (Option.Rel SameOutside)
      (Plan.value? input outer) :=
  .value fun _ _ h => .done h

theorem alike_bodyOf (input : String) :
    (Plan.bodyOf input).Alike (freeText ρ) SameOutside (Plan.bodyOf input) :=
  .body fun _ _ h => .done h

theorem alike_identifierIn (field : String) :
    (Plan.identifierIn field).Alike (freeText ρ) SameOutside (Plan.identifierIn field) :=
  .identifier fun _ _ h => .done h

theorem alike_numberIn (field : String) :
    (Plan.numberIn field).Alike (freeText ρ) SameOutside (Plan.numberIn field) :=
  .number fun _ _ h => .done h

/-- Whatever texts are in a field, the literals are the same outside of literals. -/
theorem alike_literal (field : String) :
    (Plan.literal field).Alike (freeText ρ) SameOutside (Plan.literal field) :=
  .text fun s s' _ => .done (.quote s s')

theorem alike_callWith {args args' : List String} (h : List.Forall₂ SameOutside args args') :
    (Plan.callWith args).Alike (freeText ρ) SameOutside (Plan.callWith args') :=
  .call h fun _ _ hcode => .done hcode

theorem alike_perform {args args' : List String} (h : List.Forall₂ SameOutside args args') :
    (Plan.perform args).Alike (freeText ρ) SameOutside (Plan.perform args') :=
  .call h fun _ _ hcode => .done (hcode.append (.of_unquoted (by decide)))

/-- Two properties of one name with code that is the same outside of literals. -/
def SameProp (prop prop' : String × String) : Prop :=
  prop.1 = prop'.1 ∧ Unquoted prop.1 ∧ SameOutside prop.2 prop'.2

theorem sameProp {name code code' : String} (hname : Unquoted name)
    (hcode : SameOutside code code') : SameProp (name, code) (name, code') :=
  ⟨rfl, hname, hcode⟩

theorem sameOutside_descriptor (id id' type type' : String) {props props' : List (String × String)}
    (h : List.Forall₂ SameProp props props') :
    SameOutside (Literal.descriptor id type props) (Literal.descriptor id' type' props') := by
  have hprops : List.Forall₂ SameOutside (props.map fun prop => prop.1 ++ ": " ++ prop.2)
      (props'.map fun prop => prop.1 ++ ": " ++ prop.2) := by
    rw [List.forall₂_map_left_iff, List.forall₂_map_right_iff]
    refine h.imp fun prop prop' hprop => ?_
    obtain ⟨hname, hunquoted, hcode⟩ := hprop
    rw [← hname]
    exact ((SameOutside.of_unquoted hunquoted).append (.of_unquoted (by decide))).append hcode
  have hbody : SameOutside
      (if props.isEmpty then "\x7b\x7d"
        else "\x7b " ++ String.intercalate ", " (props.map fun prop => prop.1 ++ ": " ++ prop.2) ++
          " \x7d")
      (if props'.isEmpty then "\x7b\x7d"
        else "\x7b " ++ String.intercalate ", " (props'.map fun prop => prop.1 ++ ": " ++ prop.2) ++
          " \x7d") := by
    cases h with
    | nil => exact .of_unquoted (by decide)
    | cons _ _ =>
      exact ((SameOutside.of_unquoted (by decide)).append (.intercalate (by decide) hprops)).append
        (.of_unquoted (by decide))
  unfold Literal.descriptor
  dsimp only
  have hid := (SameOutside.of_unquoted (s := "[\x7b id: ") (by decide)).append (.quote id id')
  have hid := hid.append (.of_unquoted (s := ", type: ") (by decide))
  have htype := (hid.append (.quote type type')).append
    (.of_unquoted (s := ", props: ") (by decide))
  exact (htype.append hbody).append (.of_unquoted (by decide))

theorem alike_describe (type : String) {props props' : List (String × String)}
    (h : List.Forall₂ SameProp props props') :
    (Plan.describe type props).Alike (freeText ρ) (ValuesAlike (freeText ρ))
      (Plan.describe type props') :=
  .owner fun id id' _ _ => .done ⟨sameOutside_descriptor id id' type type h, rfl⟩

end Steps

/-! ## Rules -/

section Rules

variable {ρ : String → String → Prop}

theorem alike_moveCamera : Kinds.moveCamera.rule.Alike (freeText ρ) Kinds.moveCamera.rule := by
  refine .statement ((alike_require "COORDS" .none).bind fun coords coords' hcoords => ?_)
  exact alike_perform (.cons hcoords .nil)

/-- Something is created for a variable, and handed to an operation with further arguments. -/
theorem alike_create (input : String) (further : Plan (List String))
    (hfurther : further.Alike (freeText ρ) (List.Forall₂ SameOutside) further) :
    Rule.Alike (freeText ρ)
      (.statement do
        let value ← Plan.require input .assignment
        let coords ← Plan.require "COORDS" .none
        let name ← Plan.identifierIn "VAR"
        let more ← further
        let call ← Plan.perform (name :: (more ++ [coords]))
        return name ++ " = " ++ value ++ "; " ++ call)
      (.statement do
        let value ← Plan.require input .assignment
        let coords ← Plan.require "COORDS" .none
        let name ← Plan.identifierIn "VAR"
        let more ← further
        let call ← Plan.perform (name :: (more ++ [coords]))
        return name ++ " = " ++ value ++ "; " ++ call) := by
  refine .statement ((alike_require input .assignment).bind fun value value' hvalue => ?_)
  refine (alike_require "COORDS" .none).bind fun coords coords' hcoords => ?_
  refine (alike_identifierIn "VAR").bind fun name name' hname => ?_
  refine hfurther.bind fun more more' hmore => ?_
  have hargs := List.Forall₂.cons hname (List.rel_append hmore (.cons hcoords .nil))
  refine (alike_perform hargs).bind fun call call' hcall => .done ?_
  have htarget := hname.append (SameOutside.of_unquoted (s := " = ") (by decide))
  exact ((htarget.append hvalue).append (.of_unquoted (by decide))).append hcall

theorem alike_createLight : Kinds.createLight.rule.Alike (freeText ρ) Kinds.createLight.rule :=
  alike_create "LIGHT" (pure []) (.done .nil)

theorem alike_createShape : Kinds.createShape.rule.Alike (freeText ρ) Kinds.createShape.rule :=
  alike_create "SHAPE" (pure []) (.done .nil)

theorem alike_createShapeAndAddTo :
    Kinds.createShapeAndAddTo.rule.Alike (freeText ρ) Kinds.createShapeAndAddTo.rule :=
  alike_create "SHAPE" (do return [← Plan.identifierIn "PARENT"])
    ((alike_identifierIn "PARENT").bind fun _ _ hparent => .done (.cons hparent .nil))

theorem alike_moveLightAlong :
    Kinds.moveLightAlong.rule.Alike (freeText ρ) Kinds.moveLightAlong.rule := by
  refine .statement ((alike_require "COORDS" .none).bind fun coords coords' hcoords => ?_)
  refine (alike_identifierIn "VAR").bind fun name name' hname => ?_
  exact alike_perform (.cons hname (.cons hcoords .nil))

theorem alike_setAmbientLightIntensity :
    Kinds.setAmbientLightIntensity.rule.Alike (freeText ρ)
      Kinds.setAmbientLightIntensity.rule := by
  refine .statement ((alike_valueOr "INTENSITY" .none (by decide)).bind fun n n' hn => ?_)
  exact alike_perform (.cons hn .nil)

/-- A number is set on a variable. -/
theorem alike_setNumber (input : String) :
    Rule.Alike (freeText ρ)
      (.statement do
        let name ← Plan.identifierIn "VAR"
        let number ← Plan.valueOr input .none "1"
        Plan.perform [name, number])
      (.statement do
        let name ← Plan.identifierIn "VAR"
        let number ← Plan.valueOr input .none "1"
        Plan.perform [name, number]) := by
  refine .statement ((alike_identifierIn "VAR").bind fun name name' hname => ?_)
  refine (alike_valueOr input .none (by decide)).bind fun number number' hnumber => ?_
  exact alike_perform (.cons hname (.cons hnumber .nil))

theorem alike_moveShapeTowardsShape :
    Kinds.moveShapeTowardsShape.rule.Alike (freeText ρ) Kinds.moveShapeTowardsShape.rule := by
  refine .statement ((alike_identifierIn "SHAPE1").bind fun shape shape' hshape => ?_)
  refine (alike_identifierIn "SHAPE2").bind fun target target' htarget => ?_
  refine (alike_valueOr "STEPS" .none (by decide)).bind fun steps steps' hsteps => ?_
  exact alike_perform (.cons hshape (.cons htarget (.cons hsteps .nil)))

theorem sameOutside_handler {body body' : String} (h : SameOutside body body') :
    SameOutside (Kinds.handler body) (Kinds.handler body') := by
  unfold Kinds.handler
  rw [h.isEmpty_eq]
  split_ifs
  · exact .of_unquoted (by decide)
  · exact ((SameOutside.of_unquoted (by decide)).append h).append (.of_unquoted (by decide))

theorem alike_onClick : Kinds.onClick.rule.Alike (freeText ρ) Kinds.onClick.rule := by
  refine .statement ((alike_identifierIn "VAR").bind fun name name' hname => ?_)
  refine (alike_bodyOf "DO").bind fun body body' hbody => ?_
  exact alike_perform (.cons hname (.cons (sameOutside_handler hbody) .nil))

theorem alike_setSkyColor : Kinds.setSkyColor.rule.Alike (freeText ρ) Kinds.setSkyColor.rule := by
  refine .statement ((alike_literal "COLOR").bind fun colour colour' hcolour => ?_)
  exact alike_perform (.cons hcolour .nil)

theorem alike_lightbulb : Kinds.lightbulb.rule.Alike (freeText ρ) Kinds.lightbulb.rule := by
  refine .value ((alike_valueOr "BRIGHTNESS" .none (by decide)).bind fun n n' hn => ?_)
  refine (alike_literal "COLOR").bind fun colour colour' hcolour => ?_
  exact alike_describe "lightbulb"
    (.cons (sameProp (by decide) hn) (.cons (sameProp (by decide) hcolour) .nil))

theorem alike_spotlight : Kinds.spotlight.rule.Alike (freeText ρ) Kinds.spotlight.rule := by
  refine .value ((alike_valueOr "BRIGHTNESS" .none (by decide)).bind fun n n' hn => ?_)
  refine (alike_valueOr "ANGLE" .none (by decide)).bind fun angle angle' hangle => ?_
  refine (alike_literal "COLOR").bind fun colour colour' hcolour => ?_
  exact alike_describe "spotlight" (.cons (sameProp (by decide) hn)
    (.cons (sameProp (by decide) hangle) (.cons (sameProp (by decide) hcolour) .nil)))

theorem alike_colourPicker :
    Kinds.colourPicker.rule.Alike (freeText ρ) Kinds.colourPicker.rule :=
  .value ((alike_literal "COLOUR").bind fun _ _ hcolour => .done ⟨hcolour, rfl⟩)

theorem alike_colorMaterial :
    Kinds.colorMaterial.rule.Alike (freeText ρ) Kinds.colorMaterial.rule := by
  refine .value ((alike_require "COLOR" .none).bind fun colour colour' hcolour => ?_)
  exact alike_describe "color" (.cons (sameProp (by decide) hcolour) .nil)

theorem alike_textureMaterial :
    Kinds.textureMaterial.rule.Alike (freeText ρ) Kinds.textureMaterial.rule := by
  refine .value ((alike_literal "TEXTURE").bind fun texture texture' htexture => ?_)
  exact alike_describe "texture" (.cons (sameProp (by decide) htexture) .nil)

theorem alike_solid (kind tooltip : String) :
    (Kinds.solid kind tooltip).rule.Alike (freeText ρ) (Kinds.solid kind tooltip).rule := by
  refine .value ((alike_require "MATERIAL" .none).bind fun material material' hmaterial => ?_)
  refine (alike_valueOr "SCALE" .none (by decide)).bind fun scale scale' hscale => ?_
  refine .owner fun id id' kind _ => .done ⟨sameOutside_descriptor id id' kind kind ?_, rfl⟩
  exact .cons (sameProp (by decide) hmaterial) (.cons (sameProp (by decide) hscale) .nil)

theorem alike_customObject :
    Kinds.customObject.rule.Alike (freeText ρ) Kinds.customObject.rule := by
  refine .value ((alike_literal "MODEL").bind fun model model' hmodel => ?_)
  refine (alike_literal "NAME").bind fun name name' hname => ?_
  refine (alike_callWith (.cons hmodel (.cons hname .nil))).bind fun object object' hobject => ?_
  refine (alike_value? "MATERIAL" .none).bind fun material material' hmaterial => ?_
  refine alike_describe "custom" (.cons (sameProp (by decide) hobject) ?_)
  cases hmaterial with
  | none => exact .nil
  | some hmaterial => exact .cons (sameProp (by decide) hmaterial) .nil

theorem alike_coords : Kinds.coords.rule.Alike (freeText ρ) Kinds.coords.rule := by
  refine .value ((alike_numberIn "X").bind fun x x' hx => ?_)
  refine (alike_numberIn "Y").bind fun y y' hy => ?_
  refine (alike_numberIn "Z").bind fun z z' hz => .done ⟨?_, rfl⟩
  have hcomma := SameOutside.of_unquoted (s := ",") (by decide)
  have hx := (SameOutside.of_unquoted (s := "[") (by decide)).append hx
  exact ((((hx.append hcomma).append hy).append hcomma).append hz).append
    (.of_unquoted (by decide))

theorem alike_mathNumber : Kinds.mathNumber.rule.Alike (freeText ρ) Kinds.mathNumber.rule :=
  .value ((alike_numberIn "NUM").bind fun _ _ hn => .done ⟨hn, rfl⟩)

theorem alike_getter (kind : String) (tag : SocketTag) (fallback tooltip : String) :
    (Kinds.getter kind tag fallback tooltip).rule.Alike (freeText ρ)
      (Kinds.getter kind tag fallback tooltip).rule :=
  .value ((alike_identifierIn "VAR").bind fun _ _ hname => .done ⟨hname, rfl⟩)

/-- **The rules of all standard kinds** put texts and ids only inside of literals. -/
theorem alike_standard {d : Definition} (hd : d ∈ Registry.standard.definitions) :
    d.rule.Alike (freeText ρ) d.rule := by
  simp only [Registry.definitions_standard, Kinds.standard, List.mem_cons, List.not_mem_nil,
    or_false] at hd
  rcases hd with rfl | rfl | rfl | rfl | rfl | rfl | rfl | rfl | rfl | rfl | rfl | rfl | rfl |
    rfl | rfl | rfl | rfl | rfl | rfl | rfl | rfl | rfl | rfl | rfl | rfl
  · exact alike_moveCamera
  · exact alike_createLight
  · exact alike_moveLightAlong
  · exact alike_setAmbientLightIntensity
  · exact alike_setNumber "INTENSITY"
  · exact alike_lightbulb
  · exact alike_spotlight
  · exact alike_colourPicker
  · exact alike_colorMaterial
  · exact alike_textureMaterial
  · exact alike_setNumber "MASS"
  · exact alike_createShape
  · exact alike_createShapeAndAddTo
  · exact alike_moveShapeTowardsShape
  · exact alike_solid _ _
  · exact alike_solid _ _
  · exact alike_solid _ _
  · exact alike_solid _ _
  · exact alike_customObject
  · exact alike_onClick
  · exact alike_setSkyColor
  · exact alike_coords
  · exact alike_mathNumber
  · exact alike_getter _ _ _ _
  · exact alike_getter _ _ _ _

end Rules

/-! ## Programs -/

theorem unquoted_number (x : Double) : Unquoted (Literal.number x) := by
  rintro c hc rfl
  exact absurd (isNumberChar_number hc) (by decide)

theorem sameOutside_call {runtime : String} (hruntime : Unquoted runtime) (op : Operation)
    {args args' : List String} (h : List.Forall₂ SameOutside args args') :
    SameOutside (op.call runtime args) (op.call runtime args') := by
  have hkeyword : Unquoted op.keyword := by cases op <;> decide
  have hname : Unquoted op.name := by cases op <;> decide
  have htarget := (SameOutside.of_unquoted hkeyword).append (.of_unquoted hruntime)
  have hhead := (htarget.append (.of_unquoted (s := ".") (by decide))).append (.of_unquoted hname)
  exact ((hhead.append (.of_unquoted (by decide))).append (.intercalate (by decide) h)).append
    (.of_unquoted (by decide))

section Programs

variable {w w' : Workspace} (hblank : w.blank = w'.blank)
  (hw : w.WellLinked Registry.standard.shape?) (hw' : w'.WellLinked Registry.standard.shape?)
  {options : ScriptOptions} (hruntime : Unquoted options.runtime)
  (hindent : Unquoted options.indent)

include hblank hindent in
theorem lockstep_valueCode_of_blank_eq {ρ : String → String → Prop}
    {inner inner' : Ref → Gen Fragment} (hinner : InnerAlike (freeText ρ) inner inner')
    {b b' : Block} (hb : b.blank = b'.blank) (input : String) (outer : Precedence) :
    Lockstep (SameScope ρ) (Option.Rel SameOutside)
      (({ workspace := w, registry := .standard, options } : Program).valueCode inner b input outer)
      (({ workspace := w', registry := .standard, options } : Program).valueCode inner' b' input
        outer) := by
  have hinput := Block.eq_of_blank_eq hb (·.valueInput input) fun _ => rfl
  unfold Program.valueCode
  rw [hinput]
  cases b'.valueInput input with
  | none => exact lockstep_pure .none
  | some r =>
    have hchild := Workspace.rel_block?_of_blank_eq hblank r
    dsimp only
    unfold Program.block
    dsimp only
    generalize w.block? r = child at hchild ⊢
    generalize w'.block? r = child' at hchild ⊢
    cases hchild with
    | none => exact lockstep_throw _
    | @some child child' hchild =>
      have hrefuses :
          ({ workspace := w, registry := .standard, options } : Program).refuses b input child =
          ({ workspace := w', registry := .standard, options } : Program).refuses b' input
            child' := by
        unfold Program.refuses Program.definition?
        rw [Block.output_eq_of_blank_eq hchild, Block.kind_eq_of_blank_eq hb]
      simp only [pure_bind, hrefuses]
      split_ifs
      · exact lockstep_pure .none
      · exact Program.lockstep_innerValue (regular_freeText ρ hindent) hinner r outer

include hblank hw hw' hruntime hindent in
/-- Blocks at the same place give code that is the same outside of literals. -/
theorem blockAlike_of_blank_eq {r : Ref} {b b' : Block} (hget : w.block? r = some b)
    (hget' : w'.block? r = some b') (hb : b.blank = b'.blank) :
    ({ workspace := w, registry := .standard, options } : Program).BlockAlike
      (freeText (w.SameId w')) { workspace := w', registry := .standard, options } b b' where
  id := trivial
  kind := Block.kind_eq_of_blank_eq hb
  enabled := Block.eq_of_blank_eq hb Block.enabled fun _ => rfl
  output := Block.output_eq_of_blank_eq hb
  next := Block.eq_of_blank_eq hb Block.next fun _ => rfl
  rule := by
    unfold Program.definition?
    rw [Block.kind_eq_of_blank_eq hb]
    cases hd : Registry.standard.get? b'.kind with
    | none => exact .none
    | some d => exact .some (alike_standard (Registry.mem_of_get? hd))
  statements := fun input => Block.eq_of_blank_eq hb (·.statementInput input) fun _ => rfl
  value := fun hinner input outer =>
    lockstep_valueCode_of_blank_eq hblank hindent hinner hb input outer
  identifier := fun field => by
    rw [Program.variableField_eq, Program.variableField_eq]
    refine (handsOut_identifier (Workspace.SameId.eq_iff hw hw') (Block.kind_eq_of_blank_eq hb)
      ⟨r, b, b', hget, hget', rfl, rfl⟩ ?_).lockstep
    exact Block.bind_get?_of_blank_eq hb field FieldValue.reference?_blank
  text := fun _ => trivial
  number := fun field => by
    have hvalue := Block.bind_get?_of_blank_eq hb field FieldValue.number?_blank
    unfold Program.fieldNumber Program.fieldDefault? Program.fieldKind? Program.definition?
    rw [hvalue, Block.kind_eq_of_blank_eq hb]
    exact .of_unquoted (unquoted_number _)
  call := fun args args' hargs => by
    unfold Program.runtimeCall Program.definition?
    rw [Block.kind_eq_of_blank_eq hb]
    cases (Registry.standard.get? b'.kind).bind Definition.operation with
    | none => exact .nil
    | some op => exact sameOutside_call hruntime op hargs

include hblank hw hw' hruntime hindent in
theorem alike_of_blank_eq :
    ({ workspace := w, registry := .standard, options } : Program).Alike (freeText (w.SameId w'))
      { workspace := w', registry := .standard, options } where
  regular := regular_freeText _ hindent
  indent := rfl
  scope := by
    have hdeclared : w.blank.declared = w'.blank.declared := by rw [hblank]
    refine ⟨sound_initial w.declared options.runtime, ?_, .nil⟩
    exact congrArg (Namespace.ofVariables · options.runtime) hdeclared
  top := show w.blank.top = w'.blank.top by rw [hblank]
  size := Workspace.size_eq_of_blank_eq hblank
  block := fun r => by
    have hrel := Workspace.rel_block?_of_blank_eq hblank r
    dsimp only
    generalize hb : w.block? r = found at hrel ⊢
    generalize hb' : w'.block? r = found' at hrel ⊢
    cases hrel with
    | none => exact .none
    | some hrel => exact .some (blockAlike_of_blank_eq hblank hw hw' hruntime hindent hb hb' hrel)

end Programs

/-- **Free text cannot change a script.** If two texts describe workspaces that differ only in typed
texts and in ids, then their scripts are the same outside of string literals, which are equally
many. -/
theorem skeleton_eq_of_blank_eq (options : ScriptOptions) (hruntime : Unquoted options.runtime)
    (hindent : Unquoted options.indent) (text text' : String) (w w' : Workspace)
    (h : (parse Registry.standard.shape? text).workspace = some w)
    (h' : (parse Registry.standard.shape? text').workspace = some w')
    (hblank : w.blank = w'.blank) :
    ∃ script script',
      ({ workspace := w, registry := .standard, options } : Program).script = .ok script ∧
      ({ workspace := w', registry := .standard, options } : Program).script = .ok script' ∧
      skeleton script = skeleton script' := by
  obtain ⟨script, hscript⟩ := exists_script_of_parse h options
  obtain ⟨script', hscript'⟩ := exists_script_of_parse h' options
  have houtcome := (alike_of_blank_eq hblank (wellLinked_of_parse h) (wellLinked_of_parse h')
    hruntime hindent).script
  rw [hscript, hscript'] at houtcome
  have hsame : SameOutside script script' := houtcome
  exact ⟨script, script', hscript, hscript', hsame.skeleton_eq⟩

/-- A shape is made from a model that has a name. -/
def modelText : String :=
  "[[0, [[\"create_shape\", \"a\", true, \x7b\x7d, \x7b\"SHAPE\": [[\"custom_object\", " ++
    "\"b\", true, \x7b\"NAME\": \"cat\"\x7d]], \"COORDS\": [[\"coords\"]]\x7d]]], []]"

/-- The name and an id try to end the literals that they stand in. -/
def hostileText : String :=
  "[[0, [[\"create_shape\", \"b\", true, \x7b\x7d, \x7b\"SHAPE\": [[\"custom_object\", " ++
    "\"\\\"\", true, \x7b\"NAME\": \"\\\\\\\"); stop(\\\"\"\x7d]], " ++
    "\"COORDS\": [[\"coords\"]]\x7d]]], []]"

theorem skeleton_hostileText :
    ∃ w w' script script', (parse Registry.standard.shape? modelText).workspace = some w ∧
      (parse Registry.standard.shape? hostileText).workspace = some w' ∧ w.blank = w'.blank ∧
      ({ workspace := w, registry := .standard } : Program).script = .ok script ∧
      ({ workspace := w', registry := .standard } : Program).script = .ok script' ∧
      script' = "shape_1 = [\x7b id: \"\\\"\", type: \"custom\", props: \x7b o: new threeD." ++
        "customObject(\"model.glb\", \"\\\\\\\"); stop(\\\"\") \x7d\x7d]; " ++
        "await threeD.createShape(shape_1, [0,0,0]);" ∧
      skeleton script = skeleton script' := by
  have hchars : modelText.toList = _ :=
    Json.toList_append_of String.toList_ofList String.toList_ofList
  have hchars' : hostileText.toList = _ :=
    Json.toList_append_of (Json.toList_append_of String.toList_ofList String.toList_ofList)
      String.toList_ofList
  have hsome : (parse Registry.standard.shape? modelText).workspace.isSome = true := by
    rw [parse, Document.ofText, Json.decodeText, Json.Draft.ofText_of_toList hchars]
    decide +kernel
  have hscript : ((parse Registry.standard.shape? hostileText).workspace.bind fun w =>
      ({ workspace := w, registry := .standard } : Program).script.toOption) =
        some ("shape_1 = [\x7b id: \"\\\"\", type: \"custom\", props: \x7b o: new threeD." ++
          "customObject(\"model.glb\", \"\\\\\\\"); stop(\\\"\") \x7d\x7d]; " ++
          "await threeD.createShape(shape_1, [0,0,0]);") := by
    rw [parse, Document.ofText, Json.decodeText, Json.Draft.ofText_of_toList hchars']
    decide +kernel
  have hblank : ((Document.ofText modelText).toOption.map fun document =>
      (document.workspace Registry.standard.shape?).blank) =
        (Document.ofText hostileText).toOption.map fun document =>
          (document.workspace Registry.standard.shape?).blank := by
    rw [Document.ofText, Document.ofText, Json.decodeText, Json.decodeText,
      Json.Draft.ofText_of_toList hchars, Json.Draft.ofText_of_toList hchars']
    decide +kernel
  obtain ⟨w, hw⟩ := Option.isSome_iff_exists.1 hsome
  obtain ⟨w', hw', hscript⟩ := Option.bind_eq_some_iff.1 hscript
  obtain ⟨document, hdocument, -, -, rfl⟩ := exists_document_of_parse hw
  obtain ⟨document', hdocument', -, -, rfl⟩ := exists_document_of_parse hw'
  rw [hdocument, hdocument'] at hblank
  have hblank := Option.some.inj hblank
  obtain ⟨script, script', hok, hok', hskeleton⟩ :=
    skeleton_eq_of_blank_eq {} (by decide) (by decide) modelText hostileText _ _ hw hw' hblank
  rw [hok'] at hscript
  exact ⟨_, _, script, script', hw, hw', hblank, hok, hok', Option.some.inj hscript, hskeleton⟩

end Script

end SceneScript
