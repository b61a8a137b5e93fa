import SceneScript.Proofs.Levels

/-!
# Links between statements

Linking sets the end of the upper block and the end of the lower one, each only if that block is a
statement, and the parent of the lower one in any case. What was linked before is not looked at. So
both ends tell of the same links only if every link joins two statements that are joined to nothing
else there; a link that replaces another one, or that has an expression at one end, leaves an end
behind.

* `Workspace.Edit`, `Workspace.edited`: insertions and links, one after another.
* `Workspace.Symmetric`: both ends of each link tell of it.
* `Workspace.symmetric_linkNext_iff`: when a link keeps both ends in agreement.
* **`links_edited`**: what holds of the links after any insertions and links.
-/

namespace SceneScript

/-! ## The two ends of a link -/

namespace Block

variable (b : Block) (r : Ref)

@[simp] theorem isStatement_withNext : (b.withNext r).isStatement = b.isStatement := by
  obtain ⟨_, _, _, _, _, linkage, _, _⟩ := b
  cases linkage <;> rfl

@[simp] theorem next_withNext :
    (b.withNext r).next = if b.isStatement then some r else b.next := by
  obtain ⟨_, _, _, _, _, linkage, _, _⟩ := b
  cases linkage <;> rfl

@[simp] theorem next_below : (b.below r).next = b.next := by
  obtain ⟨_, _, _, _, _, linkage, _, _⟩ := b
  cases linkage <;> rfl

@[simp] theorem previous_withNext : (b.withNext r).previous = b.previous := by
  obtain ⟨_, _, _, _, _, linkage, _, _⟩ := b
  cases linkage <;> rfl

@[simp] theorem previous_below :
    (b.below r).previous = if b.isStatement then some r else b.previous := by
  obtain ⟨_, _, _, _, _, linkage, _, _⟩ := b
  cases linkage <;> rfl

@[simp] theorem parent_withNext : (b.withNext r).parent = b.parent := by
  obtain ⟨_, _, _, _, _, linkage, _, _⟩ := b
  cases linkage <;> rfl

@[simp] theorem parent_below : (b.below r).parent = some r := by
  obtain ⟨_, _, _, _, _, linkage, _, _⟩ := b
  cases linkage <;> rfl

variable {b r}

theorem next_eq_none_of_expression (h : b.isStatement = false) : b.next = none := by
  obtain ⟨_, _, _, _, _, linkage, _, _⟩ := b
  cases linkage with
  | statement => cases h
  | expression => rfl

theorem previous_eq_none_of_expression (h : b.isStatement = false) : b.previous = none := by
  cases hprevious : b.previous with
  | none => rfl
  | some p => rw [isStatement_of_previous hprevious] at h; cases h

theorem withNext_eq_self_iff : b.withNext r = b ↔ (b.isStatement = true → b.next = some r) := by
  obtain ⟨_, _, _, _, _, linkage, _, _⟩ := b
  cases linkage with
  | statement previous next => simp [withNext, isStatement, output, Block.next, eq_comm]
  | expression => simp [withNext, isStatement, output]

theorem below_eq_self_iff : b.below r = b ↔
    b.parent = some r ∧ (b.isStatement = true → b.previous = some r) := by
  obtain ⟨_, _, _, _, _, linkage, _, _⟩ := b
  cases linkage with
  | statement previous next => simp [below, isStatement, output, Block.previous, eq_comm, and_comm]
  | expression => simp [below, isStatement, output, eq_comm]

end Block

namespace Workspace

/-- The block of a reference is there, and it is a statement. -/
def isStatementAt (w : Workspace) (r : Ref) : Bool := (w.block? r).any Block.isStatement

/-- The statement below a block. -/
def next? (w : Workspace) (r : Ref) : Option Ref := (w.block? r).bind Block.next

/-- The statement above a block. -/
def previous? (w : Workspace) (r : Ref) : Option Ref := (w.block? r).bind Block.previous

/-- The block that a block hangs in. -/
def parent? (w : Workspace) (r : Ref) : Option Ref := (w.block? r).bind Block.parent

/-- A block is below another one exactly if that one is above it. -/
def Symmetric (w : Workspace) : Prop := ∀ p n, w.next? p = some n ↔ w.previous? n = some p

variable {w : Workspace} {p n r : Ref}

theorem block?_modify (w : Workspace) (r s : Ref) (f : Block → Block) :
    (w.modify r f).block? s = if r = s then (w.block? s).map f else w.block? s :=
  Array.getElem?_modify

theorem modify_eq_self {f : Block → Block} (h : ∀ b, w.block? r = some b → f b = b) :
    w.modify r f = w := by
  have hblocks : w.blocks.modify r f = w.blocks := by
    apply Array.ext_getElem?
    intro i
    rw [Array.getElem?_modify]
    split_ifs with hi
    · subst hi
      cases hb : w.blocks[r]? with
      | none => rfl
      | some b => rw [Option.map_some, h b hb]
    · rfl
  simp only [modify, hblocks]

theorem next?_eq_none_of_expression (h : w.isStatementAt r = false) : w.next? r = none := by
  unfold isStatementAt at h
  unfold next?
  cases hb : w.block? r with
  | none => rfl
  | some b =>
    rw [hb] at h
    exact Block.next_eq_none_of_expression h

theorem previous?_eq_none_of_expression (h : w.isStatementAt r = false) : w.previous? r = none := by
  unfold isStatementAt at h
  unfold previous?
  cases hb : w.block? r with
  | none => rfl
  | some b =>
    rw [hb] at h
    exact Block.previous_eq_none_of_expression h

/-! ## One link -/

section LinkNext

variable (hp : p < w.size)

include hp

theorem block?_linkNext (r : Ref) : (w.linkNext p n).block? r =
    (w.block? r).map fun b =>
      if n = r then (if p = r then b.withNext n else b).below p
      else if p = r then b.withNext n else b := by
  rw [linkNext, if_pos hp, block?_modify, block?_modify]
  split_ifs <;> cases w.block? r <;> rfl

theorem next?_linkNext (r : Ref) : (w.linkNext p n).next? r =
    if p = r ∧ w.isStatementAt p = true then some n else w.next? r := by
  obtain ⟨a, ha⟩ := exists_block_of_lt hp
  rw [next?, next?, block?_linkNext hp]
  by_cases hr : p = r
  · subst hr
    cases hstatement : a.isStatement <;> by_cases hn : n = p <;>
      simp [isStatementAt, ha, hn, hstatement]
  · cases w.block? r with
    | none => simp [hr]
    | some b => by_cases hn : n = r <;> simp [hr, hn]

theorem previous?_linkNext (hn : n < w.size) (r : Ref) : (w.linkNext p n).previous? r =
    if n = r ∧ w.isStatementAt n = true then some p else w.previous? r := by
  obtain ⟨c, hc⟩ := exists_block_of_lt hn
  rw [previous?, previous?, block?_linkNext hp]
  by_cases hr : n = r
  · subst hr
    cases hstatement : c.isStatement <;> by_cases hp : p = n <;>
      simp [isStatementAt, hc, hp, hstatement]
  · cases w.block? r with
    | none => simp [hr]
    | some b => by_cases hp : p = r <;> simp [hr, hp]

theorem parent?_linkNext (hn : n < w.size) (r : Ref) : (w.linkNext p n).parent? r =
    if n = r then some p else w.parent? r := by
  obtain ⟨c, hc⟩ := exists_block_of_lt hn
  rw [parent?, parent?, block?_linkNext hp]
  by_cases hr : n = r
  · subst hr
    simp [hc]
  · cases w.block? r with
    | none => simp [hr]
    | some b => by_cases hp : p = r <;> simp [hr, hp]

end LinkNext

/-- Two statements with nothing else below the upper and nothing else above the lower one; or two
expressions, which have no place for a link. -/
structure Joins (w : Workspace) (p n : Ref) : Prop where
  alike : w.isStatementAt p = w.isStatementAt n
  below : w.isStatementAt p = true → ∀ m, w.next? p = some m → m = n
  above : w.isStatementAt n = true → ∀ q, w.previous? n = some q → q = p

/-- All that a link sets is set already. -/
structure Joined (w : Workspace) (p n : Ref) : Prop where
  parent : w.parent? n = some p
  below : w.isStatementAt p = true → w.next? p = some n
  above : w.isStatementAt n = true → w.previous? n = some p

/-- A link of two blocks keeps all links two-sided exactly if it joins the blocks. -/
theorem symmetric_linkNext_iff (h : w.Symmetric) (hp : p < w.size) (hn : n < w.size) :
    (w.linkNext p n).Symmetric ↔ w.Joins p n := by
  have hnext := next?_linkNext (n := n) hp
  have hprevious := previous?_linkNext hp hn
  constructor
  · intro hlinked
    -- With an expression at one end, the other end would be left behind.
    have hends : w.isStatementAt p = true ↔ w.isStatementAt n = true := by
      have hedge := hlinked p n
      rw [hnext, hprevious] at hedge
      constructor
      · intro hupper
        by_contra hlower
        rw [Bool.not_eq_true] at hlower
        simp [hupper, hlower, previous?_eq_none_of_expression hlower] at hedge
      · intro hlower
        by_contra hupper
        rw [Bool.not_eq_true] at hupper
        simp [hupper, hlower, next?_eq_none_of_expression hupper] at hedge
    refine ⟨Bool.eq_iff_iff.2 hends, fun hupper m hm => ?_, fun hlower q hq => ?_⟩
    · by_contra hne
      have hleft : (w.linkNext p n).previous? m = some p := by
        rw [hprevious, if_neg fun h => hne h.1.symm, (h p m).1 hm]
      have hedge := (hlinked p m).2 hleft
      rw [hnext, if_pos ⟨rfl, hupper⟩] at hedge
      exact hne (Option.some.inj hedge).symm
    · by_contra hne
      have hleft : (w.linkNext p n).next? q = some n := by
        rw [hnext, if_neg fun h => hne h.1.symm, (h q n).2 hq]
      have hedge := (hlinked q n).1 hleft
      rw [hprevious, if_pos ⟨rfl, hlower⟩] at hedge
      exact hne (Option.some.inj hedge).symm
  · intro hjoins a c
    rw [hnext, hprevious]
    cases hupper : w.isStatementAt p with
    | false =>
      rw [if_neg (by simp), if_neg (by simp [← hjoins.alike, hupper])]
      exact h a c
    | true =>
      have hlower : w.isStatementAt n = true := hjoins.alike ▸ hupper
      simp only [hlower, and_true]
      by_cases ha : p = a <;> by_cases hc : n = c
      · simp [ha, hc]
      · have hother : w.previous? c ≠ some a := by
          intro hc'
          subst ha
          exact hc (hjoins.below hupper c ((h p c).2 hc')).symm
        simp [ha, hc, hother]
      · have hother : w.next? a ≠ some c := by
          intro ha'
          subst hc
          exact ha (hjoins.above hlower a ((h a n).1 ha')).symm
        simp [ha, hc, hother]
      · simp [ha, hc, h a c]

/-- A link changes nothing exactly if all that it sets is set already. -/
theorem linkNext_eq_self_iff (hp : p < w.size) (hn : n < w.size) :
    w.linkNext p n = w ↔ w.Joined p n := by
  constructor
  · intro hsame
    refine ⟨?_, fun hupper => ?_, fun hlower => ?_⟩
    · rw [← hsame, parent?_linkNext hp hn, if_pos rfl]
    · rw [← hsame, next?_linkNext hp, if_pos ⟨rfl, hupper⟩]
    · rw [← hsame, previous?_linkNext hp hn, if_pos ⟨rfl, hlower⟩]
  · intro hjoined
    have hupper : w.modify p (·.withNext n) = w := by
      refine modify_eq_self fun b hb => Block.withNext_eq_self_iff.2 fun hstatement => ?_
      have hnext := hjoined.below (by rw [isStatementAt, hb]; exact hstatement)
      rwa [next?, hb] at hnext
    have hlower : w.modify n (·.below p) = w := by
      refine modify_eq_self fun b hb => Block.below_eq_self_iff.2 ⟨?_, fun hstatement => ?_⟩
      · have hparent := hjoined.parent
        rwa [parent?, hb] at hparent
      · have hprevious := hjoined.above (by rw [isStatementAt, hb]; exact hstatement)
        rwa [previous?, hb] at hprevious
    rw [linkNext, if_pos hp, hupper, hlower]

/-! ## Insertions and links -/

/-- A change of a workspace. -/
inductive Edit where
  | insert (b : Block)
  | link (prev next : Ref)

/-- The workspace after a change. -/
def edit (w : Workspace) : Edit → Workspace
  | .insert b => w.insert b
  | .link prev next => w.linkNext prev next

/-- The workspace after changes one after another. -/
def edited (w : Workspace) (edits : List Edit) : Workspace := edits.foldl edit w

/-- A block that hangs nowhere is inserted, or two blocks that are there are linked. -/
def Edit.Proper (w : Workspace) : Edit → Prop
  | .insert b => b.next = none ∧ b.previous = none ∧ b.parent = none
  | .link prev next => prev < w.size ∧ next < w.size

/-- A link joins two blocks. -/
def Edit.Joining (w : Workspace) : Edit → Prop
  | .insert _ => True
  | .link prev next => w.Joins prev next

/-- Each of some changes is as asked when it is made. -/
def Along (P : Workspace → Edit → Prop) : Workspace → List Edit → Prop
  | _, [] => True
  | w, e :: edits => P w e ∧ Along P (w.edit e) edits

theorem block?_insert (w : Workspace) (b : Block) (r : Ref) :
    (w.insert b).block? r = if r = w.size then some b else w.block? r :=
  Array.getElem?_push

/-- An end that is free on the new block stays as it is everywhere. -/
theorem bind_block?_insert (w : Workspace) {b : Block} {link : Block → Option Ref}
    (hb : link b = none) (r : Ref) : ((w.insert b).block? r).bind link = (w.block? r).bind link := by
  rw [block?_insert]
  split_ifs with hr
  · subst hr
    have hnone : w.block? w.size = none := Array.getElem?_eq_none (Nat.le_refl _)
    rw [hnone, Option.bind_some, hb]
    rfl
  · rfl

/-! ### What one change keeps -/

variable {e : Edit}

theorem symmetric_edit_iff (h : w.Symmetric) (he : e.Proper w) :
    (w.edit e).Symmetric ↔ e.Joining w := by
  cases e with
  | insert b =>
    refine iff_of_true (fun p n => ?_) trivial
    rw [edit, next?, previous?, bind_block?_insert w he.1, bind_block?_insert w he.2.1]
    exact h p n
  | link prev next => exact symmetric_linkNext_iff h he.1 he.2

/-- The statement above a block is the block that it hangs in. -/
def Parented (w : Workspace) : Prop := ∀ n p, w.previous? n = some p → w.parent? n = some p

theorem Parented.edit (h : w.Parented) (he : e.Proper w) : (w.edit e).Parented := by
  intro n p hn
  cases e with
  | insert b =>
    rw [Workspace.edit, previous?, bind_block?_insert w he.2.1] at hn
    rw [Workspace.edit, parent?, bind_block?_insert w he.2.2]
    exact h n p hn
  | link prev next =>
    rw [Workspace.edit, previous?_linkNext he.1 he.2] at hn
    rw [Workspace.edit, parent?_linkNext he.1 he.2]
    by_cases hnext : next = n
    · subst hnext
      rw [if_pos rfl]
      cases hstatement : w.isStatementAt next with
      | false =>
        rw [if_neg (by simp [hstatement]), previous?_eq_none_of_expression hstatement] at hn
        cases hn
      | true => rwa [if_pos ⟨rfl, hstatement⟩] at hn
    · rw [if_neg fun h => hnext h.1] at hn
      rw [if_neg hnext]
      exact h n p hn

/-! ### What all changes keep -/

theorem Parented.edited : ∀ {edits : List Edit} {w : Workspace}, w.Parented →
    Along Edit.Proper w edits → (w.edited edits).Parented
  | [], _, h, _ => h
  | e :: edits, w, h, hproper => by
    show ((w.edit e).edited edits).Parented
    exact Parented.edited (h.edit hproper.1) hproper.2

/-- All links stay two-sided all the time exactly if every link joins two blocks. -/
theorem symmetric_throughout_iff : ∀ {edits : List Edit} {w : Workspace}, w.Symmetric →
    Along Edit.Proper w edits →
      ((∀ k, (w.edited (edits.take k)).Symmetric) ↔ Along Edit.Joining w edits)
  | [], w, h, _ => iff_of_true (fun k => by rw [List.take_nil]; exact h) trivial
  | e :: edits, w, h, hproper => by
    constructor
    · intro hall
      have hfirst : (w.edit e).Symmetric := hall 1
      have hrest := (symmetric_throughout_iff hfirst hproper.2).1 fun k => hall (k + 1)
      exact ⟨(symmetric_edit_iff h hproper.1).1 hfirst, hrest⟩
    · rintro ⟨hjoining, hrest⟩ k
      have hfirst := (symmetric_edit_iff h hproper.1).2 hjoining
      cases k with
      | zero => exact h
      | succ k => exact (symmetric_throughout_iff hfirst hproper.2).2 hrest k

end Workspace

open Workspace

/-- **Links after any insertions and links.** The statement above a block is its parent. Both ends of
all links agree all the time exactly if every link joins two statements that are linked to nothing
else there, or two expressions. A link changes nothing exactly if all that it sets is set already,
also if it is about an expression. -/
theorem links_edited (edits : List Edit) (h : Along Edit.Proper {} edits) :
    (∀ n p, (edited {} edits).previous? n = some p → (edited {} edits).parent? n = some p) ∧
      ((∀ k, (edited {} (edits.take k)).Symmetric) ↔ Along Edit.Joining {} edits) ∧
        ∀ p n, p < (edited {} edits).size → n < (edited {} edits).size →
          ((edited {} edits).linkNext p n = edited {} edits ↔ (edited {} edits).Joined p n) := by
  have hempty : ∀ r, ({} : Workspace).block? r = none := fun r => rfl
  have hsymmetric : ({} : Workspace).Symmetric := fun p n => by simp [next?, previous?, hempty]
  have hparented : ({} : Workspace).Parented := fun n p hn => by simp [previous?, hempty] at hn
  exact ⟨hparented.edited h, symmetric_throughout_iff hsymmetric h, fun _ _ => linkNext_eq_self_iff⟩

/-- A statement that hangs nowhere. -/
def looseStatement : Block := { id := "s", kind := "set_mass", linkage := .statement none none }

/-- An expression that hangs nowhere. -/
def looseExpression : Block := { id := "c", kind := "coords", linkage := .expression .coords }

/-- Two statements are linked, and then a third one below them. -/
def chainEdits : List Edit :=
  [.insert looseStatement, .insert looseStatement, .link 0 1, .insert looseStatement, .link 1 2]

theorem links_edited_chainEdits : Along Edit.Proper {} chainEdits ∧
    (∀ k, (edited {} (chainEdits.take k)).Symmetric) ∧
      (edited {} chainEdits).parent? 2 = some 1 ∧
        (edited {} chainEdits).linkNext 0 1 = edited {} chainEdits := by
  have hproper : Along Edit.Proper {} chainEdits :=
    ⟨⟨rfl, rfl, rfl⟩, ⟨rfl, rfl, rfl⟩, ⟨by decide, by decide⟩, ⟨rfl, rfl, rfl⟩,
      ⟨by decide, by decide⟩, trivial⟩
  have hlinks := links_edited chainEdits hproper
  have hjoining : Along Edit.Joining {} chainEdits :=
    ⟨trivial, trivial, ⟨rfl, fun _ _ h => (by cases h), fun _ _ h => (by cases h)⟩, trivial,
      ⟨rfl, fun _ _ h => (by cases h), fun _ _ h => (by cases h)⟩, trivial⟩
  exact ⟨hproper, hlinks.2.1.2 hjoining, hlinks.1 2 1 rfl,
    (hlinks.2.2 0 1 (by decide) (by decide)).2 ⟨rfl, fun _ => rfl, fun _ => rfl⟩⟩

/-- An expression and a statement. -/
def mixedEdits : List Edit := [.insert looseExpression, .insert looseStatement]

/-- Two statements are linked below the same one. -/
def forkEdits : List Edit :=
  [.insert looseStatement, .insert looseStatement, .insert looseStatement, .link 0 1, .link 0 2]

/-- **A link to an expression is not left out**: the statement at its other end tells of it, and the
expression does not. Nor does a link that replaces another one take back the end of the old one. -/
theorem link_leaves_end_behind :
    (Along Edit.Proper {} mixedEdits ∧ (edited {} mixedEdits).isStatementAt 0 = false ∧
      (edited {} mixedEdits).linkNext 0 1 ≠ edited {} mixedEdits ∧
      ¬ ((edited {} mixedEdits).linkNext 0 1).Symmetric) ∧
    (Along Edit.Proper {} forkEdits ∧ ¬ (edited {} forkEdits).Symmetric) := by
  refine ⟨⟨⟨⟨rfl, rfl, rfl⟩, ⟨rfl, rfl, rfl⟩, trivial⟩, rfl, by decide, fun h => ?_⟩,
    ⟨⟨rfl, rfl, rfl⟩, ⟨rfl, rfl, rfl⟩, ⟨rfl, rfl, rfl⟩, ⟨by decide, by decide⟩,
      ⟨by decide, by decide⟩, trivial⟩, fun h => ?_⟩
  · have hnext := (h 0 1).2 rfl
    cases hnext
  · have hnext := (h 0 1).2 rfl
    cases hnext

end SceneScript
