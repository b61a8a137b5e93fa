import SceneScript.Precedence
import SceneScript.Proofs.Hygiene

/-!
# Expressions with operators

The code of an expression puts an operand in parentheses where its operator binds no tighter than
the one around it. Nothing is lost by leaving out the other parentheses: the code can be read back,
whatever context it was made for.

* `Expression`, `Expression.codeIn`: operators over identifiers, and their code in a context.
* `Expression.read?`: the expression that a text spells.
* **`Expression.read?_codeIn`**: the code of an expression spells it.
-/

namespace SceneScript

/-- A text that is an identifier. -/
abbrev Word := { text : String // isIdentifier text = true }

/-- An expression made of operators and identifiers. -/
inductive Expression where
  | word (name : Word)
  /-- A choice between two values. -/
  | conditional (a b c : Expression)
  /-- A member of a value. -/
  | member (a : Expression) (name : Word)
  /-- The function `f` applied to a value. -/
  | application (a : Expression)
deriving DecidableEq

namespace Expression

/-! ## Code -/

/-- The outermost operator. -/
def precedence : Expression → Precedence
  | word _ => .atomic
  | conditional _ _ _ => .conditional
  | member _ _ => .member
  | application _ => .functionCall

/-- The code of an expression. -/
def code : Expression → String
  | word name => name.val
  | conditional a b c =>
    a.precedence.wrap a.code .conditional ++ " ? " ++ b.precedence.wrap b.code .conditional ++ " : " ++
      c.precedence.wrap c.code .conditional
  | member a name => a.precedence.wrap a.code .member ++ "." ++ name.val
  | application a => "f(" ++ a.precedence.wrap a.code .none ++ ")"

/-- The code of an expression in a context. -/
def codeIn (e : Expression) (outer : Precedence) : String := e.precedence.wrap e.code outer

/-- How many operators stand inside each other, and the identifier within. -/
def height : Expression → Nat
  | word _ => 1
  | conditional a b c => max a.height (max b.height c.height) + 1
  | member a _ => a.height + 1
  | application a => a.height + 1

/-! ## Reading -/

/-- An identifier at the start of a text, and what follows it. -/
def readWord (text : List Char) : Option (Word × List Char) :=
  if h : isIdentifierText (text.takeWhile isIdentifierChar) = true then
    some (⟨String.ofList (text.takeWhile isIdentifierChar),
      by rwa [isIdentifier, String.toList_ofList]⟩, text.dropWhile isIdentifierChar)
  else none

section

variable (inner : List Char → Option (Expression × List Char))

/-- An expression up to the parenthesis that closes it. -/
def readClosed (text : List Char) : Option (Expression × List Char) :=
  (inner text).bind fun (a, rest) =>
    match rest with
    | ')' :: rest => some (a, rest)
    | _ => none

/-- An expression in parentheses, an identifier, or the function `f` applied to an expression. -/
def readPrimary : List Char → Option (Expression × List Char)
  | '(' :: rest => readClosed inner rest
  | text =>
    (readWord text).bind fun (name, rest) =>
      match rest with
      | '(' :: rest =>
        if name.val = "f" then (readClosed inner rest).map fun (a, rest) => (.application a, rest)
        else none
      | rest => some (.word name, rest)

/-- An operand of a choice: perhaps a member of something, but no choice. -/
def readOperand (text : List Char) : Option (Expression × List Char) :=
  (readPrimary inner text).bind fun (a, rest) =>
    match rest with
    | '.' :: rest => (readWord rest).map fun (name, rest) => (.member a name, rest)
    | rest => some (a, rest)

end

/-- An expression at the start of a text, with at most `limit` parentheses inside each other. -/
def readWithin : Nat → List Char → Option (Expression × List Char)
  | 0, _ => none
  | limit + 1, text =>
    (readOperand (readWithin limit) text).bind fun (a, rest) =>
      match rest with
      | ' ' :: '?' :: ' ' :: rest =>
        (readOperand (readWithin limit) rest).bind fun (b, rest) =>
          match rest with
          | ' ' :: ':' :: ' ' :: rest =>
            (readOperand (readWithin limit) rest).map fun (c, rest) => (.conditional a b c, rest)
          | _ => none
      | rest => some (a, rest)

/-- The expression that a text spells. -/
def read? (text : String) : Option Expression :=
  (readWithin (text.toList.length + 1) text.toList).bind fun (e, rest) =>
    if rest.isEmpty then some e else none

/-! ## Single steps -/

theorem readWord_append (name : Word) {rest : List Char}
    (h : ∀ c ∈ rest.head?, isIdentifierChar c = false) :
    readWord (name.val.toList ++ rest) = some (name, rest) := by
  have hname : ∀ c ∈ name.val.toList, isIdentifierChar c = true := isIdentifierChar_of_mem name.2
  have htake : rest.takeWhile isIdentifierChar = [] := by
    cases rest with
    | nil => rfl
    | cons c rest => exact List.takeWhile_cons_of_neg (by simp [h c rfl])
  have hdrop : rest.dropWhile isIdentifierChar = rest := by
    have happend := List.takeWhile_append_dropWhile (p := isIdentifierChar) (l := rest)
    rwa [htake, List.nil_append] at happend
  have hall : (name.val.toList ++ rest).takeWhile isIdentifierChar = name.val.toList := by
    rw [List.takeWhile_append_of_pos hname, htake, List.append_nil]
  have hrest : (name.val.toList ++ rest).dropWhile isIdentifierChar = rest := by
    rw [List.dropWhile_append_of_pos hname, hdrop]
  have hword : isIdentifierText ((name.val.toList ++ rest).takeWhile isIdentifierChar) = true := by
    rw [hall]
    exact name.property
  rw [readWord, dif_pos hword]
  simp only [hall, hrest, String.ofList_toList]

section

variable {inner : List Char → Option (Expression × List Char)} {text rest : List Char}
  {a : Expression}

theorem readClosed_of_eq_some (h : inner text = some (a, ')' :: rest)) :
    readClosed inner text = some (a, rest) := by
  rw [readClosed, h]
  rfl

theorem readPrimary_of_readWord {name : Word} (h : readWord text = some (name, rest))
    (hrest : ∀ c ∈ rest.head?, c ≠ '(') : readPrimary inner text = some (.word name, rest) := by
  unfold readPrimary
  split
  · cases h
  · rw [h, Option.bind_some]
    dsimp only
    split
    · exact absurd rfl (hrest '(' rfl)
    · rfl

theorem readPrimary_word (name : Word)
    (h : ∀ c ∈ rest.head?, isIdentifierChar c = false ∧ c ≠ '(') :
    readPrimary inner (name.val.toList ++ rest) = some (.word name, rest) :=
  readPrimary_of_readWord (readWord_append name fun c hc => (h c hc).1) fun c hc => (h c hc).2

theorem readPrimary_application (h : inner text = some (a, ')' :: rest)) :
    readPrimary inner ('f' :: '(' :: text) = some (.application a, rest) := by
  have hf : "f".toList = ['f'] := String.toList_ofList
  have hhead : ∀ c ∈ ('(' :: text).head?, isIdentifierChar c = false := by
    rintro c ⟨⟩
    rfl
  have hword := readWord_append ⟨"f", by decide⟩ hhead
  rw [hf, List.singleton_append] at hword
  simp [readPrimary, hword, readClosed_of_eq_some h]

theorem readOperand_of_primary (h : readPrimary inner text = some (a, rest))
    (hrest : ∀ c ∈ rest.head?, c ≠ '.') : readOperand inner text = some (a, rest) := by
  rw [readOperand, h, Option.bind_some]
  dsimp only
  split
  · exact absurd rfl (hrest '.' rfl)
  · rfl

theorem readOperand_member (name : Word)
    (h : readPrimary inner text = some (a, '.' :: (name.val.toList ++ rest)))
    (hrest : ∀ c ∈ rest.head?, isIdentifierChar c = false) :
    readOperand inner text = some (.member a name, rest) := by
  rw [readOperand, h]
  show (readWord (name.val.toList ++ rest)).map _ = _
  rw [readWord_append name hrest]
  rfl

end

theorem readWithin_of_operand {limit : Nat} {text rest : List Char} {e : Expression}
    (h : readOperand (readWithin limit) text = some (e, rest)) (hrest : ∀ c ∈ rest.head?, c ≠ ' ') :
    readWithin (limit + 1) text = some (e, rest) := by
  rw [readWithin, h, Option.bind_some]
  dsimp only
  split
  · exact absurd rfl (hrest ' ' rfl)
  · rfl

theorem readWithin_conditional {limit : Nat} {text second third rest : List Char}
    {a b c : Expression}
    (ha : readOperand (readWithin limit) text = some (a, ' ' :: '?' :: ' ' :: second))
    (hb : readOperand (readWithin limit) second = some (b, ' ' :: ':' :: ' ' :: third))
    (hc : readOperand (readWithin limit) third = some (c, rest)) :
    readWithin (limit + 1) text = some (.conditional a b c, rest) := by
  simp [readWithin, ha, hb, hc]

/-! ## Parentheses -/

theorem code_ne_empty (e : Expression) : e.code ≠ "" := by
  intro h
  cases e with
  | word name =>
    have hname := name.property
    rw [show name.val = "" from h] at hname
    cases hname
  | conditional | member | application => simp [code] at h

theorem codeIn_of_needsParens {e : Expression} {outer : Precedence}
    (h : e.precedence.needsParens outer = true) : e.codeIn outer = "(" ++ e.code ++ ")" := by
  rw [codeIn, Precedence.wrap, if_neg]
  simp [h, code_ne_empty]

theorem codeIn_of_not_needsParens {e : Expression} {outer : Precedence}
    (h : e.precedence.needsParens outer = false) : e.codeIn outer = e.code := by
  rw [codeIn, Precedence.wrap, if_pos]
  simp [h]

/-! ## Reading code -/

/-- What follows does not belong to an identifier, nor is it applied to something. -/
def EndsPrimary (rest : List Char) : Prop :=
  ∀ c ∈ rest.head?, isIdentifierChar c = false ∧ c ≠ '('

/-- What follows does not belong to an operand. -/
def EndsOperand (rest : List Char) : Prop := EndsPrimary rest ∧ ∀ c ∈ rest.head?, c ≠ '.'

/-- What follows closes a parenthesis. -/
def EndsWhole (rest : List Char) : Prop := ∀ c ∈ rest.head?, c = ')'

theorem EndsWhole.endsOperand {rest : List Char} (h : EndsWhole rest) : EndsOperand rest := by
  constructor
  · intro c hc
    rw [h c hc]
    decide
  · intro c hc
    rw [h c hc]
    decide

theorem endsWhole_close (rest : List Char) : EndsWhole (')' :: rest) := by
  rintro c ⟨⟩
  rfl

theorem endsOperand_blank (rest : List Char) : EndsOperand (' ' :: rest) := by
  constructor <;> rintro c ⟨⟩ <;> decide

/-- The code of an expression is read back, on its own and as an operand, whatever follows that
cannot belong to it. -/
structure ReadsBack (e : Expression) : Prop where
  whole : ∀ limit rest, e.height ≤ limit → EndsWhole rest →
    readWithin limit (e.code.toList ++ rest) = some (e, rest)
  operand : ∀ limit rest, e.height ≤ limit → EndsOperand rest →
    readOperand (readWithin limit) ((e.codeIn .conditional).toList ++ rest) = some (e, rest)
  primary : ∀ limit rest, e.height ≤ limit → EndsPrimary rest →
    readPrimary (readWithin limit) ((e.codeIn .member).toList ++ rest) = some (e, rest)

theorem height_pos (e : Expression) : 0 < e.height := by
  cases e <;> simp [height]

section

variable {e : Expression}

/-- Code in parentheses is read back if it is read back on its own. -/
theorem readPrimary_of_whole {limit : Nat} {outer : Precedence} {rest : List Char}
    (hwhole : ∀ rest, EndsWhole rest → readWithin limit (e.code.toList ++ rest) = some (e, rest))
    (hparens : e.precedence.needsParens outer = true) :
    readPrimary (readWithin limit) ((e.codeIn outer).toList ++ rest) = some (e, rest) := by
  have hread := readClosed_of_eq_some (hwhole _ (endsWhole_close rest))
  rw [codeIn_of_needsParens hparens]
  simpa [readPrimary] using hread

/-- An expression that is no choice is read on its own as it is read as an operand. -/
theorem readWithin_of_bare
    (h : ∀ limit rest, e.height ≤ limit + 1 → EndsOperand rest →
      readOperand (readWithin limit) (e.code.toList ++ rest) = some (e, rest))
    {limit : Nat} {rest : List Char} (hlimit : e.height ≤ limit) (hrest : EndsWhole rest) :
    readWithin limit (e.code.toList ++ rest) = some (e, rest) := by
  obtain ⟨limit, rfl⟩ := Nat.exists_eq_succ_of_ne_zero
    (Nat.ne_of_gt (Nat.lt_of_lt_of_le (height_pos e) hlimit))
  refine readWithin_of_operand (h limit rest hlimit hrest.endsOperand) fun c hc => ?_
  rw [hrest c hc]
  decide

theorem ReadsBack.of_bare
    (h : ∀ limit rest, e.height ≤ limit + 1 → EndsOperand rest →
      readOperand (readWithin limit) (e.code.toList ++ rest) = some (e, rest))
    (hconditional : e.precedence.needsParens .conditional = false)
    (hmember : e.precedence.needsParens .member = true) : e.ReadsBack where
  whole := fun _ _ => readWithin_of_bare h
  operand := fun limit rest hlimit hrest => by
    rw [codeIn_of_not_needsParens hconditional]
    exact h limit rest (Nat.le_succ_of_le hlimit) hrest
  primary := fun _ _ hlimit _ =>
    readPrimary_of_whole (fun _ hrest => readWithin_of_bare h hlimit hrest) hmember

end

theorem readsBack_word (name : Word) : (word name).ReadsBack := by
  have hprimary : ∀ limit rest, EndsPrimary rest →
      readPrimary (readWithin limit) (name.val.toList ++ rest) = some (word name, rest) :=
    fun _ _ hrest => readPrimary_word name hrest
  have hbare : ∀ limit rest, (word name).height ≤ limit + 1 → EndsOperand rest →
      readOperand (readWithin limit) ((word name).code.toList ++ rest) = some (word name, rest) :=
    fun limit rest _ hrest => readOperand_of_primary (hprimary limit rest hrest.1) hrest.2
  exact
    { whole := fun _ _ => readWithin_of_bare hbare
      operand := fun limit rest hlimit hrest => by
        rw [codeIn_of_not_needsParens rfl]
        exact hbare limit rest (Nat.le_succ_of_le hlimit) hrest
      primary := fun limit rest _ hrest => by
        rw [codeIn_of_not_needsParens rfl]
        exact hprimary limit rest hrest }

theorem readsBack_conditional {a b c : Expression} (ha : a.ReadsBack) (hb : b.ReadsBack)
    (hc : c.ReadsBack) : (conditional a b c).ReadsBack := by
  have hwhole : ∀ limit rest, (conditional a b c).height ≤ limit → EndsWhole rest →
      readWithin limit ((conditional a b c).code.toList ++ rest) =
        some (conditional a b c, rest) := by
    intro limit rest hlimit hrest
    obtain ⟨limit, rfl⟩ := Nat.exists_eq_succ_of_ne_zero
      (Nat.ne_of_gt (Nat.lt_of_lt_of_le (height_pos _) hlimit))
    rw [height] at hlimit
    have htext : (conditional a b c).code.toList ++ rest =
        (a.codeIn .conditional).toList ++ ' ' :: '?' :: ' ' :: ((b.codeIn .conditional).toList ++
          ' ' :: ':' :: ' ' :: ((c.codeIn .conditional).toList ++ rest)) := by
      simp [code, codeIn]
    rw [htext]
    exact readWithin_conditional (ha.operand limit _ (by omega) (endsOperand_blank _))
      (hb.operand limit _ (by omega) (endsOperand_blank _))
      (hc.operand limit rest (by omega) hrest.endsOperand)
  exact
    { whole := hwhole
      operand := fun limit rest hlimit hrest =>
        readOperand_of_primary (readPrimary_of_whole (hwhole limit · hlimit) rfl) hrest.2
      primary := fun limit rest hlimit _ => readPrimary_of_whole (hwhole limit · hlimit) rfl }

theorem readsBack_member {a : Expression} (ha : a.ReadsBack) (name : Word) :
    (member a name).ReadsBack := by
  refine .of_bare (fun limit rest hlimit hrest => ?_) rfl rfl
  have htext : (member a name).code.toList ++ rest =
      (a.codeIn .member).toList ++ '.' :: (name.val.toList ++ rest) := by
    simp [code, codeIn]
  have hpoint : EndsPrimary ('.' :: (name.val.toList ++ rest)) := by
    rintro c ⟨⟩
    decide
  rw [htext]
  exact readOperand_member name (ha.primary limit _ (Nat.le_of_succ_le_succ hlimit) hpoint)
    fun c hc => (hrest.1 c hc).1

theorem readsBack_application {a : Expression} (ha : a.ReadsBack) : (application a).ReadsBack := by
  refine .of_bare (fun limit rest hlimit hrest => ?_) rfl rfl
  have hbare : a.codeIn .none = a.code := codeIn_of_not_needsParens (by cases a <;> rfl)
  have htext : (application a).code.toList ++ rest =
      'f' :: '(' :: (a.code.toList ++ ')' :: rest) := by
    rw [← hbare]
    simp [code, codeIn]
  have hread := ha.whole limit _ (Nat.le_of_succ_le_succ hlimit) (endsWhole_close rest)
  rw [htext]
  exact readOperand_of_primary (readPrimary_application hread) hrest.2

theorem readsBack : ∀ e : Expression, e.ReadsBack
  | word name => readsBack_word name
  | conditional a b c => readsBack_conditional a.readsBack b.readsBack c.readsBack
  | member a name => readsBack_member a.readsBack name
  | application a => readsBack_application a.readsBack

theorem length_code_le (e : Expression) (outer : Precedence) :
    e.code.toList.length ≤ (e.codeIn outer).toList.length := by
  cases hparens : e.precedence.needsParens outer with
  | true =>
    rw [codeIn_of_needsParens hparens]
    simp
    omega
  | false => exact Nat.le_of_eq (by rw [codeIn_of_not_needsParens hparens])

theorem height_le_length_code : ∀ e : Expression, e.height ≤ e.code.toList.length
  | word name => by
    have hne : (word name).code.toList ≠ [] := mt String.toList_eq_nil_iff.1 (code_ne_empty _)
    exact List.length_pos_iff.2 hne
  | conditional a b c => by
    have ha := Nat.le_trans a.height_le_length_code (a.length_code_le .conditional)
    have hb := Nat.le_trans b.height_le_length_code (b.length_code_le .conditional)
    have hc := Nat.le_trans c.height_le_length_code (c.length_code_le .conditional)
    simp only [codeIn] at ha hb hc
    simp [height, code]
    omega
  | member a name => by
    have ha := Nat.le_trans a.height_le_length_code (a.length_code_le .member)
    simp only [codeIn] at ha
    simp [height, code]
    omega
  | application a => by
    have ha := Nat.le_trans a.height_le_length_code (a.length_code_le .none)
    simp only [codeIn] at ha
    simp [height, code]
    omega

/-- **The code of an expression spells it**, whatever context it is made for. -/
theorem read?_codeIn (e : Expression) (outer : Precedence) : read? (e.codeIn outer) = some e := by
  have hread : ∀ limit, e.height ≤ limit →
      readWithin (limit + 1) (e.codeIn outer).toList = some (e, []) := by
    intro limit hlimit
    rw [← List.append_nil (e.codeIn outer).toList]
    cases hparens : e.precedence.needsParens outer with
    | true =>
      refine readWithin_of_operand (readOperand_of_primary ?_ (by simp)) (by simp)
      exact readPrimary_of_whole (e.readsBack.whole limit · hlimit) hparens
    | false =>
      rw [codeIn_of_not_needsParens hparens]
      exact e.readsBack.whole (limit + 1) [] (Nat.le_succ_of_le hlimit) (by simp [EndsWhole])
  rw [read?, hread _ (Nat.le_trans e.height_le_length_code (e.length_code_le outer))]
  rfl

end Expression

end SceneScript
