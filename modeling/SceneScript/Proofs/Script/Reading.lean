import SceneScript.Operation
import SceneScript.Proofs.Hygiene
import SceneScript.Proofs.Script.Syntax

/-!
# Reading tokens back

Every syntax tree has its tokens, and reading these gives the tree again.

* `Expr.tokens`, `Stmt.tokens`: the tokens of a tree.
* `Expr.Proper`, `Stmt.Proper`: trees whose names are free identifiers and whose calls are calls of
  operations of the scene.
* **`readExpr_tokens`**, **`readStmt_tokens`**: reading the tokens of a proper tree.
-/

namespace SceneScript.Script

/-! ## Tokens of trees -/

/-- Tokens with commas between them. -/
def commas : List (List Token) → List Token
  | [] => []
  | [tokens] => tokens
  | tokens :: more :: rest => tokens ++ .mark ',' :: commas (more :: rest)

/-- The tokens of a call. -/
def invocationTokens (object method : String) (args : List (List Token)) : List Token :=
  .word object :: .mark '.' :: .word method :: .mark '(' :: (commas args ++ [.mark ')'])

mutual

/-- The tokens of an expression. -/
def Expr.tokens : Expr → List Token
  | .name x => [.word x]
  | .number value => [.number value]
  | .string text => [.string text]
  | .list items => .mark '[' :: (commas (itemTokens items) ++ [.mark ']'])
  | .object members => .mark '\x7b' :: (commas (memberTokens members) ++ [.mark '\x7d'])
  | .construct object method args => .word "new" :: invocationTokens object method (itemTokens args)
  | .handler body =>
    .word "async" :: .mark '(' :: .mark ')' :: .arrow :: .mark '\x7b' ::
      (bodyTokens body ++ [.mark '\x7d'])

/-- The tokens of the expressions of a list. -/
def itemTokens : List Expr → List (List Token)
  | [] => []
  | e :: rest => e.tokens :: itemTokens rest

/-- The tokens of the members of an object. -/
def memberTokens : List (String × Expr) → List (List Token)
  | [] => []
  | (key, e) :: rest => (.word key :: .mark ':' :: e.tokens) :: memberTokens rest

/-- The tokens of a statement. -/
def Stmt.tokens : Stmt → List Token
  | .assign target value => .word target :: .mark '=' :: (value.tokens ++ [.mark ';'])
  | .call awaited object method args =>
    (if awaited then [.word "await"] else []) ++
      (invocationTokens object method (itemTokens args) ++ [.mark ';'])

/-- The tokens of statements one after another. -/
def bodyTokens : List Stmt → List Token
  | [] => []
  | s :: rest => s.tokens ++ bodyTokens rest

end

/-- The tokens of a member of an object. -/
def tokensOfMember (member : String × Expr) : List Token :=
  .word member.1 :: .mark ':' :: member.2.tokens

theorem itemTokens_eq : ∀ items : List Expr, itemTokens items = items.map Expr.tokens
  | [] => rfl
  | e :: rest => by rw [itemTokens, itemTokens_eq rest, List.map_cons]

theorem memberTokens_eq : ∀ members : List (String × Expr),
    memberTokens members = members.map tokensOfMember
  | [] => rfl
  | (key, e) :: rest => by rw [memberTokens, memberTokens_eq rest, List.map_cons]; rfl

theorem bodyTokens_eq : ∀ body : List Stmt, bodyTokens body = body.flatMap Stmt.tokens
  | [] => rfl
  | s :: rest => by rw [bodyTokens, bodyTokens_eq rest, List.flatMap_cons]

theorem bodyTokens_append (body rest : List Stmt) :
    bodyTokens (body ++ rest) = bodyTokens body ++ bodyTokens rest := by
  rw [bodyTokens_eq, bodyTokens_eq, bodyTokens_eq, List.flatMap_append]

/-! ## Proper trees -/

/-- A name that can stand where an identifier is expected. -/
def FreeName (name : String) : Prop := isIdentifier name = true ∧ name ∉ reservedWords

instance (name : String) : Decidable (FreeName name) :=
  inferInstanceAs (Decidable (isIdentifier name = true ∧ name ∉ reservedWords))

mutual

/-- The names in an expression are free identifiers, and each call in it is a call of an operation
on the runtime namespace, with as many arguments as it takes and in its manner. -/
def Expr.Proper (runtime : String) : Expr → Prop
  | .name x => FreeName x
  | .number _ => True
  | .string _ => True
  | .list items => ProperItems runtime items
  | .object members => ProperMembers runtime members
  | .construct object method args =>
    (object = runtime ∧ ∃ op : Operation, op.isConstructor = true ∧ method = op.name ∧
      args.length = op.arity) ∧ ProperItems runtime args
  | .handler body => ProperBody runtime body

/-- All expressions of a list are proper. -/
def ProperItems (runtime : String) : List Expr → Prop
  | [] => True
  | e :: rest => e.Proper runtime ∧ ProperItems runtime rest

/-- All members of an object are proper. -/
def ProperMembers (runtime : String) : List (String × Expr) → Prop
  | [] => True
  | (_, e) :: rest => e.Proper runtime ∧ ProperMembers runtime rest

/-- The names in a statement are free identifiers, and it calls an operation as it has to be
called. -/
def Stmt.Proper (runtime : String) : Stmt → Prop
  | .assign target value => FreeName target ∧ value.Proper runtime
  | .call awaited object method args =>
    (object = runtime ∧ ∃ op : Operation, op.isConstructor = false ∧ method = op.name ∧
      args.length = op.arity ∧ awaited = op.isAsync) ∧ ProperItems runtime args

/-- All statements of a body are proper. -/
def ProperBody (runtime : String) : List Stmt → Prop
  | [] => True
  | s :: rest => s.Proper runtime ∧ ProperBody runtime rest

end

theorem properBody_append {runtime : String} : ∀ {body rest : List Stmt},
    ProperBody runtime body → ProperBody runtime rest → ProperBody runtime (body ++ rest)
  | [], _, _, h => h
  | _ :: _, _, h, h' => ⟨h.1, properBody_append h.2 h'⟩

/-! ## Reading lists -/

section Lists

variable {α : Type} {item : List Token → Option (α × List Token)} {tokens : α → List Token}
  {rest : List Token}

theorem readItems_commas {close : Char} (hclose : close ≠ ',') : ∀ {items : List α} {limit : Nat},
    items ≠ [] → (∀ a ∈ items, ∀ rest, item (tokens a ++ rest) = some (a, rest)) →
      items.length ≤ limit →
      readItems item close limit (commas (items.map tokens) ++ .mark close :: rest) =
        some (items, rest)
  | [], _, hne, _, _ => absurd rfl hne
  | _ :: _, 0, _, _, hlimit => absurd hlimit (by simp)
  | [a], limit + 1, _, hitem, _ => by
    rw [List.map_cons, List.map_nil, commas, readItems, hitem a List.mem_cons_self]
    simp
  | a :: b :: more, limit + 1, _, hitem, hlimit => by
    rw [List.forall_mem_cons] at hitem
    have hmore :
        readItems item close limit (commas ((b :: more).map tokens) ++ .mark close :: rest) =
        some (b :: more, rest) :=
      readItems_commas hclose (List.cons_ne_nil b more) hitem.2 (Nat.le_of_succ_le_succ hlimit)
    rw [List.map_cons, List.map_cons, commas, readItems, List.append_assoc, hitem.1,
      List.cons_append, ← List.map_cons]
    simp only [Option.bind_eq_bind, Option.bind_some, if_neg (Ne.symm hclose), if_true, hmore]
    rfl

theorem head?_commas {l : List Token} {more : List (List Token)} (hl : l ≠ []) :
    (commas (l :: more)).head? = l.head? := by
  cases more with
  | nil => rfl
  | cons => rw [commas, List.head?_append_of_ne_nil _ hl]

/-- Reading a list of items that are read one by one. -/
theorem readList_commas {close : Char} (hclose : close ≠ ',') {items : List α} {limit : Nat}
    (hitem : ∀ a ∈ items, ∀ rest, item (tokens a ++ rest) = some (a, rest))
    (hhead : ∀ a ∈ items, ∃ t more, tokens a = t :: more ∧ t ≠ .mark close)
    (hlimit : items.length ≤ limit) :
    readList item close limit (commas (items.map tokens) ++ .mark close :: rest) =
      some (items, rest) := by
  cases items with
  | nil => simp [readList, commas]
  | cons a more =>
    obtain ⟨t, tail, ht, hne⟩ := hhead a List.mem_cons_self
    have hnil : tokens a ≠ [] := by rw [ht]; exact List.cons_ne_nil t tail
    have hcommas : (commas ((a :: more).map tokens)).head? = some t := by
      rw [List.map_cons, head?_commas hnil, ht, List.head?_cons]
    have hhead' : (commas ((a :: more).map tokens) ++ .mark close :: rest).head? ≠
        some (.mark close) := by
      rw [List.head?_append, hcommas, Option.some_or]
      simpa using hne
    rw [readList, if_neg hhead']
    exact readItems_commas hclose (List.cons_ne_nil a more) hitem hlimit

/-- Reading items one after another up to where they end. -/
theorem readMany_flatMap (hrest : rest.head? = none ∨ rest.head? = some (.mark '\x7d')) :
    ∀ {items : List α} {limit : Nat},
      (∀ a ∈ items, ∀ rest, item (tokens a ++ rest) = some (a, rest)) →
      (∀ a ∈ items, ∃ t more, tokens a = t :: more ∧ t ≠ .mark '\x7d') →
      items.length ≤ limit →
      readMany item limit (items.flatMap tokens ++ rest) = some (items, rest)
  | [], 0, _, _, _ => rfl
  | [], limit + 1, _, _, _ => by
    rw [List.flatMap_nil, List.nil_append, readMany, if_pos hrest]
  | _ :: _, 0, _, _, hlimit => absurd hlimit (by simp)
  | a :: more, limit + 1, hitem, hhead, hlimit => by
    rw [List.forall_mem_cons] at hitem hhead
    obtain ⟨t, tail, ht, hne⟩ := hhead.1
    have hmore : readMany item limit (more.flatMap tokens ++ rest) = some (more, rest) :=
      readMany_flatMap hrest hitem.2 hhead.2 (Nat.le_of_succ_le_succ hlimit)
    have hhead' : ¬ ((tokens a ++ (more.flatMap tokens ++ rest)).head? = none ∨
        (tokens a ++ (more.flatMap tokens ++ rest)).head? = some (.mark '\x7d')) := by
      rw [ht, List.cons_append, List.head?_cons]
      simpa using hne
    rw [List.flatMap_cons, List.append_assoc, readMany, if_neg hhead', hitem.1]
    simp only [Option.bind_eq_bind, Option.bind_some, hmore]
    rfl

end Lists

/-! ## First tokens -/

theorem Expr.head_tokens (e : Expr) : ∃ t more, e.tokens = t :: more ∧ t ≠ .mark ']' ∧
    t ≠ .mark ')' ∧ t ≠ .mark '\x7d' := by
  cases e <;> rw [Expr.tokens] <;> exact ⟨_, _, rfl, by simp, by simp, by simp⟩

theorem Stmt.head_tokens (s : Stmt) : ∃ t more, s.tokens = t :: more ∧ t ≠ .mark '\x7d' := by
  cases s with
  | assign target value =>
    rw [Stmt.tokens]
    exact ⟨_, _, rfl, by simp⟩
  | call awaited object method args =>
    rw [Stmt.tokens]
    cases awaited <;> exact ⟨_, _, rfl, by simp⟩

theorem length_le_commas {α : Type} {tokens : α → List Token} (hne : ∀ a, tokens a ≠ []) :
    ∀ items : List α, items.length ≤ (commas (items.map tokens)).length
  | [] => Nat.le_refl 0
  | [a] => List.length_pos_iff.2 (hne a)
  | a :: b :: more => by
    have hmore := length_le_commas hne (b :: more)
    have ha := List.length_pos_iff.2 (hne a)
    simp only [List.map_cons, commas, List.length_append, List.length_cons] at hmore ⊢
    omega

theorem length_le_of_mem_commas {l : List Token} : ∀ {ls : List (List Token)}, l ∈ ls →
    l.length ≤ (commas ls).length
  | [m], h => by
    rw [List.mem_singleton] at h
    exact Nat.le_of_eq (by rw [h, commas])
  | m :: n :: more, h => by
    rw [commas, List.length_append, List.length_cons]
    rcases List.mem_cons.1 h with rfl | h
    · omega
    · have hmore := length_le_of_mem_commas h
      omega

/-! ## Reading trees -/

theorem freeWord?_of_not_mem {word : String} (h : word ∉ reservedWords) :
    freeWord? word = some word := if_neg h

theorem readList_items {close : Char} (hclose : close = ']' ∨ close = ')') {items : List Expr}
    {limit : Nat} (hitems : ∀ e ∈ items, ∀ rest, readExpr limit (e.tokens ++ rest) = some (e, rest))
    (hlimit : (commas (itemTokens items)).length ≤ limit) (rest : List Token) :
    readList (readExpr limit) close limit (commas (itemTokens items) ++ .mark close :: rest) =
      some (items, rest) := by
  rw [itemTokens_eq] at hlimit ⊢
  have hne : ∀ e : Expr, e.tokens ≠ [] := by
    intro e
    obtain ⟨t, more, ht, -⟩ := e.head_tokens
    rw [ht]
    exact List.cons_ne_nil t more
  refine readList_commas ?_ hitems ?_ (Nat.le_trans (length_le_commas hne items) hlimit)
  · rcases hclose with rfl | rfl <;> decide
  · intro e _
    obtain ⟨t, more, ht, hlist, hcall, -⟩ := e.head_tokens
    refine ⟨t, more, ht, ?_⟩
    rcases hclose with rfl | rfl
    · exact hlist
    · exact hcall

theorem readInvocation_tokens {object : String} (hobject : object ∉ reservedWords) (method : String)
    {args : List Expr} {limit : Nat}
    (hargs : ∀ e ∈ args, ∀ rest, readExpr limit (e.tokens ++ rest) = some (e, rest))
    (hlimit : (commas (itemTokens args)).length ≤ limit) (rest : List Token) :
    readInvocation (readExpr limit) limit
        (invocationTokens object method (itemTokens args) ++ rest) =
      some (⟨object, method, args⟩, rest) := by
  have hlist := readList_items (.inr rfl) hargs hlimit rest
  simp only [invocationTokens, List.cons_append, List.append_assoc, List.nil_append, readInvocation,
    behind?, freeWord?_of_not_mem hobject, if_true, Option.bind_eq_bind, Option.bind_some, hlist]
  rfl

theorem length_le_of_mem_items {items : List Expr} {limit : Nat}
    (hlimit : (commas (itemTokens items)).length ≤ limit) :
    ∀ e ∈ items, e.tokens.length ≤ limit := by
  intro e he
  rw [itemTokens_eq] at hlimit
  exact Nat.le_trans (length_le_of_mem_commas (List.mem_map_of_mem he)) hlimit

theorem length_le_of_mem_members {members : List (String × Expr)} {limit : Nat}
    (hlimit : (commas (memberTokens members)).length ≤ limit) :
    ∀ m ∈ members, m.2.tokens.length ≤ limit := by
  intro m hm
  rw [memberTokens_eq] at hlimit
  have hle := length_le_of_mem_commas (List.mem_map_of_mem (f := tokensOfMember) hm)
  simp only [tokensOfMember, List.length_cons] at hle
  omega

theorem readList_members {members : List (String × Expr)} {limit : Nat}
    (hmembers : ∀ m ∈ members, ∀ rest, readExpr limit (m.2.tokens ++ rest) = some (m.2, rest))
    (hlimit : (commas (memberTokens members)).length ≤ limit) (rest : List Token) :
    readList (readMember (readExpr limit)) '\x7d' limit
        (commas (memberTokens members) ++ .mark '\x7d' :: rest) =
      some (members, rest) := by
  rw [memberTokens_eq] at hlimit ⊢
  have hne : ∀ m : String × Expr, tokensOfMember m ≠ [] := fun m => List.cons_ne_nil _ _
  refine readList_commas (by decide) ?_ ?_ (Nat.le_trans (length_le_commas hne members) hlimit)
  · intro m hm rest
    rw [tokensOfMember, List.cons_append, List.cons_append, readMember, behind?, if_pos rfl]
    simp only [Option.bind_eq_bind, Option.bind_some, hmembers m hm rest]
    rfl
  · intro m _
    exact ⟨_, _, rfl, by simp⟩

theorem length_le_bodyTokens : ∀ body : List Stmt, body.length ≤ (bodyTokens body).length
  | [] => Nat.le_refl 0
  | s :: rest => by
    obtain ⟨t, more, ht, -⟩ := s.head_tokens
    have hrest := length_le_bodyTokens rest
    rw [bodyTokens, ht, List.length_append, List.length_cons, List.length_cons]
    omega

theorem length_le_of_mem_body {body : List Stmt} {limit : Nat}
    (hlimit : (bodyTokens body).length ≤ limit) : ∀ s ∈ body, s.tokens.length ≤ limit := by
  intro s hs
  obtain ⟨before, behind, rfl⟩ := List.append_of_mem hs
  rw [bodyTokens_append, bodyTokens, List.length_append, List.length_append] at hlimit
  omega

theorem readMany_body {body : List Stmt} {limit : Nat}
    (hbody : ∀ s ∈ body, ∀ rest, readStmt limit (s.tokens ++ rest) = some (s, rest))
    (hlimit : (bodyTokens body).length ≤ limit) {rest : List Token}
    (hrest : rest.head? = none ∨ rest.head? = some (.mark '\x7d')) :
    readMany (readStmt limit) limit (bodyTokens body ++ rest) = some (body, rest) := by
  have hlength := Nat.le_trans (length_le_bodyTokens body) hlimit
  rw [bodyTokens_eq]
  exact readMany_flatMap hrest hbody (fun s _ => s.head_tokens) hlength

section Trees

variable {runtime : String}

mutual

/-- **The tokens of an expression are read as the expression.** -/
theorem readExpr_tokens (hruntime : runtime ∉ reservedWords) : ∀ (e : Expr) {limit : Nat}
    {rest : List Token}, e.Proper runtime → e.tokens.length ≤ limit →
      readExpr limit (e.tokens ++ rest) = some (e, rest)
  | e, 0, rest, _, hlimit => by
    obtain ⟨t, more, ht, -⟩ := e.head_tokens
    rw [ht] at hlimit
    exact absurd hlimit (by simp)
  | .name x, limit + 1, rest, hproper, _ => by
    have hnew : x ≠ "new" := by
      rintro rfl
      exact hproper.2 (by decide)
    have hasync : x ≠ "async" := by
      rintro rfl
      exact hproper.2 (by decide)
    simp only [Expr.tokens, List.cons_append, List.nil_append, readExpr, if_neg hnew, if_neg hasync,
      freeWord?_of_not_mem hproper.2]
    rfl
  | .number value, limit + 1, rest, _, _ => by rw [Expr.tokens]; rfl
  | .string text, limit + 1, rest, _, _ => by rw [Expr.tokens]; rfl
  | .list items, limit + 1, rest, hproper, hlimit => by
    simp only [Expr.tokens, List.length_cons, List.length_append] at hlimit
    have hlist := readList_items (.inl rfl) (readExpr_items hruntime items hproper
      (length_le_of_mem_items (by omega : _ ≤ limit))) (by omega) rest
    simp only [Expr.tokens, List.cons_append, List.append_assoc, List.nil_append, readExpr, if_true,
      Option.bind_eq_bind, hlist, Option.bind_some]
    rfl
  | .object members, limit + 1, rest, hproper, hlimit => by
    simp only [Expr.tokens, List.length_cons, List.length_append] at hlimit
    have hlist := readList_members (readExpr_members hruntime members hproper
      (length_le_of_mem_members (by omega : _ ≤ limit))) (by omega) rest
    have hlist' : ('\x7b' : Char) ≠ '[' := by decide
    simp only [Expr.tokens, List.cons_append, List.append_assoc, List.nil_append, readExpr, if_true,
      if_neg hlist', Option.bind_eq_bind, hlist, Option.bind_some]
    rfl
  | .construct object method args, limit + 1, rest, hproper, hlimit => by
    simp only [Expr.tokens, invocationTokens, List.length_cons, List.length_append] at hlimit
    obtain ⟨⟨hobject, -⟩, hargs⟩ := hproper
    have hitems := readExpr_items hruntime args hargs (length_le_of_mem_items (by omega : _ ≤ limit))
    have hcall := readInvocation_tokens (hobject ▸ hruntime) method hitems (by omega) rest
    simp only [Expr.tokens, List.cons_append, readExpr, if_true, Option.bind_eq_bind, hcall,
      Option.bind_some]
    rfl
  | .handler body, limit + 1, rest, hproper, hlimit => by
    simp only [Expr.tokens, List.length_cons, List.length_append] at hlimit
    have hbody := readMany_body (readStmt_body hruntime body hproper
      (length_le_of_mem_body (by omega : _ ≤ limit))) (by omega)
      (.inr (List.head?_cons : (Token.mark '\x7d' :: rest).head? = _))
    have hnew : "async" ≠ "new" := by decide
    simp only [Expr.tokens, List.cons_append, List.append_assoc, List.nil_append, readExpr,
      if_neg hnew, if_true, Option.bind_eq_bind, hbody, Option.bind_some, behind?]
    rfl

theorem readExpr_items (hruntime : runtime ∉ reservedWords) : ∀ (items : List Expr) {limit : Nat},
    ProperItems runtime items → (∀ e ∈ items, e.tokens.length ≤ limit) →
      ∀ e ∈ items, ∀ rest, readExpr limit (e.tokens ++ rest) = some (e, rest)
  | [], _, _, _, _, he, _ => absurd he List.not_mem_nil
  | first :: more, _, hproper, hlimit, e, he, rest => by
    rw [List.forall_mem_cons] at hlimit
    rcases List.mem_cons.1 he with he | he
    · rw [he]
      exact readExpr_tokens hruntime first hproper.1 hlimit.1
    · exact readExpr_items hruntime more hproper.2 hlimit.2 e he rest

theorem readExpr_members (hruntime : runtime ∉ reservedWords) :
    ∀ (members : List (String × Expr)) {limit : Nat}, ProperMembers runtime members →
      (∀ m ∈ members, m.2.tokens.length ≤ limit) →
      ∀ m ∈ members, ∀ rest, readExpr limit (m.2.tokens ++ rest) = some (m.2, rest)
  | [], _, _, _, _, hm, _ => absurd hm List.not_mem_nil
  | (key, first) :: more, _, hproper, hlimit, m, hm, rest => by
    rw [List.forall_mem_cons] at hlimit
    rcases List.mem_cons.1 hm with hm | hm
    · rw [hm]
      exact readExpr_tokens hruntime first hproper.1 hlimit.1
    · exact readExpr_members hruntime more hproper.2 hlimit.2 m hm rest

/-- **The tokens of a statement are read as the statement.** -/
theorem readStmt_tokens (hruntime : runtime ∉ reservedWords) : ∀ (s : Stmt) {limit : Nat}
    {rest : List Token}, s.Proper runtime → s.tokens.length ≤ limit →
      readStmt limit (s.tokens ++ rest) = some (s, rest)
  | s, 0, rest, _, hlimit => by
    obtain ⟨t, more, ht, -⟩ := s.head_tokens
    rw [ht] at hlimit
    exact absurd hlimit (by simp)
  | .assign target value, limit + 1, rest, hproper, hlimit => by
    simp only [Stmt.tokens, List.length_cons, List.length_append] at hlimit
    have hawait : target ≠ "await" := by
      rintro rfl
      exact hproper.1.2 (by decide)
    have hvalue :
        readExpr limit (value.tokens ++ .mark ';' :: rest) = some (value, .mark ';' :: rest) :=
      readExpr_tokens hruntime value hproper.2 (by omega)
    simp only [Stmt.tokens, List.cons_append, List.append_assoc, List.nil_append, readStmt,
      if_neg hawait, List.head?_cons, if_true, List.tail_cons, Option.bind_eq_bind, hvalue,
      Option.bind_some, freeWord?_of_not_mem hproper.1.2, behind?]
    rfl
  | .call awaited object method args, limit + 1, rest, hproper, hlimit => by
    simp only [Stmt.tokens, invocationTokens, List.length_cons, List.length_append] at hlimit
    obtain ⟨⟨hobject, -⟩, hargs⟩ := hproper
    have hitems := readExpr_items hruntime args hargs (length_le_of_mem_items (by omega : _ ≤ limit))
    have hcall := readInvocation_tokens (hobject ▸ hruntime) method hitems (by omega) (.mark ';' :: rest)
    cases awaited with
    | true =>
      simp only [Stmt.tokens, if_true, List.cons_append, List.append_assoc, List.nil_append,
        readStmt, Option.bind_eq_bind, hcall, Option.bind_some, behind?]
      rfl
    | false =>
      have hawait : object ≠ "await" := by
        rintro rfl
        exact hruntime (hobject ▸ by decide)
      have hassign : (some (Token.mark '.') = some (Token.mark '=')) = False := by simp
      simp only [Stmt.tokens, Bool.false_eq_true, if_false, List.append_assoc, List.cons_append,
        List.nil_append]
      rw [invocationTokens, List.cons_append] at hcall ⊢
      simp only [readStmt, if_neg hawait, List.cons_append, List.head?_cons, hassign, if_false,
        Option.bind_eq_bind, behind?] at hcall ⊢
      rw [hcall]
      rfl

theorem readStmt_body (hruntime : runtime ∉ reservedWords) : ∀ (body : List Stmt) {limit : Nat},
    ProperBody runtime body → (∀ s ∈ body, s.tokens.length ≤ limit) →
      ∀ s ∈ body, ∀ rest, readStmt limit (s.tokens ++ rest) = some (s, rest)
  | [], _, _, _, _, hs, _ => absurd hs List.not_mem_nil
  | first :: more, _, hproper, hlimit, s, hs, rest => by
    rw [List.forall_mem_cons] at hlimit
    rcases List.mem_cons.1 hs with hs | hs
    · rw [hs]
      exact readStmt_tokens hruntime first hproper.1 hlimit.1
    · exact readStmt_body hruntime more hproper.2 hlimit.2 s hs rest

end

/-- A text that has the tokens of a proper script is read as that script. -/
theorem read_of_lex (hruntime : runtime ∉ reservedWords) {body : List Stmt}
    (hbody : ProperBody runtime body) {text : String}
    (hlex : lex text.toList = some (bodyTokens body)) : read text = some body := by
  have hread := readMany_body (readStmt_body hruntime body hbody
    (length_le_of_mem_body (Nat.le_refl _))) (Nat.le_refl _) (.inl (List.head?_nil (α := Token)))
  rw [List.append_nil] at hread
  simp only [read, hlex, Option.bind_eq_bind, Option.bind_some, hread]
  rfl

end Trees

end SceneScript.Script
