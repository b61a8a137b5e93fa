import SceneScript.Kinds.Statements
import SceneScript.Proofs.Script.Meaning
import SceneScript.Proofs.Script.Reading
import SceneScript.Text.Lines

/-!
# Code that reads as a tree

The code of an expression stands on one line. The code of statements is a list of rows, each of
which lexes on its own, so margins can be put before the rows without changing what is read.

* `Codes`: the code of an expression.
* `Row`, `Writes`: a line of code, and the code of statements.
* `codes_thing`, `codes_call`: the code of descriptions and of calls.
* **`Writes.indent`**: indented code has the same statements.
-/

namespace SceneScript.Script

/-! ## Code of expressions -/

/-- A text does not leave its line. -/
def Inline (text : List Char) : Prop := ∀ c ∈ text, c ≠ '\n' ∧ c ≠ '\r'

theorem inline_append {a b : List Char} (ha : Inline a) (hb : Inline b) : Inline (a ++ b) := by
  intro c hc
  rcases List.mem_append.1 hc with hc | hc
  · exact ha c hc
  · exact hb c hc

theorem inline_of_isIdentifier {name : String} (h : isIdentifier name = true) :
    Inline name.toList := by
  intro c hc
  have hchar := isIdentifierChar_of_mem h c hc
  constructor <;> rintro rfl <;> exact absurd hchar (by decide)

theorem inline_hexQuad (n : Nat) : Inline (Text.hexQuad n) := by
  have hdigit : ∀ d < 16, Nat.digitChar d ≠ '\n' ∧ Nat.digitChar d ≠ '\r' := by decide
  intro c hc
  obtain ⟨d, hd, rfl⟩ := List.mem_map.1 hc
  refine hdigit d ?_
  simp only [List.mem_cons, List.not_mem_nil, or_false] at hd
  omega

theorem inline_quoteChar (c : Char) : Inline (Text.quoteChar c) := by
  unfold Text.quoteChar
  split_ifs with _ _ hline hreturn _ hcontrol
  · simp [Inline]
  · simp [Inline]
  · simp [Inline]
  · simp [Inline]
  · simp [Inline]
  · exact inline_append (a := ['\\', 'u']) (by simp [Inline]) (inline_hexQuad c.toNat)
  · intro d hd
    rw [List.mem_singleton] at hd
    rw [hd]
    exact ⟨hline, hreturn⟩

theorem inline_quote (text : String) : Inline (Text.quote text).toList := by
  have hquote : Inline ['"'] := by simp [Inline]
  rw [Text.quote, String.toList_ofList]
  refine inline_append (inline_append hquote ?_) hquote
  intro c hc
  obtain ⟨d, -, hd⟩ := List.mem_flatMap.1 hc
  exact inline_quoteChar d c hd

theorem inline_number (x : Double) : Inline (Literal.number x).toList := by
  intro c hc
  have hnumber := isNumberChar_number hc
  constructor <;> rintro rfl <;> exact absurd hnumber (by decide)

/-- The code of an expression: it stands on one line and has the tokens of the expression. -/
structure Codes (runtime : String) (code : String) (e : Expr) : Prop where
  inline : Inline code.toList
  reads : Reads code.toList e.tokens
  proper : e.Proper runtime

variable {runtime : String}

theorem Codes.isEmpty_eq_false {code : String} {e : Expr} (h : Codes runtime code e) :
    code.isEmpty = false := by
  rw [Bool.eq_false_iff]
  intro hempty
  obtain ⟨t, more, ht, -⟩ := e.head_tokens
  have hlex := h.reads [] (by simp [Stops])
  rw [String.isEmpty_iff.1 hempty, ht] at hlex
  cases hlex

theorem codes_name {name : String} (h : FreeName name) : Codes runtime name (.name name) :=
  ⟨inline_of_isIdentifier h.1, reads_word h.1, h⟩

theorem codes_quote (text : String) : Codes runtime (Text.quote text) (.string text) :=
  ⟨inline_quote text, (closed_quote text).reads, trivial⟩

theorem codes_number (x : Double) : Codes runtime (Literal.number x) (.number (Literal.value x)) :=
  ⟨inline_number x, reads_number x, trivial⟩

/-! ## Lists of codes -/

theorem inline_intercalate {sep : List Char} (hsep : Inline sep) : ∀ {codes : List (List Char)},
    (∀ code ∈ codes, Inline code) → Inline (sep.intercalate codes)
  | [], _ => by simp [Inline]
  | [code], h => by
    rw [List.intercalate_singleton]
    exact h code List.mem_cons_self
  | code :: next :: more, h => by
    rw [List.forall_mem_cons] at h
    rw [List.intercalate_cons_cons]
    exact inline_append (inline_append h.1 hsep) (inline_intercalate hsep h.2)

/-- Codes with separators between them, up to a closing text. -/
theorem closed_intercalate {sep close : List Char} {tokens : List Token}
    (hsep : Closed sep [.mark ',']) (hends : ends sep = true) (hclose : Closed close tokens)
    (hends' : ends close = true) : ∀ {codes : List (List Char)} {ts : List (List Token)},
      List.Forall₂ Reads codes ts → Closed (sep.intercalate codes ++ close) (commas ts ++ tokens)
  | [], [], .nil => hclose
  | [code], [t], .cons hcode .nil => by
    rw [List.intercalate_singleton, commas]
    exact hcode.append_closed hclose hends'
  | code :: _ :: _, t :: _ :: _, .cons hcode (.cons hnext hmore) => by
    have hmore := closed_intercalate hsep hends hclose hends' (.cons hnext hmore)
    have hall := (hcode.append_closed hsep hends).append hmore
    rw [List.intercalate_cons_cons, commas]
    simpa using hall

section Items

variable {codes : List String} {es : List Expr} (h : List.Forall₂ (Codes runtime) codes es)

include h

theorem forall₂_reads : List.Forall₂ Reads (codes.map String.toList) (itemTokens es) := by
  rw [itemTokens_eq, List.forall₂_map_left_iff, List.forall₂_map_right_iff]
  exact h.imp fun _ _ hcode => hcode.reads

theorem inline_of_mem_codes : ∀ code ∈ codes.map String.toList, Inline code := by
  induction h with
  | nil => simp
  | cons hcode _ ih => simpa using ⟨hcode.inline, by simpa using ih⟩

theorem properItems_of_codes : ProperItems runtime es := by
  induction h with
  | nil => trivial
  | cons hcode _ ih => exact ⟨hcode.proper, ih⟩

/-- A list of codes is the code of a list. -/
theorem codes_list : Codes runtime ("[" ++ String.intercalate "," codes ++ "]") (.list es) := by
  have hopen : Closed "[".toList [.mark '['] := closed_marks (by decide)
  have hclose : Closed "]".toList [.mark ']'] := closed_marks (by decide)
  have hcomma : Closed ",".toList [.mark ','] := closed_marks (by decide)
  refine ⟨?_, ?_, properItems_of_codes h⟩
  · rw [String.toList_append, String.toList_append, String.toList_intercalate]
    refine inline_append (inline_append ?_ ?_) ?_
    · simp [Inline]
    · exact inline_intercalate (by simp [Inline]) (inline_of_mem_codes h)
    · simp [Inline]
  · rw [String.toList_append, String.toList_append, String.toList_intercalate, List.append_assoc]
    have hitems := closed_intercalate hcomma rfl hclose rfl (forall₂_reads h)
    exact (hopen.append hitems).reads

end Items

/-! ## Things -/

/-- The code of a property: its name and its value. -/
def CodesProp (runtime : String) (code : String × String) (prop : String × Expr) : Prop :=
  code.1 = prop.1 ∧ isIdentifier code.1 = true ∧ Codes runtime code.2 prop.2

theorem codes_prop {name code : String} {e : Expr} (hname : isIdentifier name = true)
    (hcode : Codes runtime code e) : CodesProp runtime (name, code) (name, e) :=
  ⟨rfl, hname, hcode⟩

section Props

variable {codes : List (String × String)} {props : List (String × Expr)}
  (h : List.Forall₂ (CodesProp runtime) codes props)

/-- The text of a property. -/
def propText (code : String × String) : String := code.1 ++ ": " ++ code.2

include h

theorem forall₂_reads_props :
    List.Forall₂ Reads (codes.map fun code => (propText code).toList) (memberTokens props) := by
  have hcolon : Closed ": ".toList [.mark ':'] := closed_marks (by decide)
  rw [memberTokens_eq, List.forall₂_map_left_iff, List.forall₂_map_right_iff]
  refine h.imp fun code prop hprop => ?_
  obtain ⟨hname, hidentifier, hcode⟩ := hprop
  rw [propText, String.toList_append, String.toList_append, tokensOfMember, ← hname]
  have hkey := (reads_word hidentifier).append_closed hcolon rfl
  exact hkey.append_reads hcode.reads

theorem inline_of_mem_props :
    ∀ code ∈ codes.map fun code => (propText code).toList, Inline code := by
  induction h with
  | nil => simp
  | cons hprop _ ih =>
    rw [List.map_cons, List.forall_mem_cons]
    refine ⟨?_, ih⟩
    rw [propText, String.toList_append, String.toList_append]
    refine inline_append (inline_append (inline_of_isIdentifier hprop.2.1) ?_) hprop.2.2.inline
    simp [Inline]

theorem properMembers_of_codes : ProperMembers runtime props := by
  induction h with
  | nil => trivial
  | cons hprop _ ih => exact ⟨hprop.2.2.proper, ih⟩

/-- A description is the code of a thing. -/
theorem codes_thing (hne : codes ≠ []) (node : Node) (type : String) :
    Codes runtime (Literal.descriptor node.id type codes) (thing node type props) := by
  have hid : Closed "[\x7b id: ".toList [.mark '[', .mark '\x7b', .word "id", .mark ':'] := by
    intro rest
    simp [lex_cons, isBlank, readToken, isMark, isIdentifierChar]
  have htype : Closed ", type: ".toList [.mark ',', .word "type", .mark ':'] := by
    intro rest
    simp [lex_cons, isBlank, readToken, isMark, isIdentifierChar]
  have hprops : Closed ", props: ".toList [.mark ',', .word "props", .mark ':'] := by
    intro rest
    simp [lex_cons, isBlank, readToken, isMark, isIdentifierChar]
  have hopen : Closed "\x7b ".toList [.mark '\x7b'] := closed_marks (by decide)
  have hcomma : Closed ", ".toList [.mark ','] := closed_marks (by decide)
  have hclose : Closed " \x7d\x7d]".toList [.mark '\x7d', .mark '\x7d', .mark ']'] :=
    closed_marks (by decide)
  have htext : (Literal.descriptor node.id type codes).toList =
      "[\x7b id: ".toList ++ (Text.quote node.id).toList ++ ", type: ".toList ++
        (Text.quote type).toList ++ ", props: ".toList ++ "\x7b ".toList ++
        (", ".toList.intercalate (codes.map fun code => (propText code).toList) ++
          " \x7d\x7d]".toList) := by
    have hempty : codes.isEmpty = false := by simpa using hne
    simp only [Literal.descriptor, hempty, Bool.false_eq_true, if_false, String.toList_append,
      String.toList_intercalate, List.map_map, List.append_assoc]
    rfl
  refine ⟨?_, ?_, ?_⟩
  · have hblank : Inline ", ".toList := by simp [Inline]
    have hitems := inline_intercalate hblank (inline_of_mem_props h)
    rw [htext]
    refine inline_append (inline_append (inline_append (inline_append (inline_append (inline_append
      ?_ (inline_quote node.id)) ?_) (inline_quote type)) ?_) ?_) (inline_append hitems ?_) <;>
      simp [Inline]
  · have hitems := closed_intercalate hcomma rfl hclose rfl (forall₂_reads_props h)
    have hall := ((((((hid.append (closed_quote node.id)).append htype).append
      (closed_quote type)).append hprops).append hopen).append hitems).reads
    rw [htext]
    simpa [thing, Expr.tokens, itemTokens, memberTokens, commas] using hall
  · exact ⟨⟨trivial, trivial, properMembers_of_codes h, trivial⟩, trivial⟩

end Props

/-! ## Calls -/

theorem isIdentifier_operationName (op : Operation) : isIdentifier op.name = true := by
  cases op <;> decide

theorem closed_target {object method : String} (hobject : isIdentifier object = true)
    (hmethod : isIdentifier method = true) :
    Closed (object ++ "." ++ method ++ "(").toList
      [.word object, .mark '.', .word method, .mark '('] := by
  intro rest
  have hopen : Closed "(".toList [.mark '('] := closed_marks (by decide)
  have hpoint : Closed ".".toList [.mark '.'] := closed_marks (by decide)
  have hbehind := hpoint.append ((reads_word hmethod).append_closed hopen rfl)
  have hletter : ∀ c ∈ (".".toList ++ (method.toList ++ "(".toList) ++ rest).head?,
      isIdentifierChar c = false := by
    intro c hc
    cases hc
    decide
  have htext : (object ++ "." ++ method ++ "(").toList ++ rest =
      object.toList ++ (".".toList ++ (method.toList ++ "(".toList) ++ rest) := by
    simp only [String.toList_append, List.append_assoc]
  rw [htext, lex_word hobject hletter, hbehind, prepend_prepend, String.ofList_toList]
  rfl

/-- The tokens of the word before a call. -/
def keywordTokens (op : Operation) : List Token :=
  if op.isConstructor then [.word "new"] else if op.isAsync then [.word "await"] else []

theorem closed_keyword (op : Operation) : Closed op.keyword.toList (keywordTokens op) := by
  unfold Operation.keyword keywordTokens
  split_ifs
  · intro rest
    simp [lex_cons, isBlank, readToken, isIdentifierChar]
  · intro rest
    simp [lex_cons, isBlank, readToken, isIdentifierChar]
  · exact closed_nil

theorem inline_keyword (op : Operation) : Inline op.keyword.toList := by
  unfold Operation.keyword
  split_ifs <;> simp [Inline]

/-- The text of a call up to its arguments. -/
def callHead (runtime : String) (op : Operation) : String :=
  op.keyword ++ (runtime ++ "." ++ op.name ++ "(")

theorem call_eq (op : Operation) (args : List String) :
    op.call runtime args = callHead runtime op ++ String.intercalate ", " args ++ ")" := by
  simp only [Operation.call, callHead, String.append_assoc]

section Calls

variable (hruntime : isIdentifier runtime = true)

include hruntime

theorem closed_callHead (op : Operation) : Closed (callHead runtime op).toList
    (keywordTokens op ++ [.word runtime, .mark '.', .word op.name, .mark '(']) := by
  rw [callHead, String.toList_append]
  exact (closed_keyword op).append (closed_target hruntime (isIdentifier_operationName op))

theorem inline_callHead (op : Operation) : Inline (callHead runtime op).toList := by
  have hname := inline_of_isIdentifier (isIdentifier_operationName op)
  simp only [callHead, String.toList_append]
  refine inline_append (inline_keyword op) (inline_append (inline_append (inline_append
    (inline_of_isIdentifier hruntime) ?_) hname) ?_) <;> simp [Inline]

variable {args : List String} {es : List Expr} (h : List.Forall₂ (Codes runtime) args es)

include h

theorem closed_call (op : Operation) : Closed (op.call runtime args).toList
    (keywordTokens op ++ invocationTokens runtime op.name (itemTokens es)) := by
  have hcomma : Closed ", ".toList [.mark ','] := closed_marks (by decide)
  have hclose : Closed ")".toList [.mark ')'] := closed_marks (by decide)
  have hargs := closed_intercalate hcomma rfl hclose rfl (forall₂_reads h)
  rw [call_eq, String.toList_append, String.toList_append, String.toList_intercalate,
    List.append_assoc]
  have hall := (closed_callHead hruntime op).append hargs
  rwa [List.append_assoc] at hall

theorem inline_call (op : Operation) : Inline (op.call runtime args).toList := by
  have hblank : Inline ", ".toList := by simp [Inline]
  have hargs := inline_intercalate hblank (inline_of_mem_codes h)
  rw [call_eq, String.toList_append, String.toList_append, String.toList_intercalate]
  exact inline_append (inline_append (inline_callHead hruntime op) hargs) (by simp [Inline])

/-- A call that builds an object is the code of that object. -/
theorem codes_construct {op : Operation} (hop : op.isConstructor = true)
    (harity : es.length = op.arity) :
    Codes runtime (op.call runtime args) (.construct runtime op.name es) := by
  refine ⟨inline_call hruntime h op, ?_, ⟨rfl, op, hop, rfl, harity⟩, properItems_of_codes h⟩
  have hcall := (closed_call hruntime h op).reads
  rwa [keywordTokens, if_pos hop] at hcall

end Calls

/-! ## Rows -/

theorem append_ne_empty (code : String) {tail : String} (h : tail ≠ "") : code ++ tail ≠ "" := by
  intro hempty
  have hchars := congrArg String.toList hempty
  rw [String.toList_append] at hchars
  exact h (by simpa using (List.append_eq_nil_iff.1 hchars).2)

/-- A line of code that lexes on its own. -/
structure Row where
  text : String
  tokens : List Token
  nonempty : text ≠ ""
  inline : Inline text.toList
  closed : Closed text.toList tokens

/-- The text of rows. -/
def rowsText (rows : List Row) : String := String.intercalate "\n" (rows.map Row.text)

theorem rowsText_eq_empty : ∀ {rows : List Row}, rowsText rows = "" → rows = []
  | [], _ => rfl
  | [row], h => absurd h row.nonempty
  | row :: next :: more, h => by
    rw [rowsText, List.map_cons, List.map_cons, String.intercalate_cons_cons] at h
    have hchars := congrArg String.toList h
    simp at hchars

theorem rowsText_append {rows rows' : List Row} (h : rows ≠ []) (h' : rows' ≠ []) :
    rowsText (rows ++ rows') = rowsText rows ++ "\n" ++ rowsText rows' := by
  rw [rowsText, List.map_append, String.intercalate_append_of_ne_nil (by simpa) (by simpa)]
  rfl

theorem lex_rowsText : ∀ rows : List Row,
    lex (rowsText rows).toList = some (rows.flatMap Row.tokens)
  | [] => rfl
  | [row] => by
    have hrow := row.closed []
    rw [List.append_nil] at hrow
    rw [List.flatMap_singleton]
    exact hrow.trans (by simp [prepend, lex, lexWithin])
  | row :: next :: more => by
    have hmore := lex_rowsText (next :: more)
    rw [rowsText, List.map_cons, List.map_cons, String.intercalate_cons_cons, ← List.map_cons,
      String.toList_append, String.toList_append, List.append_assoc, row.closed]
    have hline : lex ("\n".toList ++ (rowsText (next :: more)).toList) =
        lex (rowsText (next :: more)).toList := lex_blank rfl _
    rw [rowsText] at hline hmore
    rw [hline, hmore, List.flatMap_cons]
    rfl

theorem splitLines_line : ∀ {line : List Char}, Inline line → ∀ rest : List Char,
    Text.splitLines (line ++ '\n' :: rest) = line :: Text.splitLines rest
  | [], _, rest => by rw [List.nil_append, Text.splitLines]
  | c :: line, h, rest => by
    have hc := h c List.mem_cons_self
    have hline : Inline line := fun d hd => h d (List.mem_cons_of_mem c hd)
    have hrest := splitLines_line hline rest
    simp [Text.splitLines, hc.1, hc.2, hrest]

theorem splitLines_last : ∀ {line : List Char}, Inline line → line ≠ [] →
    Text.splitLines line = [line]
  | [], _, hne => absurd rfl hne
  | [c], h, _ => by
    have hc := h c List.mem_cons_self
    simp [Text.splitLines, hc.1]
  | c :: d :: line, h, _ => by
    have hc := h c List.mem_cons_self
    have hline : Inline (d :: line) := fun e he => h e (List.mem_cons_of_mem c he)
    have hrest := splitLines_last hline (List.cons_ne_nil d line)
    simp [Text.splitLines, hc.1, hc.2, hrest]

theorem lines_rowsText : ∀ rows : List Row, Text.lines (rowsText rows) = rows.map Row.text
  | [] => rfl
  | [row] => by
    have hne : row.text.toList ≠ [] := by simpa using row.nonempty
    have htext : rowsText [row] = row.text := rfl
    rw [Text.lines, htext, splitLines_last row.inline hne]
    simp
  | row :: next :: more => by
    have hmore := lines_rowsText (next :: more)
    have htext : (rowsText (row :: next :: more)).toList =
        row.text.toList ++ '\n' :: (rowsText (next :: more)).toList := by
      rw [rowsText, List.map_cons, List.map_cons, String.intercalate_cons_cons, ← List.map_cons,
        String.toList_append, String.toList_append, List.append_assoc]
      rfl
    rw [Text.lines] at hmore ⊢
    rw [htext, splitLines_line row.inline, List.map_cons, hmore, String.ofList_toList]
    rfl

theorem closed_blanks : ∀ {margin : List Char}, (∀ c ∈ margin, isBlank c = true) → Closed margin []
  | [], _ => closed_nil
  | c :: margin, h => by
    rw [List.forall_mem_cons] at h
    intro rest
    rw [List.cons_append, lex_blank h.1, closed_blanks h.2]

/-- A margin of blanks and tabs. -/
def Margin (margin : String) : Prop := ∀ c ∈ margin.toList, c = ' ' ∨ c = '\t'

/-- A row behind a margin. -/
def Row.indent {margin : String} (h : Margin margin) (row : Row) : Row where
  text := margin ++ row.text
  tokens := row.tokens
  nonempty := append_ne_empty margin row.nonempty
  inline := by
    rw [String.toList_append]
    refine inline_append (fun c hc => ?_) row.inline
    rcases h c hc with rfl | rfl <;> decide
  closed := by
    rw [String.toList_append]
    refine (closed_blanks fun c hc => ?_).append row.closed
    rcases h c hc with rfl | rfl <;> rfl

theorem indent_rowsText {margin : String} (h : Margin margin) (rows : List Row) :
    Text.indent margin (rowsText rows) = rowsText (rows.map (Row.indent h)) := by
  rw [Text.indent, lines_rowsText, rowsText, List.map_map, List.map_map]
  refine congrArg _ (List.map_congr_left fun row _ => ?_)
  have hrow : row.text.isEmpty = false := by simpa using row.nonempty
  rw [Function.comp_apply, hrow, if_neg (by decide)]
  rfl

/-! ## Code of statements -/

/-- The code of statements: rows that have the tokens of the statements. -/
def Writes (runtime : String) (code : String) (body : List Stmt) : Prop :=
  ∃ rows : List Row, code = rowsText rows ∧ rows.flatMap Row.tokens = bodyTokens body ∧
    ProperBody runtime body

theorem writes_nil : Writes runtime "" [] := ⟨[], rfl, rfl, trivial⟩

theorem bodyTokens_eq_nil {body : List Stmt} (h : bodyTokens body = []) : body = [] := by
  have hlength := length_le_bodyTokens body
  rw [h] at hlength
  exact List.eq_nil_of_length_eq_zero (Nat.le_zero.1 hlength)

/-- Where there is no code there are no statements. -/
theorem Writes.eq_nil {body : List Stmt} (h : Writes runtime "" body) : body = [] := by
  obtain ⟨rows, hcode, htokens, -⟩ := h
  rw [rowsText_eq_empty hcode.symm] at htokens
  exact bodyTokens_eq_nil htokens.symm

theorem Writes.proper {code : String} {body : List Stmt} (h : Writes runtime code body) :
    ProperBody runtime body := by
  obtain ⟨-, -, -, hproper⟩ := h
  exact hproper

/-- **Code reads as its statements.** -/
theorem Writes.read {code : String} {body : List Stmt} (h : Writes runtime code body)
    (hruntime : runtime ∉ reservedWords) : read code = some body := by
  have hproper := h.proper
  obtain ⟨rows, rfl, htokens, -⟩ := h
  refine read_of_lex hruntime hproper ?_
  rw [lex_rowsText, htokens]

/-- **Indented code has the same statements.** -/
theorem Writes.indent {code : String} {body : List Stmt} (h : Writes runtime code body)
    {margin : String} (hmargin : Margin margin) :
    Writes runtime (Text.indent margin code) body := by
  obtain ⟨rows, rfl, htokens, hproper⟩ := h
  refine ⟨rows.map (Row.indent hmargin), indent_rowsText hmargin rows, ?_, hproper⟩
  rw [List.flatMap_map]
  exact htokens

/-- Statements with a line for each piece of code. -/
inductive WritesAll (runtime : String) : List String → List Stmt → Prop
  | nil : WritesAll runtime [] []
  | cons {code : String} {codes : List String} {body rest : List Stmt} :
    code ≠ "" → Writes runtime code body → WritesAll runtime codes rest →
      WritesAll runtime (code :: codes) (body ++ rest)

theorem WritesAll.exists_rows {codes : List String} {body : List Stmt}
    (h : WritesAll runtime codes body) : ∃ rows : List Row,
      String.intercalate "\n" codes = rowsText rows ∧ (codes ≠ [] → rows ≠ []) ∧
        rows.flatMap Row.tokens = bodyTokens body ∧ ProperBody runtime body := by
  induction h with
  | nil => exact ⟨[], rfl, fun h => absurd rfl h, rfl, trivial⟩
  | @cons code codes body rest hne hcode hrest ih =>
    obtain ⟨rows, rfl, htokens, hproper⟩ := hcode
    obtain ⟨rows', hcodes, hnil, htokens', hproper'⟩ := ih
    -- Code that is not empty has rows, so the line break before the next code separates rows.
    have hrows : rows ≠ [] := by
      rintro rfl
      exact hne rfl
    refine ⟨rows ++ rows', ?_, fun _ => by simp [hrows], ?_, properBody_append hproper hproper'⟩
    · cases codes with
      | nil =>
        rw [rowsText_eq_empty hcodes.symm, List.append_nil]
        exact String.intercalate_singleton
      | cons next more =>
        rw [String.intercalate_cons_cons, hcodes,
          rowsText_append hrows (hnil (List.cons_ne_nil next more))]
    · rw [List.flatMap_append, htokens, htokens', bodyTokens_append]

theorem WritesAll.writes {codes : List String} {body : List Stmt}
    (h : WritesAll runtime codes body) :
    Writes runtime (String.intercalate "\n" codes) body := by
  obtain ⟨rows, hcodes, -, htokens, hproper⟩ := h.exists_rows
  exact ⟨rows, hcodes, htokens, hproper⟩

/-- Pieces without code are left out. -/
theorem WritesAll.cons_of_writes {code : String} {codes : List String} {body rest : List Stmt}
    (hrest : WritesAll runtime codes rest) (hcode : Writes runtime code body) :
    WritesAll runtime (if code.isEmpty then codes else code :: codes) (body ++ rest) := by
  by_cases hne : code = ""
  · rw [hne] at hcode
    rw [if_pos (String.isEmpty_iff.2 hne), hcode.eq_nil]
    exact hrest
  · rw [if_neg (fun hempty => hne (String.isEmpty_iff.1 hempty))]
    exact .cons hne hcode hrest

/-! ## Statements of one block -/

/-- Code on one line that has the tokens of statements. -/
theorem writes_row {code : String} {body : List Stmt} (hne : code ≠ "")
    (hinline : Inline code.toList) (hclosed : Closed code.toList (bodyTokens body))
    (hproper : ProperBody runtime body) : Writes runtime code body :=
  ⟨[⟨code, bodyTokens body, hne, hinline, hclosed⟩], rfl, by simp, hproper⟩

theorem perform_tokens {op : Operation} (hop : op.isConstructor = false) (es : List Expr) :
    (perform runtime op es).tokens =
      keywordTokens op ++ invocationTokens runtime op.name (itemTokens es) ++ [.mark ';'] := by
  rw [perform, Stmt.tokens, keywordTokens, hop, List.append_assoc]
  rfl

section Statements

variable (hruntime : isIdentifier runtime = true) {op : Operation} (hop : op.isConstructor = false)
  {args : List String} {es : List Expr} (h : List.Forall₂ (Codes runtime) args es)
  (harity : es.length = op.arity)

include hop h harity in
theorem perform_proper : (perform runtime op es).Proper runtime :=
  ⟨⟨rfl, op, hop, rfl, harity, rfl⟩, properItems_of_codes h⟩

include hruntime hop h in
theorem closed_perform :
    Closed (op.call runtime args ++ ";").toList (perform runtime op es).tokens := by
  have hend : Closed ";".toList [.mark ';'] := closed_marks (by decide)
  rw [String.toList_append, perform_tokens hop]
  exact (closed_call hruntime h op).append hend

include hruntime h in
theorem inline_perform : Inline (op.call runtime args ++ ";").toList := by
  rw [String.toList_append]
  exact inline_append (inline_call hruntime h op) (by simp [Inline])

include hruntime hop h harity

/-- The code of a call. -/
theorem writes_perform : Writes runtime (op.call runtime args ++ ";") [perform runtime op es] := by
  refine writes_row (append_ne_empty _ (by decide)) (inline_perform hruntime h) ?_
    ⟨perform_proper hop h harity, trivial⟩
  rw [bodyTokens, bodyTokens, List.append_nil]
  exact closed_perform hruntime hop h

/-- The code of an assignment and a call. -/
theorem writes_create {name value : String} {e : Expr} (hname : FreeName name)
    (hvalue : Codes runtime value e) :
    Writes runtime (name ++ " = " ++ value ++ "; " ++ (op.call runtime args ++ ";"))
      [.assign name e, perform runtime op es] := by
  have hassign : Closed " = ".toList [.mark '='] := by
    intro rest
    simp [lex_cons, isBlank, readToken, isIdentifierChar]
  have hend : Closed "; ".toList [.mark ';'] := closed_marks (by decide)
  have hall := (((reads_word hname.1).append_closed hassign rfl).append
    (hvalue.reads.append_closed hend rfl)).append (closed_perform hruntime hop h)
  refine writes_row (append_ne_empty _ (append_ne_empty _ (by decide))) ?_ ?_
    ⟨⟨hname, hvalue.proper⟩, perform_proper hop h harity, trivial⟩
  · have hcall : Inline (op.call runtime args ++ ";").toList := inline_perform hruntime h
    rw [String.toList_append, String.toList_append, String.toList_append, String.toList_append]
    refine inline_append (inline_append (inline_append (inline_append
      (inline_of_isIdentifier hname.1) ?_) hvalue.inline) ?_) hcall <;> simp [Inline]
  · rw [bodyTokens, bodyTokens, bodyTokens, List.append_nil, Stmt.tokens]
    simpa using hall

end Statements

section Handlers

variable (hruntime : isIdentifier runtime = true) {op : Operation} {name : String}
  (hname : FreeName name)

/-- The row that opens a handler: a call up to the body of its second argument. -/
def openRow (hruntime : isIdentifier runtime = true) (op : Operation) {name : String}
    (hname : FreeName name) : Row where
  text := callHead runtime op ++ name ++ ", async () => \x7b"
  tokens := keywordTokens op ++ [.word runtime, .mark '.', .word op.name, .mark '('] ++
    ([.word name] ++
      [.mark ',', .word "async", .mark '(', .mark ')', .arrow, .mark '\x7b'])
  nonempty := append_ne_empty _ (by decide)
  inline := by
    rw [String.toList_append, String.toList_append]
    refine inline_append (inline_append (inline_callHead hruntime op)
      (inline_of_isIdentifier hname.1)) ?_
    simp [Inline]
  closed := by
    have hopen : Closed ", async () => \x7b".toList
        [.mark ',', .word "async", .mark '(', .mark ')', .arrow, .mark '\x7b'] := by
      intro rest
      simp [lex_cons, isBlank, readToken, isMark, isIdentifierChar]
    rw [String.toList_append, String.toList_append, List.append_assoc]
    exact (closed_callHead hruntime op).append ((reads_word hname.1).append_closed hopen rfl)

/-- The row that closes a handler and the call around it. -/
def closeRow : Row where
  text := "\x7d);"
  tokens := [.mark '\x7d', .mark ')', .mark ';']
  nonempty := by decide
  inline := by simp [Inline]
  closed := closed_marks (by decide)

theorem rowsText_handler (rows : List Row) :
    op.call runtime [name, Kinds.handler (rowsText rows)] ++ ";" =
      rowsText (openRow hruntime op hname :: (rows ++ [closeRow])) := by
  have hopen : rowsText (openRow hruntime op hname :: (rows ++ [closeRow])) =
      callHead runtime op ++ name ++ ", async () => \x7b" ++ "\n" ++
        rowsText (rows ++ [closeRow]) := by
    rw [← List.singleton_append, rowsText_append (by simp) (by simp)]
    rfl
  have hargs : String.intercalate ", " [name, Kinds.handler (rowsText rows)] =
      name ++ ", " ++ Kinds.handler (rowsText rows) := rfl
  rw [hopen, call_eq, hargs, Kinds.handler]
  by_cases hrows : rows = []
  · subst hrows
    apply String.toList_inj.1
    simp [rowsText, closeRow]
  · have hbody : (rowsText rows).isEmpty = false := by
      rw [Bool.eq_false_iff]
      intro hempty
      exact hrows (rowsText_eq_empty (String.isEmpty_iff.1 hempty))
    rw [rowsText_append hrows (by simp), hbody]
    apply String.toList_inj.1
    simp [rowsText, closeRow]

include hruntime hname in
/-- The code of a call with a handler. -/
theorem writes_handler (hop : op.isConstructor = false) (harity : 2 = op.arity) {code : String}
    {body : List Stmt} (hbody : Writes runtime code body) :
    Writes runtime (op.call runtime [name, Kinds.handler code] ++ ";")
      [perform runtime op [.name name, .handler body]] := by
  obtain ⟨rows, rfl, htokens, hproper⟩ := hbody
  refine ⟨_, rowsText_handler hruntime hname rows, ?_, ?_⟩
  · rw [bodyTokens, bodyTokens, List.append_nil, perform_tokens hop, List.flatMap_cons,
      List.flatMap_append, htokens, invocationTokens]
    simp [openRow, closeRow, itemTokens, Expr.tokens, commas]
  · exact ⟨⟨⟨rfl, op, hop, rfl, harity, rfl⟩, hname, hproper, trivial⟩, trivial⟩

end Handlers

end SceneScript.Script
