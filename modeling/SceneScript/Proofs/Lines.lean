import Mathlib.Data.List.Basic
import Mathlib.Logic.Function.Iterate
import SceneScript.Proofs.Script.Skeleton

/-!
# Lines of texts

A text is split into its lines each time it is indented. Splitting takes the carriage return at the
end of a line away, so a line that is indented several times can lose several of them. If a text
does not end with the end of a line, splitting goes together with putting texts below each other and
with indenting them.

* `Firm`: a text whose last line does not end with a line feed or a carriage return.
* `lines_below`, `lines_intercalate`: the lines of texts below each other.
* `lines_indent`: the lines of an indented text.
* **`iterate_reline`**: indenting line by line and several times puts as many margins before a line.
-/

namespace SceneScript.Text

open Script Script.SameOutsideChars

/-! ## Carriage returns -/

/-- A line without the carriage return at its end. -/
def chop (line : List Char) : List Char :=
  if line.getLast? = some '\r' then line.dropLast else line

theorem chop_append {b : List Char} (h : b ≠ []) (a : List Char) :
    chop (a ++ b) = a ++ chop b := by
  unfold chop
  rw [List.getLast?_append_of_ne_nil a h]
  split_ifs
  · rw [List.dropLast_append_of_ne_nil h]
  · rfl

theorem chop_of_not_mem {line : List Char} (h : '\r' ∉ line) : chop line = line := by
  unfold chop
  rw [if_neg fun hlast => h (List.mem_of_getLast? hlast)]

theorem chop_append_of_not_mem {a : List Char} (h : '\r' ∉ a) (b : List Char) :
    chop (a ++ b) = a ++ chop b := by
  by_cases hb : b = []
  · rw [hb, List.append_nil, chop_of_not_mem h]
    simp [chop]
  · exact chop_append hb a

theorem mem_of_mem_chop {c : Char} {line : List Char} (h : c ∈ chop line) : c ∈ line := by
  unfold chop at h
  split_ifs at h
  · exact List.dropLast_subset line h
  · exact h

/-! ## Splitting -/

theorem splitLines_feed : ∀ {row : List Char}, '\n' ∉ row → ∀ rest : List Char,
    splitLines (row ++ '\n' :: rest) = chop row :: splitLines rest
  | [], _, rest => by
    rw [List.nil_append, splitLines]
    rfl
  | [c], h, rest => by
    have hc : c ≠ '\n' := fun hc => h (by simp [hc])
    by_cases hreturn : c = '\r'
    · rw [hreturn, List.singleton_append, splitLines]
      rfl
    · have hfirst := splitLines_cons ('\n' :: rest) hc fun hc => absurd hc hreturn
      have hchop : chop [c] = [c] := chop_of_not_mem (by simpa using Ne.symm hreturn)
      rw [List.singleton_append, hfirst, splitLines, hchop]
      rfl
  | c :: d :: row, h, rest => by
    rw [List.mem_cons, not_or] at h
    have hd : d ≠ '\n' := fun hd => h.2 (by simp [hd])
    have hfirst := splitLines_cons (d :: row ++ '\n' :: rest) (Ne.symm h.1) fun _ => by
      simpa using hd
    have hchop : chop (c :: d :: row) = c :: chop (d :: row) :=
      chop_append (List.cons_ne_nil d row) [c]
    rw [List.cons_append, hfirst, splitLines_feed h.2 rest, hchop]
    rfl

theorem splitLines_row : ∀ {row : List Char}, '\n' ∉ row → row ≠ [] → splitLines row = [row]
  | [], _, hne => absurd rfl hne
  | [c], h, _ => by
    have hc : c ≠ '\n' := fun hc => h (by simp [hc])
    rw [splitLines_cons [] hc fun _ => by simp]
    rfl
  | c :: d :: row, h, _ => by
    rw [List.mem_cons, not_or] at h
    have hd : d ≠ '\n' := fun hd => h.2 (by simp [hd])
    have hfirst := splitLines_cons (d :: row) (Ne.symm h.1) fun _ => by simpa using hd
    rw [hfirst, splitLines_row h.2 (List.cons_ne_nil d row)]
    rfl

/-! ## Firm texts -/

/-- A text whose last line does not end with a line feed or a carriage return. -/
inductive Firm : List Char → Prop
  | last {row : List Char} : '\n' ∉ row → row ≠ [] → chop row = row → Firm row
  | feed {row rest : List Char} : '\n' ∉ row → Firm rest → Firm (row ++ '\n' :: rest)

namespace Firm

variable {a b : List Char}

theorem cons (c : Char) (h : Firm a) : Firm (c :: a) := by
  by_cases hc : c = '\n'
  · rw [hc]
    exact .feed List.not_mem_nil h
  · cases h with
    | last hrow hne hchop =>
      refine .last (by simp [hrow, Ne.symm hc]) (List.cons_ne_nil c _) ?_
      exact (chop_append hne [c]).trans (congrArg (c :: ·) hchop)
    | @feed row rest hrow hrest =>
      have hcons : '\n' ∉ c :: row := by simp [hrow, Ne.symm hc]
      exact .feed hcons hrest

/-- Only the end of a text matters. -/
theorem prepend (h : Firm b) : ∀ a : List Char, Firm (a ++ b)
  | [] => h
  | c :: a => (h.prepend a).cons c

theorem ne_nil (h : Firm a) : a ≠ [] := by
  cases h with
  | last _ hne _ => exact hne
  | feed _ _ => simp

theorem splitLines_ne_nil (h : Firm a) : splitLines a ≠ [] := by
  cases h with
  | last hrow hne _ => simp [splitLines_row hrow hne]
  | feed hrow _ => simp [splitLines_feed hrow]

/-- The lines of two texts below each other. -/
theorem splitLines_append (h : Firm a) (b : List Char) :
    splitLines (a ++ '\n' :: b) = splitLines a ++ splitLines b := by
  induction h with
  | last hrow hne hchop => rw [splitLines_feed hrow, hchop, splitLines_row hrow hne]; rfl
  | feed hrow _ ih =>
    rw [List.append_assoc, List.cons_append, splitLines_feed hrow, ih, splitLines_feed hrow]
    rfl

theorem append (ha : Firm a) (hb : Firm b) : Firm (a ++ '\n' :: b) := by
  induction ha with
  | last hrow _ _ => exact .feed hrow hb
  | feed hrow _ ih =>
    rw [List.append_assoc, List.cons_append]
    exact .feed hrow ih

end Firm

/-! ## Margins -/

/-- A line behind a margin. -/
def margined (margin line : List Char) : List Char := if line = [] then [] else margin ++ line

theorem toList_indent (margin text : String) : (indent margin text).toList =
    ['\n'].intercalate ((splitLines text.toList).map (margined margin.toList)) := by
  rw [indent, String.toList_intercalate, lines, List.map_map, List.map_map]
  congr 1
  refine List.map_congr_left fun line _ => ?_
  by_cases h : line = []
  · simp [margined, h]
  · simp [margined, h]

theorem not_mem_margined {margin line : List Char} (hmargin : Inline margin) (h : '\n' ∉ line) :
    '\n' ∉ margined margin line := by
  unfold margined
  split_ifs
  · simp
  · rw [List.mem_append, not_or]
    exact ⟨fun hmem => (hmargin _ hmem).1 rfl, h⟩

/-- The lines of a text after each of them was put behind a margin. -/
theorem Firm.intercalate_margined {margin text : List Char} (hmargin : Inline margin)
    (h : Firm text) :
    Firm (['\n'].intercalate ((splitLines text).map (margined margin))) ∧
      splitLines (['\n'].intercalate ((splitLines text).map (margined margin))) =
        (splitLines text).map (chop ∘ margined margin) := by
  have hreturn : '\r' ∉ margin := fun hmem => (hmargin _ hmem).2 rfl
  induction h with
  | @last row hrow hne hchop =>
    have hline : margined margin row = margin ++ row := if_neg hne
    have hchopped : chop (margin ++ row) = margin ++ row := by
      rw [chop_append_of_not_mem hreturn, hchop]
    have hfeed := not_mem_margined hmargin hrow
    have hempty : margin ++ row ≠ [] := by simp [hne]
    rw [hline] at hfeed
    rw [splitLines_row hrow hne]
    simp only [List.map_cons, List.map_nil, List.intercalate_singleton, Function.comp_apply, hline,
      hchopped]
    exact ⟨.last hfeed hempty hchopped, splitLines_row hfeed hempty⟩
  | @feed row rest hrow hrest ih =>
    have hfeed := not_mem_margined hmargin fun hmem => hrow (mem_of_mem_chop hmem)
    obtain ⟨line, lines, hlines⟩ := List.exists_cons_of_ne_nil hrest.splitLines_ne_nil
    rw [splitLines_feed hrow, List.map_cons, List.map_cons, hlines, List.map_cons,
      List.intercalate_cons_cons, ← List.map_cons, ← hlines, List.append_assoc,
      List.singleton_append, splitLines_feed hfeed, ih.2]
    exact ⟨.feed hfeed ih.1, rfl⟩

/-- **Margins add up.** A line that is put behind a margin several times stands behind that many
margins, unless it was empty, and has lost some carriage returns. -/
theorem iterate_chop_margined {margin : List Char} (hmargin : Inline margin) (line : List Char) :
    ∀ n : Nat, (chop ∘ margined margin)^[n] line =
      (List.replicate (if line = [] then 0 else n) margin).flatten ++ chop^[n] line := by
  have hreturn : '\r' ∉ margin := fun hmem => (hmargin _ hmem).2 rfl
  have hflat : ∀ n, '\r' ∉ (List.replicate n margin).flatten := by
    intro n hmem
    obtain ⟨_, hm, hmem⟩ := List.mem_flatten.1 hmem
    exact hreturn (List.eq_of_mem_replicate hm ▸ hmem)
  intro n
  induction n with
  | zero => simp
  | succ n ih =>
    rw [Function.iterate_succ_apply', Function.iterate_succ_apply', ih, Function.comp_apply]
    by_cases hline : line = []
    · have hnil : chop^[n] [] = [] := Function.iterate_fixed rfl n
      simp [hline, hnil, margined, chop]
    · simp only [if_neg hline]
      have hmargined : margined margin ((List.replicate n margin).flatten ++ chop^[n] line) =
          (List.replicate (n + 1) margin).flatten ++ chop^[n] line := by
        unfold margined
        split_ifs with hempty
        · -- Only an empty margin can leave a line empty that was not.
          obtain ⟨hmargins, hchopped⟩ := List.append_eq_nil_iff.1 hempty
          cases n with
          | zero => exact absurd hchopped hline
          | succ n =>
            rw [List.replicate_succ, List.flatten_cons, List.append_eq_nil_iff] at hmargins
            simp [hchopped, hmargins.1]
        · rw [List.replicate_succ, List.flatten_cons, List.append_assoc]
      rw [hmargined, chop_append_of_not_mem (hflat (n + 1))]

theorem exists_chop_append (line : List Char) :
    ∀ n : Nat, ∃ m, line = chop^[n] line ++ List.replicate m '\r' := by
  intro n
  induction n with
  | zero => exact ⟨0, by simp⟩
  | succ n ih =>
    obtain ⟨m, hm⟩ := ih
    rw [Function.iterate_succ_apply']
    generalize chop^[n] line = chopped at hm ⊢
    unfold chop
    split_ifs with hlast
    · refine ⟨m + 1, ?_⟩
      rw [List.replicate_succ, ← List.singleton_append, ← List.append_assoc,
        List.dropLast_append_getLast? _ hlast]
      exact hm
    · exact ⟨m, hm⟩

/-! ## Lines as texts -/

/-- A line behind a margin, without the carriage return at its end. -/
def reline (margin line : String) : String :=
  String.ofList (chop (margined margin.toList line.toList))

theorem firm_append {b : String} (h : Firm b.toList) (a : String) : Firm (a ++ b).toList := by
  rw [String.toList_append]
  exact h.prepend a.toList

theorem toList_below (a b : String) : (a ++ "\n" ++ b).toList = a.toList ++ '\n' :: b.toList := by
  simp

theorem firm_below {a b : String} (ha : Firm a.toList) (hb : Firm b.toList) :
    Firm (a ++ "\n" ++ b).toList := by
  rw [toList_below]
  exact ha.append hb

theorem lines_below {a : String} (h : Firm a.toList) (b : String) :
    lines (a ++ "\n" ++ b) = lines a ++ lines b := by
  rw [lines, toList_below, h.splitLines_append, List.map_append, lines, lines]

theorem lines_indent {margin text : String} (hmargin : Inline margin.toList)
    (h : Firm text.toList) : lines (indent margin text) = (lines text).map (reline margin) := by
  rw [lines, toList_indent, (h.intercalate_margined hmargin).2, lines, List.map_map, List.map_map]
  refine List.map_congr_left fun line _ => ?_
  simp [reline]

theorem firm_intercalate : ∀ {codes : List String}, codes ≠ [] →
    (∀ code ∈ codes, Firm code.toList) → Firm (String.intercalate "\n" codes).toList
  | [], hne, _ => absurd rfl hne
  | [code], _, h => h code List.mem_cons_self
  | code :: next :: rest, _, h => by
    have hrest := firm_intercalate (List.cons_ne_nil next rest) fun c hc =>
      h c (List.mem_cons_of_mem code hc)
    rw [String.intercalate_cons_cons]
    exact firm_below (h code List.mem_cons_self) hrest

theorem lines_intercalate : ∀ {codes : List String}, (∀ code ∈ codes, Firm code.toList) →
    lines (String.intercalate "\n" codes) = codes.flatMap lines
  | [], _ => rfl
  | [code], _ => by simp
  | code :: next :: rest, h => by
    have hrest := lines_intercalate fun c hc => h c (List.mem_cons_of_mem code hc)
    rw [String.intercalate_cons_cons, lines_below (h code List.mem_cons_self), hrest]
    rfl

theorem iterate_reline_eq (margin line : String) (n : Nat) :
    (reline margin)^[n] line = String.ofList ((chop ∘ margined margin.toList)^[n] line.toList) := by
  have hsemiconj : Function.Semiconj String.ofList (chop ∘ margined margin.toList)
      (reline margin) := by
    intro line
    simp [reline]
  rw [hsemiconj.iterate_right n, String.ofList_toList]

theorem chop_comp_margined_nil : chop ∘ margined [] = chop := by
  funext line
  by_cases h : line = []
  · simp [margined, h]
  · simp [margined, h]

theorem iterate_reline {margin : String} (hmargin : Inline margin.toList) (line : String)
    (n : Nat) : (reline margin)^[n] line =
      String.join (List.replicate (if line = "" then 0 else n) margin) ++ (reline "")^[n] line := by
  have hplain : chop ∘ margined "".toList = chop := chop_comp_margined_nil
  have hempty : line = "" ↔ line.toList = [] := by simp
  rw [iterate_reline_eq, iterate_reline_eq, iterate_chop_margined hmargin, hplain,
    String.ofList_append]
  congr 1
  rw [← String.toList_inj, String.toList_join, String.toList_ofList, List.flatMap_def,
    List.map_replicate]
  simp only [hempty]

/-- Without a margin, a line loses nothing but carriage returns. -/
theorem exists_iterate_reline_append (line : String) (n : Nat) :
    ∃ m, line = (reline "")^[n] line ++ String.join (List.replicate m "\r") := by
  obtain ⟨m, hm⟩ := exists_chop_append line.toList n
  refine ⟨m, ?_⟩
  have hplain : chop ∘ margined "".toList = chop := chop_comp_margined_nil
  rw [iterate_reline_eq, hplain, ← String.toList_inj, String.toList_append, String.toList_ofList,
    String.toList_join, List.flatMap_def, List.map_replicate]
  simpa using hm

end SceneScript.Text
