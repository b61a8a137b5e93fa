import SceneScript.Proofs.Lines

/-!
# Listings

A listing is a script with its handlers set apart: statements one after another, some of which are
handlers with a body of their own. The lines of a listing are counted without any margins, so it
says which lines are in the body of which handlers, however the script is indented.

* `Listing.written`: the lines of a listing before they are indented.
* `Listing.handlersAround`: how many handlers have a line in their body.
* `Listing.codes`: the code of the statements, with indented bodies.
* **`Listing.getElem?_lines_codes`**: each line of the code is put behind a margin once for each
  handler around it.
-/

namespace SceneScript.Script

open Text

/-- Statements one after another. Some of them are handlers, whose body is set apart. -/
inductive Listing where
  | none
  | statement (code : String) (next : Listing)
  | handler (opening : String) (body next : Listing)
deriving DecidableEq

namespace Listing

/-- The line at the end of a handler. -/
def closing : String := "\x7d);"

/-- Two listings one after another. -/
def append : Listing → Listing → Listing
  | none, rest => rest
  | statement code next, rest => statement code (next.append rest)
  | handler opening body next, rest => handler opening body (next.append rest)

/-! ## Lines and the handlers around them -/

/-- The lines of a listing before they are indented. -/
def written : Listing → List String
  | none => []
  | statement code next => lines code ++ next.written
  | handler opening body next => lines opening ++ (body.written ++ closing :: next.written)

/-- The bodies of all handlers, each with the number of its first line and of the line that closes
it, if the listing starts at line `start`. -/
def bodies (start : Nat) : Listing → List (Nat × Nat)
  | none => []
  | statement code next => next.bodies (start + (lines code).length)
  | handler opening body next =>
    let first := start + (lines opening).length
    let last := first + body.written.length
    (first, last) :: (body.bodies first ++ next.bodies (last + 1))

/-- A body has a line. -/
def within (k : Nat) (body : Nat × Nat) : Bool := body.1 ≤ k && k < body.2

/-- How many handlers have a line in their body. -/
def handlersAround (l : Listing) (k : Nat) : Nat := (l.bodies 0).countP (within k)

theorem bounds_of_mem_bodies {l : Listing} {start : Nat} {body : Nat × Nat}
    (h : body ∈ l.bodies start) : start ≤ body.1 ∧ body.2 ≤ start + l.written.length := by
  induction l generalizing start with
  | none => cases h
  | statement code next ih =>
    have hnext := ih h
    rw [written, List.length_append]
    omega
  | handler opening inner next ihbody ihnext =>
    simp only [bodies, List.mem_cons, List.mem_append] at h
    simp only [written, List.length_append, List.length_cons]
    rcases h with rfl | h | h
    · omega
    · have hbody := ihbody h
      omega
    · have hnext := ihnext h
      omega

/-- No body of a listing has a line before or behind the listing. -/
theorem countP_bodies_eq_zero {l : Listing} {start k : Nat}
    (h : k < start ∨ start + l.written.length ≤ k) : (l.bodies start).countP (within k) = 0 := by
  refine List.countP_eq_zero.2 fun body hbody => ?_
  have hbounds := bounds_of_mem_bodies hbody
  simp only [within, Bool.and_eq_true, decide_eq_true_eq, not_and]
  omega

/-! ## Code -/

/-- A handler, with the code of its body indented. -/
def handlerCode (margin opening : String) (codes : List String) : String :=
  let body := Text.indent margin (String.intercalate "\n" codes)
  if body.isEmpty then opening ++ "\n" ++ closing
  else opening ++ "\n" ++ body ++ "\n" ++ closing

/-- The code of the statements of a listing. -/
def codes (margin : String) : Listing → List String
  | none => []
  | statement code next => code :: next.codes margin
  | handler opening body next => handlerCode margin opening (body.codes margin) :: next.codes margin

theorem codes_append (margin : String) (l rest : Listing) :
    (l.append rest).codes margin = l.codes margin ++ rest.codes margin := by
  induction l with
  | none => rfl
  | statement code next ih => rw [append, codes, ih, codes, List.cons_append]
  | handler opening body next _ ih => rw [append, codes, ih, codes, List.cons_append]

/-- All statements and the openings of all handlers have a property. -/
def All (P : String → Prop) : Listing → Prop
  | none => True
  | statement code next => P code ∧ next.All P
  | handler opening body next => P opening ∧ body.All P ∧ next.All P

theorem All.imp {P Q : String → Prop} (h : ∀ code, P code → Q code) {l : Listing} (hl : l.All P) :
    l.All Q := by
  induction l with
  | none => trivial
  | statement code next ih => exact ⟨h code hl.1, ih hl.2⟩
  | handler opening body next ihbody ihnext =>
    exact ⟨h opening hl.1, ihbody hl.2.1, ihnext hl.2.2⟩

theorem All.append {P : String → Prop} {l rest : Listing} (hl : l.All P) (hrest : rest.All P) :
    (l.append rest).All P := by
  induction l with
  | none => exact hrest
  | statement code next ih => exact ⟨hl.1, ih hl.2⟩
  | handler opening body next _ ih => exact ⟨hl.1, hl.2.1, ih hl.2.2⟩

/-- No statement and no opening of a handler ends with the end of a line. -/
def Firm (l : Listing) : Prop := l.All fun code => Text.Firm code.toList

section Handlers

variable {margin opening : String} (hmargin : Inline margin.toList)
  (hopening : Text.Firm opening.toList) {codes : List String}
  (hcodes : ∀ code ∈ codes, Text.Firm code.toList)

theorem firm_handlerCode (margin opening : String) (codes : List String) :
    Text.Firm (handlerCode margin opening codes).toList := by
  have hclosing : Text.Firm closing.toList := .last (by decide) (by decide) (by decide)
  unfold handlerCode
  dsimp only
  split_ifs
  · exact firm_append hclosing _
  · exact firm_append hclosing _

include hmargin hopening hcodes

theorem lines_handlerCode : lines (handlerCode margin opening codes) =
    lines opening ++ ((codes.flatMap lines).map (reline margin) ++ [closing]) := by
  have hclosing : lines closing = [closing] := by decide
  unfold handlerCode
  dsimp only
  by_cases hnil : codes = []
  · have hempty : (indent margin (String.intercalate "\n" codes)).isEmpty = true := by
      rw [hnil]
      rfl
    rw [if_pos hempty, lines_below hopening, hclosing, hnil]
    rfl
  · have hfirm := firm_intercalate hnil hcodes
    have hbody := (hfirm.intercalate_margined hmargin).1
    rw [← toList_indent] at hbody
    have hempty : ¬ (indent margin (String.intercalate "\n" codes)).isEmpty = true := by
      simpa using hbody.ne_nil
    rw [if_neg hempty, lines_below (firm_below hopening hbody), lines_below hopening,
      lines_indent hmargin hfirm, lines_intercalate hcodes, hclosing, List.append_assoc]

end Handlers

theorem Firm.codes {l : Listing} (h : l.Firm) (margin : String) :
    ∀ code ∈ l.codes margin, Text.Firm code.toList := by
  induction l with
  | none => simp [Listing.codes]
  | statement code next ih =>
    rw [Listing.codes, List.forall_mem_cons]
    exact ⟨h.1, ih h.2⟩
  | handler opening body next _ ih =>
    rw [Listing.codes, List.forall_mem_cons]
    exact ⟨firm_handlerCode margin opening _, ih h.2.2⟩

/-- A listing without line feeds in its statements has no empty lines. -/
theorem ne_empty_of_mem_written {l : Listing} (hfirm : l.Firm)
    (h : l.All fun code => '\n' ∉ code.toList) : ∀ line ∈ l.written, line ≠ "" := by
  have hlines : ∀ {code : String}, Text.Firm code.toList → '\n' ∉ code.toList →
      ∀ line ∈ lines code, line ≠ "" := by
    intro code hcode hfeed line hline
    rw [lines, splitLines_row hfeed hcode.ne_nil] at hline
    simp only [List.map_cons, List.map_nil, String.ofList_toList, List.mem_singleton] at hline
    rw [hline]
    simpa using hcode.ne_nil
  induction l with
  | none => simp [written]
  | statement code next ih =>
    rw [written, List.forall_mem_append]
    exact ⟨hlines hfirm.1 h.1, ih hfirm.2 h.2⟩
  | handler opening body next ihbody ihnext =>
    rw [written, List.forall_mem_append, List.forall_mem_append, List.forall_mem_cons]
    exact ⟨hlines hfirm.1 h.1, ihbody hfirm.2.1 h.2.1, by decide, ihnext hfirm.2.2 h.2.2⟩

/-! ## Lines of the code -/

/-- The lines of a listing, those in the body of a handler put behind a margin. -/
def laidOut (margin : String) : Listing → List String
  | none => []
  | statement code next => lines code ++ next.laidOut margin
  | handler opening body next =>
    lines opening ++ ((body.laidOut margin).map (reline margin) ++ closing :: next.laidOut margin)

theorem length_laidOut (margin : String) (l : Listing) :
    (l.laidOut margin).length = l.written.length := by
  induction l with
  | none => rfl
  | statement code next ih => simp [laidOut, written, ih]
  | handler opening body next ihbody ihnext => simp [laidOut, written, ihbody, ihnext]

theorem flatMap_lines_codes {margin : String} (hmargin : Inline margin.toList) {l : Listing}
    (h : l.Firm) : (l.codes margin).flatMap lines = l.laidOut margin := by
  induction l with
  | none => rfl
  | statement code next ih => rw [Listing.codes, List.flatMap_cons, ih h.2, laidOut]
  | handler opening body next ihbody ihnext =>
    obtain ⟨hopening, hbody, hnext⟩ := h
    rw [Listing.codes, List.flatMap_cons, ihnext hnext,
      lines_handlerCode hmargin hopening (Firm.codes hbody margin), ihbody hbody, laidOut]
    simp only [List.append_assoc, List.singleton_append]

theorem getElem?_append_add (a b : List String) (j : Nat) : (a ++ b)[a.length + j]? = b[j]? := by
  rw [List.getElem?_append_right (Nat.le_add_right _ j), Nat.add_sub_cancel_left]

theorem within_iff {k first last : Nat} : within k (first, last) = true ↔ first ≤ k ∧ k < last := by
  simp [within]

/-- Each line of a listing is put behind a margin once for each body that it is in. -/
theorem getElem?_laidOut (margin : String) (l : Listing) (start k : Nat) :
    (l.laidOut margin)[k]? =
      l.written[k]?.map (reline margin)^[(l.bodies start).countP (within (start + k))] := by
  induction l generalizing start k with
  | none => rfl
  | statement code next ih =>
    rw [laidOut, written, bodies]
    by_cases hcode : k < (lines code).length
    · rw [List.getElem?_append_left hcode, List.getElem?_append_left hcode,
        countP_bodies_eq_zero (.inl (by omega))]
      simp
    · obtain ⟨j, rfl⟩ := Nat.exists_eq_add_of_le (Nat.le_of_not_lt hcode)
      rw [getElem?_append_add, getElem?_append_add, ih (start + (lines code).length) j,
        Nat.add_assoc]
  | handler opening body next ihbody ihnext =>
    rw [laidOut, written, bodies, List.countP_cons, List.countP_append]
    by_cases hopening : k < (lines opening).length
    · rw [List.getElem?_append_left hopening, List.getElem?_append_left hopening,
        countP_bodies_eq_zero (.inl (by omega)), countP_bodies_eq_zero (.inl (by omega)),
        if_neg fun h => by have := within_iff.1 h; omega]
      simp
    obtain ⟨j, rfl⟩ := Nat.exists_eq_add_of_le (Nat.le_of_not_lt hopening)
    rw [getElem?_append_add, getElem?_append_add, ← Nat.add_assoc start]
    generalize start + (lines opening).length = first
    by_cases hbody : j < body.written.length
    · -- A line of the body is in the body of this handler, and of those inside.
      have hlaidOut : j < ((body.laidOut margin).map (reline margin)).length := by
        rwa [List.length_map, length_laidOut]
      rw [List.getElem?_append_left hlaidOut, List.getElem?_append_left hbody, List.getElem?_map,
        ihbody first j, Option.map_map, countP_bodies_eq_zero (l := next) (.inl (by omega)),
        if_pos (within_iff.2 ⟨by omega, by omega⟩), Nat.add_zero, Function.iterate_succ']
    obtain ⟨i, rfl⟩ := Nat.exists_eq_add_of_le (Nat.le_of_not_lt hbody)
    have hlength : body.written.length = ((body.laidOut margin).map (reline margin)).length := by
      rw [List.length_map, length_laidOut]
    rw [getElem?_append_add, hlength, getElem?_append_add, ← hlength,
      countP_bodies_eq_zero (l := body) (.inr (by omega)),
      if_neg fun h => by have := within_iff.1 h; omega]
    cases i with
    | zero =>
      rw [countP_bodies_eq_zero (.inl (by omega))]
      simp
    | succ i =>
      rw [List.getElem?_cons_succ, List.getElem?_cons_succ,
        ihnext (first + body.written.length + 1) i]
      simp only [Nat.zero_add, Nat.add_zero]
      congr 4
      omega

section Lines

variable {margin : String} (hmargin : Inline margin.toList) {l : Listing} (h : l.Firm)

include hmargin h

theorem lines_codes : lines (String.intercalate "\n" (l.codes margin)) = l.laidOut margin := by
  rw [lines_intercalate (h.codes margin), flatMap_lines_codes hmargin h]

theorem length_lines_codes :
    (lines (String.intercalate "\n" (l.codes margin))).length = l.written.length := by
  rw [lines_codes hmargin h, length_laidOut]

/-- **Each line stands behind as many margins as there are handlers around it**, apart from lines
that were written empty. Without margins, lines are as they were written, up to carriage returns. -/
theorem getElem?_lines_codes {k : Nat} {line text : String}
    (hline : (lines (String.intercalate "\n" (l.codes "")))[k]? = some line)
    (htext : l.written[k]? = some text) :
    (lines (String.intercalate "\n" (l.codes margin)))[k]? =
        some (String.join (List.replicate (if text = "" then 0 else l.handlersAround k) margin) ++
          line) ∧
      ∃ n, text = line ++ String.join (List.replicate n "\r") := by
  rw [lines_codes (by simp [Inline]) h, getElem?_laidOut "" l 0 k, htext, Option.map_some,
    Option.some.injEq, Nat.zero_add] at hline
  rw [lines_codes hmargin h, getElem?_laidOut margin l 0 k, htext, Option.map_some, Nat.zero_add,
    iterate_reline hmargin, ← hline]
  exact ⟨rfl, exists_iterate_reline_append text _⟩

end Lines

end Listing

end SceneScript.Script
