import Mathlib.Data.List.Basic
import SceneScript.Diagnostic

/-!
# Collections of findings

A collection stores only the first errors, and a collection that is added to another one has lost
its other errors already. Nothing is lost by that: what a collection holds depends only on the
findings, one after another, that were put into it, by themselves or inside of other collections.

* `Diagnostics.pushAll_eq`: what a collection holds after some findings are added.
* **`Diagnostics.append_pushAll`**: adding a collection is adding its findings.
* `Diagnostics.Step`, `Diagnostics.collected`: collecting, with collections inside of others.
* `Diagnostics.collected_eq_pushAll`: collecting forgets how findings are grouped.
-/

namespace SceneScript.Diagnostics

/-- The errors among findings. -/
def errorsOf (ds : List Diagnostic) : List Diagnostic := ds.filter (·.severity = .error)

/-- The warnings among findings. -/
def warningsOf (ds : List Diagnostic) : List Diagnostic := ds.filter (·.severity = .warning)

section Parts

variable (ds ds' : List Diagnostic)

@[simp] theorem errorsOf_append : errorsOf (ds ++ ds') = errorsOf ds ++ errorsOf ds' :=
  List.filter_append ..

@[simp] theorem warningsOf_append : warningsOf (ds ++ ds') = warningsOf ds ++ warningsOf ds' :=
  List.filter_append ..

@[simp] theorem errorsOf_take_errorsOf (n : Nat) :
    errorsOf ((errorsOf ds).take n) = (errorsOf ds).take n := by
  refine List.filter_eq_self.2 fun d hd => ?_
  exact (List.mem_filter.1 (List.mem_of_mem_take hd)).2

@[simp] theorem warningsOf_take_errorsOf (n : Nat) : warningsOf ((errorsOf ds).take n) = [] := by
  refine List.filter_eq_nil_iff.2 fun d hd => ?_
  have herror := (List.mem_filter.1 (List.mem_of_mem_take hd)).2
  simp_all

@[simp] theorem errorsOf_warningsOf : errorsOf (warningsOf ds) = [] := by
  refine List.filter_eq_nil_iff.2 fun d hd => ?_
  have hwarning := (List.mem_filter.1 hd).2
  simp_all

@[simp] theorem warningsOf_warningsOf : warningsOf (warningsOf ds) = warningsOf ds :=
  List.filter_eq_self.2 fun _ hd => (List.mem_filter.1 hd).2

end Parts

variable (c : Diagnostics)

theorem pushAll_append (ds ds' : List Diagnostic) :
    c.pushAll (ds ++ ds') = (c.pushAll ds).pushAll ds' :=
  List.foldl_append

/-- What a collection holds after some findings are added: errors as long as there is room for
them, all warnings, and the exact numbers of both. -/
theorem pushAll_eq (ds : List Diagnostic) : c.pushAll ds = {
    errors := c.errors ++ (errorsOf ds).take (maxErrors - c.errors.length)
    warnings := c.warnings ++ warningsOf ds
    totalErrors := c.totalErrors + (errorsOf ds).length
    totalWarnings := c.totalWarnings + (warningsOf ds).length } := by
  induction ds generalizing c with
  | nil => simp [pushAll, errorsOf, warningsOf]
  | cons d ds ih =>
    have hcons : c.pushAll (d :: ds) = (c.push d).pushAll ds := rfl
    rw [hcons, ih]
    cases hseverity : d.severity with
    | error =>
      have herrors : errorsOf (d :: ds) = d :: errorsOf ds := by simp [errorsOf, hseverity]
      have hwarnings : warningsOf (d :: ds) = warningsOf ds := by simp [warningsOf, hseverity]
      rw [herrors, hwarnings]
      by_cases hroom : c.errors.length < maxErrors
      · obtain ⟨room, hroom'⟩ := Nat.exists_eq_add_of_lt hroom
        have hsub : maxErrors - c.errors.length = room + 1 := by omega
        have hsub' : maxErrors - (c.errors.length + 1) = room := by omega
        simp [push, hseverity, hroom, hsub, hsub']
        omega
      · have hsub : maxErrors - c.errors.length = 0 := by omega
        simp [push, hseverity, hroom, hsub]
        omega
    | warning =>
      have herrors : errorsOf (d :: ds) = errorsOf ds := by simp [errorsOf, hseverity]
      have hwarnings : warningsOf (d :: ds) = d :: warningsOf ds := by
        simp [warningsOf, hseverity]
      rw [herrors, hwarnings]
      simp [push, hseverity]
      omega

theorem pushAll_empty (ds : List Diagnostic) : empty.pushAll ds = {
    errors := (errorsOf ds).take maxErrors
    warnings := warningsOf ds
    totalErrors := (errorsOf ds).length
    totalWarnings := (warningsOf ds).length } := by
  rw [pushAll_eq]
  simp [empty]

/-- **Adding a collection is adding its findings**, those that it only counts included. -/
theorem append_pushAll (ds : List Diagnostic) : c ++ empty.pushAll ds = c.pushAll ds := by
  show c.append (empty.pushAll ds) = c.pushAll ds
  have hcut : ((errorsOf ds).take maxErrors).take (maxErrors - c.errors.length) =
      (errorsOf ds).take (maxErrors - c.errors.length) := by
    rw [List.take_take, Nat.min_eq_left (Nat.sub_le _ _)]
  have hcount : ((errorsOf ds).take maxErrors).length ≤ (errorsOf ds).length :=
    List.length_take_le' ..
  rw [append, pushAll_empty, pushAll_eq, pushAll_eq]
  simp only [stored, dropped, errorsOf_append, warningsOf_append, errorsOf_take_errorsOf,
    warningsOf_take_errorsOf, errorsOf_warningsOf, warningsOf_warningsOf, List.append_nil,
    List.nil_append, hcut]
  congr 1
  omega

/-! ## Collections inside of collections -/

/-- A step of collecting: a finding, or all that has been collected by other steps. -/
inductive Step where
  | push (d : Diagnostic)
  | extend (steps : List Step)

mutual

/-- The findings of a step, from left to right. -/
def Step.findings : Step → List Diagnostic
  | .push d => [d]
  | .extend steps => findingsOf steps

/-- The findings of steps one after another. -/
def findingsOf : List Step → List Diagnostic
  | [] => []
  | step :: rest => step.findings ++ findingsOf rest

end

mutual

/-- Carries out a step. -/
def Step.carryOut (c : Diagnostics) : Step → Diagnostics
  | .push d => c.push d
  | .extend steps => c ++ carryOutAll empty steps

/-- Carries out steps one after another. -/
def carryOutAll (c : Diagnostics) : List Step → Diagnostics
  | [] => c
  | step :: rest => carryOutAll (step.carryOut c) rest

end

/-- What is collected by steps one after another. -/
def collected (steps : List Step) : Diagnostics := carryOutAll empty steps

mutual

/-- A step adds its findings. -/
theorem Step.carryOut_eq : ∀ (c : Diagnostics) (step : Step),
    step.carryOut c = c.pushAll step.findings
  | c, .push d => by
    rw [Step.carryOut, Step.findings]
    rfl
  | c, .extend steps => by
    rw [Step.carryOut, Step.findings, carryOutAll_eq, append_pushAll]

theorem carryOutAll_eq : ∀ (c : Diagnostics) (steps : List Step),
    carryOutAll c steps = c.pushAll (findingsOf steps)
  | c, [] => by
    rw [carryOutAll, findingsOf]
    rfl
  | c, step :: rest => by
    rw [carryOutAll, findingsOf, carryOutAll_eq, Step.carryOut_eq, pushAll_append]

end

theorem collected_eq_pushAll (steps : List Step) :
    collected steps = empty.pushAll (findingsOf steps) :=
  carryOutAll_eq empty steps

theorem findingsOf_map_push : ∀ ds : List Diagnostic, findingsOf (ds.map .push) = ds
  | [] => by rw [List.map_nil, findingsOf]
  | d :: ds => by
    rw [List.map_cons, findingsOf, Step.findings, findingsOf_map_push ds, List.singleton_append]

end SceneScript.Diagnostics
