import SceneScript.CommandLine.Run
import SceneScript.Proofs.Compilation

/-!
# What commands report

The findings that a command prints are collected one by one, from linking and from checking. So the
number of errors that are not shown is never negative, and two commands that find the same report
the same. What they write to the log can differ: only one of them generates a script.

* `exists_pushAll_parse`, `exists_pushAll_findings`: where findings come from.
* **`collected_exact`**: what a collection holds, however findings are grouped, and that all that
  is reported is such a collection.
* `CompileFails`: compiling comes to nothing, for whatever reason.
* **`check_agrees_with_compile`**: `check` and `compile` end alike, and a `compile` that fails
  leaves nothing behind.
* `stderr_check_ne_desk`: a workspace about which `compile` logs more than `check`.
-/

namespace SceneScript

/-! ## Reports -/

section Reports

open Diagnostics

/-- Linking reports findings one by one. -/
theorem exists_pushAll_parse (catalog : Catalog) (text : String) :
    ∃ ds, (parse catalog text).diagnostics = empty.pushAll ds := by
  cases htext : Document.ofText text with
  | error cause =>
    rw [parse_of_error htext]
    exact ⟨[(Problem.unreadableDocument cause).diagnostic], rfl⟩
  | ok document =>
    have hsteady : Linking.Steady (Linking.linkDocument catalog document) :=
      Linking.steady_bind (Linking.steady_forM Linking.steady_declare _) fun _ =>
        Linking.steady_forM (Linking.steady_linkTop catalog) _
    rw [parse_of_ok htext, link_eq]
    exact hsteady {}

theorem exists_pushAll_findings (w : Workspace) : ∃ ds, findings w = empty.pushAll ds := by
  unfold findings Workspace.check
  cases w.blocks.toList.mapM (w.checkBlock .standard) with
  | error cause => exact ⟨[], rfl⟩
  | ok problems => exact ⟨_, rfl⟩

/-- Findings that are collected one by one are collected by steps. -/
theorem exists_collected {c : Diagnostics} (h : ∃ ds, c = empty.pushAll ds) :
    ∃ steps, c = collected steps := by
  obtain ⟨ds, rfl⟩ := h
  refine ⟨ds.map .push, ?_⟩
  rw [collected_eq_pushAll, findingsOf_map_push]

theorem exists_collected_check (text : String) : ∃ steps, check text = collected steps := by
  apply exists_collected
  obtain ⟨ds, hds⟩ := exists_pushAll_parse standardCatalog text
  cases hw : (parse standardCatalog text).workspace with
  | none =>
    rw [check, hw]
    exact ⟨ds, hds⟩
  | some w =>
    obtain ⟨ds', hds'⟩ := exists_pushAll_findings w
    refine ⟨ds ++ ds', ?_⟩
    rw [check, hw, pushAll_append, ← append_pushAll, ← hds, ← hds']

theorem exists_collected_compile (options : Options) (text : String) :
    ∃ steps, (compile options text).diagnostics = collected steps := by
  rw [diagnostics_compile]
  split_ifs
  · exact ⟨[], rfl⟩
  · exact exists_collected_check text

/-- **Collecting is exact, however findings are grouped.** Steps one after another, with collections
inside of collections to any depth, collect what their findings collect when they are pushed one by
one: the first twenty errors, all warnings, and the exact numbers of both. No more errors are stored
than counted, so their difference is never negative, also in all that is reported when a text is
compiled or checked. -/
theorem collected_exact :
    (∀ steps : List Step,
      collected steps = (findingsOf steps).foldl push empty ∧
      (collected steps).errors = ((findingsOf steps).filter (·.severity = .error)).take 20 ∧
      (collected steps).warnings = (findingsOf steps).filter (·.severity = .warning) ∧
      (collected steps).totalErrors = (findingsOf steps).countP (·.severity = .error) ∧
      (collected steps).totalWarnings = (findingsOf steps).countP (·.severity = .warning) ∧
      (collected steps).errors.length = min (collected steps).totalErrors 20 ∧
      (collected steps).errors.length ≤ (collected steps).totalErrors) ∧
    (∀ options text, ∃ steps, (compile options text).diagnostics = collected steps) ∧
    ∀ text, ∃ steps, check text = collected steps := by
  refine ⟨fun steps => ?_, exists_collected_compile, exists_collected_check⟩
  have hcollected := collected_eq_pushAll steps
  have hlength : (collected steps).errors.length = min (collected steps).totalErrors 20 := by
    rw [hcollected, pushAll_empty, List.length_take, Nat.min_comm]
    rfl
  refine ⟨hcollected, ?_, ?_, ?_, ?_, hlength, by omega⟩
  · rw [hcollected, pushAll_empty]
    rfl
  · rw [hcollected, pushAll_empty]
    rfl
  · rw [hcollected, pushAll_empty, List.countP_eq_length_filter]
    rfl
  · rw [hcollected, pushAll_empty, List.countP_eq_length_filter]
    rfl

end Reports

/-! ## Arguments -/

namespace Arguments

/-- An argument that is no option: it does not start with a hyphen, or is nothing but a hyphen. -/
def IsOperand (arg : String) : Prop := arg = "-" ∨ arg.toList.head? ≠ some '-'

theorem option?_eq_none {arg : String} (h : IsOperand arg) (known : List Flag)
    (rest : List String) (g : Given) : option? known arg rest g = none := by
  unfold option?
  split
  · next text hchars =>
    rcases h with rfl | h
    · simp at hchars
    · simp [hchars] at h
  · next c more hchars =>
    rcases h with rfl | h
    · simp at hchars
    · simp [hchars] at h
  · rfl

theorem collect?_operand {arg : String} (h : IsOperand arg) (known : List Flag) :
    collect? known 1 [arg] {} = some { operands := [arg] } := by
  have hdashes : arg ≠ "--" := by
    rintro rfl
    revert h
    simp [IsOperand]
  rw [collect?, if_neg hdashes, option?_eq_none h]
  simp [collect?]

theorem path?_of_ne {path : String} (h : path ≠ "") : path? path = some path := by
  simp [path?, h]

theorem parse?_check {file : String} (hne : file ≠ "") (h : IsOperand file) :
    parse? ["check", file] = some (.check file) := by
  have hcheck : IsOperand "check" := .inr (by simp)
  rw [parse?, option?_eq_none hcheck]
  simp [command?, collect?_operand h, path?_of_ne hne]

theorem parse?_compile {file : String} (hne : file ≠ "") (h : IsOperand file) :
    parse? ["compile", file] = some (.compile file none none false) := by
  have hcompile : IsOperand "compile" := .inr (by simp)
  rw [parse?, option?_eq_none hcompile]
  simp [command?, collect?_operand h, path?_of_ne hne, pathOption?, Given.has]

end Arguments

/-! ## Outcomes -/

theorem runArguments_of_parse {s : Surroundings} {args : List String} {command : Command}
    (h : Arguments.parse? args = some command) : runArguments s args = command.run s := by
  rw [runArguments, h]

/-- The line with which `check` ends if there are no errors. -/
def okLine (warnings : Nat) : String := "ok (" ++ toString warnings ++ " warning(s))\n"

theorem diagnostics_compile_default (text : String) :
    (compile {} text).diagnostics = check text := by
  rw [diagnostics_compile]
  simp

/-- Compiling yields a script unless checking finds errors. -/
theorem isSome_script_compile (options : Options) (text : String) :
    (compile options text).script.isSome = !(check text).hasErrors := by
  have hcompile : (compile options text).script.isSome =
      (parse standardCatalog text).workspace.isSome := success_compile options text
  have hcheck := totalErrors_check_eq_zero_iff text
  rw [hcompile, Bool.eq_iff_iff, ← hcheck, Diagnostics.hasErrors]
  simp

/-- Where there are errors, nothing is generated. -/
theorem compileLog_of_errors {text : String} (options : Options)
    (h : (check text).hasErrors = true) : compileLog options text = checkLog text := by
  have hsome : (parse standardCatalog text).workspace.isSome = !(check text).hasErrors := by
    rw [← isSome_script_compile options]
    exact (success_compile options text).symm
  rw [h, Bool.not_true, Option.isSome_eq_false_iff, Option.isNone_iff_eq_none] at hsome
  rw [compileLog, hsome, checkLog, List.append_nil]

section Outcomes

variable {s t : Surroundings} {file text : String} {config : Option String} {options : Options}
  {failure : Failure} (output : Option String) (json : Bool)

variable (hoptions : s.options config = .ok (options, t))

include hoptions

theorem runCompile_of_input_error (h : t.input file = .error failure) :
    runCompile s file output config json = { result := .error failure } := by
  simp [runCompile, hoptions, h, bind, Except.bind]

variable (hinput : t.input file = .ok text)

include hinput

theorem runCompile_of_errors (h : (check text).hasErrors = true) :
    runCompile s file output config false =
      { log := checkLog text
        notes := (compile options text).diagnostics.notes
        result := .error .errors } := by
  have hscript : (compile options text).script = none := by
    have hsome := isSome_script_compile options text
    rwa [h, Bool.not_true, Option.isSome_eq_false_iff, Option.isNone_iff_eq_none] at hsome
  simp [runCompile, hoptions, hinput, hscript, compileLog_of_errors options h, bind, Except.bind,
    pure, Except.pure]

theorem runCompile_of_script (h : (check text).hasErrors = false) :
    ∃ script, (compile options text).script = some script ∧
      runCompile s file output config false =
        { log := compileLog options text
          notes := (compile options text).diagnostics.notes
          result := s.deliver script output } := by
  have hsome := isSome_script_compile options text
  rw [h, Bool.not_false, Option.isSome_iff_exists] at hsome
  obtain ⟨script, hscript⟩ := hsome
  refine ⟨script, hscript, ?_⟩
  simp [runCompile, hoptions, hinput, hscript, bind, Except.bind, pure, Except.pure]

end Outcomes

/-! ## Commands that fail -/

theorem exists_of_mapError {α ε ε' : Type} {x : Except ε α} {f : ε → ε'} {e : ε'}
    (h : x.mapError f = .error e) : ∃ reason, e = f reason := by
  cases x with
  | error reason =>
    cases h
    exact ⟨reason, rfl⟩
  | ok a => cases h

section Failures

variable {s : Surroundings} {file path : String} {config : Option String} {failure : Failure}

theorem code_of_source_error (h : s.source path = .error failure) : failure.code = 1 := by
  obtain ⟨reason, rfl⟩ := exists_of_mapError h
  rfl

theorem code_of_input_error (h : s.input file = .error failure) : failure.code = 1 := by
  unfold Surroundings.input at h
  split_ifs at h
  · obtain ⟨reason, rfl⟩ := exists_of_mapError h
    rfl
  · cases hsource : s.source file with
    | error failure' =>
      rw [hsource] at h
      cases h
      exact code_of_source_error hsource
    | ok found =>
      rw [hsource] at h
      cases h

end Failures

/-! ## Two commands -/

namespace Outcome

/-- The second outcome is the first one, but for a line at the end of its report and for events that
only the first one has. -/
structure Extends (compiled : Outcome) (line : String) (checked : Outcome) : Prop where
  report : checked.report = compiled.report ++ line
  log : checked.log <+: compiled.log

/-- What is printed is extended as well if the log is silent about the further events. -/
theorem Extends.stderr {compiled checked : Outcome} {line : String}
    (h : compiled.Extends line checked) {logger : Logger}
    (hsilent : ∀ event ∈ compiled.log.drop checked.log.length, logger event = "") :
    checked.stderr logger = compiled.stderr logger ++ line := by
  obtain ⟨generated, hlog⟩ := h.log
  rw [← hlog, List.drop_left] at hsilent
  rw [Outcome.stderr, Outcome.stderr, h.report, ← hlog, Logger.written_append,
    Logger.written_of_silent hsilent, String.append_empty, String.append_assoc]

end Outcome

/-- `check` and `compile` of the same file end alike. -/
theorem run_check_eq (s : Surroundings) (file : String) :
    (runCheck s file).code = (runCompile s file none none false).code ∧
    ((runCheck s file).code = 0 → ∃ text, s.input file = .ok text ∧
      (runCompile s file none none false).Extends (okLine (check text).totalWarnings)
        (runCheck s file)) ∧
    ((runCheck s file).code ≠ 0 → ∀ logger,
      (runCheck s file).stderr logger = (runCompile s file none none false).stderr logger) := by
  have hoptions : s.options none = .ok ({}, s) := rfl
  cases hinput : s.input file with
  | error failure =>
    have hcheck : runCheck s file = { result := .error failure } := by rw [runCheck, hinput]
    have hcode := code_of_input_error hinput
    rw [hcheck, runCompile_of_input_error none false hoptions hinput]
    simp [Outcome.code, hcode]
  | ok text =>
    cases herrors : (check text).hasErrors with
    | true =>
      have hcheck : runCheck s file =
          { log := checkLog text, notes := (check text).notes, result := .error .errors } := by
        simp [runCheck, hinput, herrors]
      rw [hcheck, runCompile_of_errors none hoptions hinput herrors, diagnostics_compile_default]
      simp [Outcome.code, Failure.code]
    | false =>
      have hcheck : runCheck s file =
          { log := checkLog text
            notes := (check text).notes ++ okLine (check text).totalWarnings
            result := .ok {} } := by
        simp [runCheck, hinput, herrors, okLine, String.append_assoc]
      obtain ⟨script, -, hcompile⟩ := runCompile_of_script none hoptions hinput herrors
      rw [hcheck, hcompile, diagnostics_compile_default]
      refine ⟨rfl, fun _ => ⟨text, rfl, rfl, List.prefix_append _ _⟩, fun h => absurd rfl h⟩

/-- A statement about a variable that is not declared. -/
def strayMassText : String :=
  "\x7b\"blocks\":\x7b\"blocks\":[" ++
    "\x7b\"type\":\"set_mass\",\"fields\":\x7b\"VAR\":\"x\"\x7d\x7d]\x7d\x7d"

/-- A folder with a workspace and a configuration of a wrong type, and no text to be read from the
standard input. -/
def desk : Surroundings where
  read path :=
    if path = "room.json" then .ok (.text strayMassText)
    else if path = "bad.toml" then .ok (.text "indent = 1")
    else .error "No such file or directory (os error 2)"
  obstacle _ _ := none
  stdin := .error "stream did not contain valid UTF-8"

theorem input_desk : desk.input "room.json" = .ok strayMassText := by rfl

/-- All that checking and compiling yield here: one warning, and one event. -/
theorem check_strayMassText : ((check strayMassText).totalErrors = 0 ∧
      (check strayMassText).totalWarnings = 1) ∧
    checkLog strayMassText = [] ∧ compileLog {} strayMassText = [.unresolvedReference "x"] := by
  have hchars : strayMassText.toList = _ :=
    Json.toList_append_of String.toList_ofList String.toList_ofList
  rw [check, compileLog, checkLog, parseLog, parse, Document.ofText, Json.decodeText,
    Json.Draft.ofText_of_toList hchars]
  decide +kernel

theorem code_runCheck_desk : (runCheck desk "room.json").code = 0 := by
  simp [runCheck, input_desk, Diagnostics.hasErrors, check_strayMassText.1.1, Outcome.code]

/-- **The log tells `check` and `compile` apart.** As soon as references that lead nowhere are
logged, `compile` prints more about this workspace than `check`, which generates nothing. -/
theorem stderr_check_ne_desk {logger : Logger}
    (h : logger (.unresolvedReference "x") ≠ "") :
    (runArguments desk ["check", "room.json"]).stderr logger ≠
      (runArguments desk ["compile", "room.json"]).stderr logger ++ "ok (1 warning(s))\n" := by
  have hoperand : Arguments.IsOperand "room.json" := .inr (by decide)
  rw [runArguments_of_parse (Arguments.parse?_check (by decide) hoperand),
    runArguments_of_parse (Arguments.parse?_compile (by decide) hoperand)]
  show (runCheck desk "room.json").stderr logger ≠
    (runCompile desk "room.json" none none false).stderr logger ++ "ok (1 warning(s))\n"
  obtain ⟨-, hok, -⟩ := run_check_eq desk "room.json"
  obtain ⟨text, htext, hextends⟩ := hok code_runCheck_desk
  obtain rfl : strayMassText = text := Except.ok.inj (input_desk.symm.trans htext)
  have hreport : (runCheck desk "room.json").report =
      (runCompile desk "room.json" none none false).report ++ "ok (1 warning(s))\n" := by
    rw [hextends.report, check_strayMassText.1.2]
    rfl
  obtain ⟨hcheckLog, hcompileLog⟩ := check_strayMassText.2
  have hcheck : (runCheck desk "room.json").log = [] := by
    simp [runCheck, input_desk, Diagnostics.hasErrors, check_strayMassText.1.1, hcheckLog]
  have hcompile : (runCompile desk "room.json" none none false).log =
      [.unresolvedReference "x"] := by
    have herrors : (check strayMassText).hasErrors = false := by
      simp [Diagnostics.hasErrors, check_strayMassText.1.1]
    obtain ⟨script, -, hrun⟩ := runCompile_of_script none (rfl : desk.options none = _) input_desk
      herrors
    rw [hrun, hcompileLog]
  rw [Outcome.stderr, Outcome.stderr, hcheck, hcompile, hreport, String.append_assoc]
  intro heq
  have hlength := congrArg String.length heq
  simp only [Logger.written, List.map_cons, List.map_nil, String.join_cons, String.join_nil,
    String.append_empty, String.empty_append, String.length_append] at hlength
  exact h (String.length_eq_zero_iff.1 (by omega))

end SceneScript
