import CodeOutline.Command.Program
import CodeOutline.Proofs.Command.Inputs
import CodeOutline.Proofs.Outline.Accounting

/-!
# What a status says

A command that could not do its work has no answer: whatever went wrong, with the arguments, the
settings or a file, nothing was written before. A check that did its work ends with status one
exactly if it met a line that cannot be read. Everything else that is remarked on a line is a
warning, and warnings leave the status alone.

Both formats of an answer to a check go through the same diagnostics in the same order: a line has
the place and the message of one, and a record also its code, its severity and who reports it.

## Main definitions

* `Diagnostic.HasRecord`: the record of a diagnostic
* `Outcome.IsProper`: a command either failed without an answer, or did its work
* `Outline.HasDroppedLine`: some line of a text cannot be read
* `Command.CheckAnswers`: what a check answers about diagnostics in a format

## Main results

* `Outline.hasErrors_ofText_iff`: what makes a diagnostic an error
* `Program.isProper_outcome`: how the program can end
* `Program.status_tells`: what the status of the program says
-/

namespace CodeOutline

/-! ### Errors among the diagnostics -/

namespace Outline

open Reading

variable {width number : Nat} {line : String} {nodes : List Node} {findings : List Finding}

/-- The findings are warnings. -/
def AreWarnings (findings : List Finding) : Prop :=
  ∀ finding ∈ findings, finding.severity = .warning

theorem areWarnings_indentationFindings (width : Nat) (line : String) :
    AreWarnings (indentationFindings width line) := by
  intro finding hfinding
  unfold indentationFindings indentationFinding at hfinding
  split at hfinding
  · simp at hfinding
  · obtain rfl : finding = _ := by simpa using hfinding
    rfl

/-- What is found about the place of a node is a warning. -/
theorem severity_of_isStructural {finding : Finding} (h : finding.isStructural = true) :
    finding.severity = .warning := by
  cases finding with
  | dropped => simp [Finding.isStructural, Finding.code] at h
  | _ => rfl

theorem areWarnings_place {place : Option Finding}
    (hplace : ∀ finding ∈ place, finding.isStructural = true) : AreWarnings place.toList :=
  fun finding hfinding => severity_of_isStructural (hplace finding (Option.mem_toList.1 hfinding))

/-- A line is found to have an error exactly if it cannot be read. -/
theorem Fate.exists_error_iff (h : Fate width number line nodes findings) :
    (∃ finding ∈ findings, finding.severity = .error) ↔ ∃ cause, Line.read line = .error cause := by
  have hindented := areWarnings_indentationFindings width line
  -- without an error among the findings, the line must be one that was read
  have hnone {said : Line} (hread : Line.read line = .ok said) (hwarnings : AreWarnings findings) :
      (∃ finding ∈ findings, finding.severity = .error) ↔
        ∃ cause, Line.read line = .error cause := by
    constructor
    · rintro ⟨finding, hfinding, herror⟩
      rw [hwarnings finding hfinding] at herror
      cases herror
    · rintro ⟨cause, hcause⟩
      rw [hread] at hcause
      cases hcause
  cases h with
  | blank hread | incomplete hread => exact hnone hread (by simp [AreWarnings])
  | @dropped cause hread =>
    exact iff_of_true ⟨.dropped cause, by simp, rfl⟩ ⟨cause, hread⟩
  | assignment hread => exact hnone hread hindented
  | added path hread hstated hplace =>
    exact hnone hread (List.forall_mem_append.2 ⟨hindented, areWarnings_place hplace⟩)
  | reopened path hread hstated hkind hplace =>
    refine hnone hread (List.forall_mem_append.2 ⟨hindented,
      List.forall_mem_append.2 ⟨areWarnings_place hplace, ?_⟩⟩)
    simp [Finding.severity]

/-- Some line of a text cannot be read. -/
def HasDroppedLine (text : String) : Prop :=
  ∃ line ∈ linesOf text, ∃ cause, Line.read line = .error cause

namespace Reading

/-- As lines are read, errors are remarked exactly on those that cannot be read. -/
theorem exists_error_after_iff (width : Nat) (lines : List String) :
    (∃ remark ∈ (after width lines).remarks, remark.finding.severity = .error) ↔
      ∃ line ∈ lines, ∃ cause, Line.read line = .error cause := by
  induction lines using List.reverseRecOn with
  | nil => simp [after, run, start]
  | append_singleton lines line ih =>
    obtain ⟨nodes, findings, hfate, -, hremarks, -⟩ := exists_fate_after width lines line
    have hlast : (∃ remark ∈ findings.map (Remark.mk (lines.length + 1)),
        remark.finding.severity = .error) ↔ ∃ cause, Line.read line = .error cause := by
      rw [← hfate.exists_error_iff]
      simp
    simp only [hremarks, List.mem_append, or_and_right, exists_or, ih, hlast, List.mem_singleton,
      exists_eq_left]

end Reading

/-- **The diagnostics of an outline have an error exactly if some line could not be read.** -/
theorem hasErrors_ofText_iff (width : Nat) (text : String) :
    (ofText width text).hasErrors = true ↔ HasDroppedLine text := by
  rw [hasErrors, diagnostics, List.any_map, List.any_eq_true, HasDroppedLine,
    ← exists_error_after_iff (max width 1)]
  simp only [Function.comp_apply, Diagnostic.isError, beq_iff_eq]
  rfl

end Outline

/-! ### Records of diagnostics -/

/-- The word for a severity. -/
inductive Severity.IsCalled : Severity → String → Prop
  | error : IsCalled .error "error"
  | warning : IsCalled .warning "warning"
  | information : IsCalled .information "information"
  | hint : IsCalled .hint "hint"

theorem Severity.isCalled_label (severity : Severity) : severity.IsCalled severity.label := by
  cases severity <;> constructor

/-- A record holds the parts of a diagnostic, each under its name. -/
inductive Diagnostic.HasRecord (diagnostic : Diagnostic) : Json → Prop
  | members {word : String} (hseverity : diagnostic.severity.IsCalled word) :
    HasRecord diagnostic (.object [
      (some "code", diagnostic.code.elim .null .string),
      (some "line", .number (.natural diagnostic.line)),
      (some "message", .string diagnostic.message),
      (some "severity", .string word),
      (some "source", .string diagnostic.source)])

theorem Diagnostic.hasRecord_report (diagnostic : Diagnostic) :
    diagnostic.HasRecord diagnostic.report := by
  rw [report, Json.ofString?_eq]
  exact .members diagnostic.severity.isCalled_label

/-! ### How a command ends -/

/-- A command failed without an answer, or did its work. -/
def Outcome.IsProper (outcome : Outcome) : Prop :=
  outcome.answer = "" ∨ outcome.status ≤ 1

namespace Command

variable {settings : Settings} {workspace : Workspace} {stamp : Stamp} {path text : String}

theorem isProper_run (settings : Settings) (workspace : Workspace) (stamp : Stamp)
    (command : Command) : (command.run settings workspace stamp).IsProper := by
  cases command with
  | check path =>
    rw [run, runCheck]
    split
    · exact .inl rfl
    · refine .inr ?_
      dsimp only
      split <;> decide
  | tree path =>
    rw [run, runTree]
    split
    · exact .inl rfl
    · exact .inr (Nat.zero_le 1)
  | diff old new =>
    rw [run, runDiff]
    split
    · exact .inl rfl
    · split
      · exact .inl rfl
      · exact .inr (Nat.zero_le 1)

/-- What a check answers about diagnostics in a format: one line for each as text, and one record
for each as JSON. -/
inductive CheckAnswers (diagnostics : List Diagnostic) (size : Nat) : OutputFormat → String → Prop
  | text : CheckAnswers diagnostics size .text
      (String.join (diagnostics.map fun d =>
        "Line " ++ toString d.line ++ ": " ++ d.message ++ "\n"))
  | json {records : List Json} (hrecords : List.Forall₂ Diagnostic.HasRecord diagnostics records) :
    CheckAnswers diagnostics size .json
      ((Json.object [(some "diagnostics", .array records),
        (some "nodes", .number (.natural size))]).indented ++ "\n")

theorem checkAnswers_checkAnswer (format : OutputFormat) (outline : Outline) :
    CheckAnswers outline.diagnostics outline.forest.size format (checkAnswer format outline) := by
  cases format with
  | text =>
    rw [checkAnswer, Outcome.lines, List.map_map]
    exact .text
  | json =>
    have hrecords : List.Forall₂ Diagnostic.HasRecord outline.diagnostics
        (outline.diagnostics.map (·.report)) := by
      rw [List.forall₂_map_right_iff, List.forall₂_same]
      exact fun diagnostic _ => diagnostic.hasRecord_report
    exact .json hrecords

/-- What a check answers about a text in a format, and its status. -/
structure Checks (settings : Settings) (text : String) (format : OutputFormat) (outcome : Outcome) :
    Prop where
  status_eq_one_iff : outcome.status = 1 ↔ Outline.HasDroppedLine text
  status_eq_zero_iff : outcome.status = 0 ↔ ¬ Outline.HasDroppedLine text
  answers : CheckAnswers (Outline.ofText settings.indentWidth text).diagnostics
    (Outline.ofText settings.indentWidth text).forest.size format outcome.answer

theorem checks_runCheck (settings : Settings) (format : OutputFormat)
    (htext : readText workspace path = .ok text) :
    Checks settings text format (runCheck { settings with format := format } workspace path) := by
  have hdropped := Outline.hasErrors_ofText_iff settings.indentWidth text
  rw [runCheck_of_readText htext]
  refine ⟨?_, ?_, checkAnswers_checkAnswer format _⟩
  · rw [← hdropped]
    simp
  · rw [← hdropped]
    simp

end Command

namespace Program

open Command

theorem isProper_outcome (workspace : Workspace) (stamp : Stamp)
    (request : Except UsageError Arguments.Request) :
    (outcome workspace stamp request).IsProper := by
  match request with
  | .error error => exact .inl rfl
  | .ok .help | .ok .version => exact .inr (Nat.zero_le 1)
  | .ok (.run invocation) =>
    rw [outcome, Invocation.run]
    split
    · exact .inl rfl
    · exact isProper_run _ workspace stamp invocation.command

section Check

variable {workspace : Workspace} {invocation : Invocation} {path : String} {settings : Settings}

theorem outcome_check (stamp : Stamp) (hcommand : invocation.command = .check path)
    (hload : Settings.load workspace invocation.source invocation.overrides = .ok settings) :
    outcome workspace stamp (.ok (.run invocation)) = runCheck settings workspace path := by
  rw [outcome, Invocation.run, hload, hcommand]
  rfl

/-- There are no settings, or no text under a path. -/
def LacksInput (workspace : Workspace) (invocation : Invocation) (path : String) : Prop :=
  (∃ error, Settings.load workspace invocation.source invocation.overrides = .error error) ∨
    ∃ error, readText workspace path = .error error

theorem status_of_lacksInput (stamp : Stamp) (hcommand : invocation.command = .check path)
    (h : LacksInput workspace invocation path) :
    (outcome workspace stamp (.ok (.run invocation))).status = 2 := by
  cases hload : Settings.load workspace invocation.source invocation.overrides with
  | error error =>
    rw [outcome, Invocation.run, hload]
    rfl
  | ok settings =>
    obtain ⟨error, herror⟩ | ⟨error, hunread⟩ := h
    · rw [hload] at herror
      cases herror
    rw [outcome_check stamp hcommand hload, runCheck, readOutline, hunread]
    exact status_of_readText_error hunread

end Check

/-- **A status of two comes without an answer, and the status of a check tells whether some line
could not be read.** In either format, the answer to a check goes through all diagnostics in order.
Without settings or an outline, a check ends with a status of two. -/
theorem status_tells (workspace : Workspace) (stamp : Stamp) (arguments : List String) :
    ((outcome workspace stamp (Arguments.read arguments)).status = 2 →
      (outcome workspace stamp (Arguments.read arguments)).answer = "") ∧
    ∀ invocation path,
      Arguments.read arguments = .ok (.run invocation) → invocation.command = .check path →
      (LacksInput workspace invocation path →
        (outcome workspace stamp (Arguments.read arguments)).status = 2) ∧
      ∀ settings text,
        Settings.load workspace invocation.source invocation.overrides = .ok settings →
        readText workspace path = .ok text →
        outcome workspace stamp (Arguments.read arguments) = runCheck settings workspace path ∧
          ∀ format, Checks settings text format
            (runCheck { settings with format := format } workspace path) := by
  refine ⟨fun hstatus => ?_, fun invocation path hread hcommand => ⟨fun hlacks => ?_,
    fun settings text hload htext => ?_⟩⟩
  · rcases isProper_outcome workspace stamp (Arguments.read arguments) with hanswer | hlow
    · exact hanswer
    · omega
  · rw [hread]
    exact status_of_lacksInput stamp hcommand hlacks
  · rw [hread]
    exact ⟨outcome_check stamp hcommand hload, fun format => checks_runCheck settings format htext⟩

/-- A function without parentheses cannot be read, and a check in a workspace without settings
says so, and warns of the next line. A check of another file cannot be done there. -/
theorem status_tells_missing_parentheses :
    let workspace : Workspace :=
      ⟨fun path =>
        if path = "a" then .ok [36, 102, 10, 32, 97, 46, 116, 115] else .error .notFound⟩
    let stamp : Stamp := ⟨fun _ => "", ""⟩
    let arguments := ["check", "-f", "json", "a"]
    let settings : Settings := { Settings.standard with format := .json }
    Arguments.read arguments = .ok (.run ⟨none, some .json, .check "a"⟩) ∧
      Settings.load workspace .usual ⟨some .json, none⟩ = .ok settings ∧
      readText workspace "a" = .ok "$f\n a.ts" ∧
      outcome workspace stamp (Arguments.read arguments) = runCheck settings workspace "a" ∧
      (∀ format, Checks settings "$f\n a.ts" format
        (runCheck { settings with format := format } workspace "a")) ∧
      (outcome workspace stamp (Arguments.read arguments)).status = 1 ∧
      (outcome workspace stamp (Arguments.read arguments)).answer =
        "\x7b\n  \"diagnostics\": [\n"
          ++ "    \x7b\n      \"code\": \"syntax-error\",\n      \"line\": 1,\n"
          ++ "      \"message\": \"Syntax error: unexpected input '$f' at column 1\",\n"
          ++ "      \"severity\": \"error\",\n      \"source\": \"codoc\"\n    \x7d,\n"
          ++ "    \x7b\n      \"code\": \"indentation\",\n      \"line\": 2,\n"
          ++ "      \"message\": \"Indentation of 1 spaces is not a multiple of 2\",\n"
          ++ "      \"severity\": \"warning\",\n      \"source\": \"codoc\"\n    \x7d\n"
          ++ "  ],\n  \"nodes\": 1\n\x7d\n" ∧
      (runCheck { settings with format := .text } workspace "a").answer =
        "Line 1: Syntax error: unexpected input '$f' at column 1\n"
          ++ "Line 2: Indentation of 1 spaces is not a multiple of 2\n" ∧
      (outcome workspace stamp (Arguments.read ["check", "b"])).status = 2 ∧
      (outcome workspace stamp (Arguments.read ["check", "b"])).answer = "" := by
  intro workspace stamp arguments settings
  have hread : Arguments.read arguments = .ok (.run ⟨none, some .json, .check "a"⟩) := by
    decide +kernel
  have hload : Settings.load workspace .usual ⟨some .json, none⟩ = .ok settings := by
    decide +kernel
  have htext : readText workspace "a" = .ok "$f\n a.ts" := by
    refine readText_of_decode? rfl ?_
    simp [Utf8.decode?, Utf8.pieces, Utf8.piecesFrom, Utf8.piecesFrom.start]
  obtain ⟨hchecked, hchecks⟩ :=
    ((status_tells workspace stamp arguments).2 _ "a" hread rfl).2 settings _ hload htext
  have hdropped : Outline.HasDroppedLine "$f\n a.ts" :=
    (Outline.hasErrors_ofText_iff 2 _).1 (by decide +kernel)
  obtain ⟨hsilent, hother⟩ := status_tells workspace stamp ["check", "b"]
  have hreadOther : Arguments.read ["check", "b"] = .ok (.run ⟨none, none, .check "b"⟩) := by
    decide +kernel
  have htwo := (hother _ "b" hreadOther rfl).1 (.inr ⟨.unreadable "b" .notFound, rfl⟩)
  -- what is left is the status of the check, and its answer in both formats
  refine ⟨hread, hload, htext, hchecked, hchecks, ?_, ?_, ?_, htwo, hsilent htwo⟩
  · rw [hchecked]
    exact (hchecks .json).status_eq_one_iff.2 hdropped
  · rw [hchecked, runCheck_of_readText htext]
    decide +kernel
  · rw [runCheck_of_readText htext]
    decide +kernel

end Program

end CodeOutline
