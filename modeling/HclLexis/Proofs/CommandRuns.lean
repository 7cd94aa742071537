import HclLexis.CommandLine
import HclLexis.Proofs.ErrorReports
import HclLexis.Proofs.ListingLines

/-! Runs of the command line. A command that is known is applied to each file for itself, so that
runs on lists of files add up. One that is not known is noticed at the first file that can be read,
and with no such file it is not noticed at all. -/

namespace HclLexis

namespace LexError

theorem feed_notMem_description (mode : ModeKind) : '\n' ∉ mode.description.toList := by
  cases mode <;> decide

theorem feed_notMem_kindMessage (kind : LexErrorKind) : '\n' ∉ kind.message.toList := by
  cases kind with
  | unrecognizedCharacter c =>
    unfold LexErrorKind.message
    simp only [String.toList_append, String.toList_ofList, List.mem_append, not_or]
    exact ⟨by decide, by simp [Text.quotedChar, Text.feed_notMem_escape]⟩
  | unterminated mode =>
    unfold LexErrorKind.message
    simp only [String.toList_append, List.mem_append, not_or]
    exact ⟨⟨by decide, feed_notMem_description mode⟩, by decide⟩
  | _ => decide

theorem feed_notMem_message (error : LexError) : '\n' ∉ error.message.toList := by
  unfold message
  simp only [String.toList_append, List.mem_append, not_or, and_assoc]
  exact ⟨feed_notMem_kindMessage error.kind, by decide, (Text.isPlain_toString _).2, by decide,
    (Text.isPlain_toString _).2⟩

end LexError

namespace CommandLine

def Command.name : Command → String
  | tokens => "tokens"
  | check => "check"

theorem Command.ofName?_name (command : Command) : ofName? command.name = some command := by
  cases command <;> rfl

theorem Command.eq_name_of_ofName? {command : Command} {name : String}
    (known : ofName? name = some command) : name = command.name := by
  rw [ofName?] at known
  split at known
  · cases known
    assumption
  · rw [Option.ite_none_right_eq_some] at known
    cases known.2
    exact known.1

def Command.reportAt (command : Command) (files : Files) (path : String) : Report :=
  match files path with
  | .error error => unreadable path error
  | .ok t => command.report path t

def Outcome.ofReports (reports : List Report) : Outcome where
  stdout := String.join (reports.map Report.stdout)
  stderr := String.join (reports.map Report.stderr)
  exitCode := if reports.any Report.failed then 1 else 0

theorem Report.before_ofReports (report : Report) (reports : List Report) :
    report.before (.ofReports reports) = .ofReports (report :: reports) := by
  rw [before, Outcome.ofReports, Outcome.ofReports, List.map_cons, List.map_cons, String.join_cons,
    String.join_cons, List.any_cons]
  by_cases first : report.failed <;> by_cases others : reports.any failed <;> simp [first, others]

theorem Outcome.exitCode_ofReports_eq_one {reports : List Report} :
    (ofReports reports).exitCode = 1 ↔ reports.any Report.failed := by
  rw [ofReports]
  cases reports.any Report.failed <;> simp

variable {files : Files} {name path : String} {paths : List String} {t : Text}

theorem runFiles_eq_ofReports (files : Files) (command : Command) (paths : List String) :
    runFiles files command.name paths = .ofReports (paths.map (command.reportAt files)) := by
  induction paths with
  | nil => rfl
  | cons path paths ih =>
    rw [List.map_cons, ← Report.before_ofReports, ← ih, runFiles, Command.reportAt]
    cases files path with
    | error => rfl
    | ok => rw [Command.ofName?_name]

theorem run_of_files (name : String) (noHelp : name ≠ "-h" ∧ name ≠ "--help")
    (nonempty : paths ≠ []) : run files (name :: paths) = runFiles files name paths := by
  have isEmpty : paths.isEmpty = false := by simpa using nonempty
  simp [run, noHelp, isEmpty]

theorem Command.run_eq_ofReports (command : Command) (files : Files) (nonempty : paths ≠ []) :
    run files (command.name :: paths) = .ofReports (paths.map (command.reportAt files)) := by
  have noHelp : command.name ≠ "-h" ∧ command.name ≠ "--help" := by cases command <;> decide
  rw [run_of_files command.name noHelp nonempty, runFiles_eq_ofReports]

theorem Outcome.ofReports_append (first second : List Report) :
    ofReports (first ++ second) = {
      stdout := (ofReports first).stdout ++ (ofReports second).stdout
      stderr := (ofReports first).stderr ++ (ofReports second).stderr
      exitCode :=
        if (ofReports first).exitCode = 1 ∨ (ofReports second).exitCode = 1 then 1 else 0 } := by
  simp only [exitCode_ofReports_eq_one]
  simp only [ofReports, List.map_append, String.join_append, List.any_append, Bool.or_eq_true]

theorem run_check (readable : files path = .ok t) : run files ["check", path] =
    match tokensOrError t with
    | .ok _ => {
      stderr := lines [path ++ ": ok (" ++ toString (tokenize t).length ++ " token(s))"] }
    | .error _ => {
      stderr := lines ((LexError.ofTokens (tokenize t)).map fun error =>
        path ++ ": " ++ error.message)
      exitCode := 1 } := by
  have checked := Command.check.run_eq_ofReports files (List.cons_ne_nil path [])
  rw [Command.name, List.map_singleton, Command.reportAt, readable] at checked
  rw [checked, tokensOrError_eq]
  cases errors : LexError.ofTokens (tokenize t) with
  | nil => simp [Outcome.ofReports, Command.report, errors]
  | cons => simp [Outcome.ofReports, Command.report, errors]

/-- Files are treated apart from one another. A run on two lists of files writes what the runs on
each of them write, and fails if one of these does. A check of a file succeeds just if its text has
tokens without errors, and tells their number; otherwise it tells each error on a line. -/
theorem run_filesApart (files : Files) :
    (∀ (command : Command) (first second : List String), first ≠ [] → second ≠ [] →
      (run files (command.name :: (first ++ second))).stdout =
        (run files (command.name :: first)).stdout ++
          (run files (command.name :: second)).stdout ∧
      (run files (command.name :: (first ++ second))).stderr =
        (run files (command.name :: first)).stderr ++
          (run files (command.name :: second)).stderr ∧
      (run files (command.name :: (first ++ second))).exitCode =
        if (run files (command.name :: first)).exitCode = 1 ∨
          (run files (command.name :: second)).exitCode = 1 then 1 else 0) ∧
    ∀ path t, files path = .ok t →
      ((run files ["check", path]).exitCode = 0 ↔ ∃ tokens, tokensOrError t = .ok tokens) ∧
      (∀ tokens, tokensOrError t = .ok tokens → run files ["check", path] = {
        stderr := lines [path ++ ": ok (" ++ toString (tokenize t).length ++ " token(s))"] }) ∧
      (∀ error, tokensOrError t = .error error → run files ["check", path] = {
        stderr := lines ((LexError.ofTokens (tokenize t)).map fun error =>
          path ++ ": " ++ error.message)
        exitCode := 1 }) ∧
      ∀ error ∈ LexError.ofTokens (tokenize t), '\n' ∉ error.message.toList := by
  refine ⟨fun command first second nonempty nonempty' => ?_, fun path t readable => ?_⟩
  · have both : first ++ second ≠ [] := List.append_ne_nil_of_left_ne_nil nonempty second
    rw [command.run_eq_ofReports files both, command.run_eq_ofReports files nonempty,
      command.run_eq_ofReports files nonempty', List.map_append, Outcome.ofReports_append]
    exact ⟨rfl, rfl, rfl⟩
  · have checked := run_check readable
    refine ⟨?_, fun tokens ok => ?_, fun error failed => ?_,
      fun error _ => error.feed_notMem_message⟩
    · rw [checked]
      cases tokensOrError t <;> simp
    · rw [checked, ok]
    · rw [checked, failed]

def mixedFiles : Files := fun path =>
  if path = "main.tf" then .ok ['a']
  else if path = "broken.tf" then .ok ['"']
  else .error .notFound

theorem run_filesApart_mixedFiles :
    ["broken.tf", "missing.tf"] ≠ [] ∧ ["main.tf"] ≠ [] ∧ mixedFiles "main.tf" = .ok ['a'] ∧
    run mixedFiles ["check", "broken.tf", "missing.tf", "main.tf"] = {
      stderr := "broken.tf: unterminated string starting here at line 1, column 1\n" ++
        "missing.tf: No such file or directory (os error 2)\n" ++
        "main.tf: ok (2 token(s))\n"
      exitCode := 1 } ∧
    (run mixedFiles ["check", "main.tf"]).exitCode = 0 := by
  obtain ⟨apart, alone⟩ := run_filesApart mixedFiles
  obtain ⟨stdout, stderr, exitCode⟩ :=
    apart .check ["broken.tf", "missing.tf"] ["main.tf"] (by decide) (by decide)
  have succeeds : (run mixedFiles ["check", "main.tf"]).exitCode = 0 :=
    (alone "main.tf" ['a'] rfl).1.mpr ⟨tokenize ['a'], rfl⟩
  refine ⟨by decide, by decide, rfl, ?_, succeeds⟩
  rw [Outcome.mk.injEq]
  exact ⟨stdout.trans (by decide), stderr.trans (by decide), exitCode.trans (by decide)⟩

/-- What is wrong with a command line, whatever files there are. -/
inductive IsMisuse : List String → Prop
  | noCommand : IsMisuse []
  | help {name : String} (asks : name = "-h" ∨ name = "--help") (paths : List String) :
      IsMisuse (name :: paths)
  | noFiles (name : String) : IsMisuse [name]
  | unknown {name : String} (unknown : Command.ofName? name = none) (paths : List String) :
      IsMisuse (name :: paths)

/-- The command is not known, but no file can be read that it would be applied to. -/
def Unnoticed (files : Files) : List String → Prop
  | [] => False
  | name :: paths => name ≠ "-h" ∧ name ≠ "--help" ∧ paths ≠ [] ∧ Command.ofName? name = none ∧
      ∀ path ∈ paths, ∃ error, files path = .error error

theorem exitCode_runFiles_of_read (unknown : Command.ofName? name = none) (member : path ∈ paths)
    (readable : files path = .ok t) : (runFiles files name paths).exitCode = 2 := by
  induction paths with
  | nil => cases member
  | cons first paths ih =>
    rw [runFiles]
    cases read : files first with
    | ok => simp [unknown, unknownCommand]
    | error =>
      rcases List.mem_cons.mp member with rfl | later
      · rw [read] at readable
        cases readable
      · simp [Report.before, ih later]

theorem exitCode_runFiles_of_unread (name : String) (nonempty : paths ≠ [])
    (unread : ∀ path ∈ paths, ∃ error, files path = .error error) :
    (runFiles files name paths).exitCode = 1 := by
  induction paths with
  | nil => exact absurd rfl nonempty
  | cons first paths ih =>
    obtain ⟨⟨error, read⟩, others⟩ := List.forall_mem_cons.mp unread
    rw [runFiles, read]
    by_cases last : paths = []
    · rw [last]
      rfl
    · simp [Report.before, ih last others]

theorem exitCode_runFiles_ne_two (files : Files) (command : Command) (paths : List String) :
    (runFiles files command.name paths).exitCode ≠ 2 := by
  rw [runFiles_eq_ofReports, Outcome.ofReports]
  dsimp only
  split <;> decide

theorem run_help (asks : name = "-h" ∨ name = "--help") : run files (name :: paths) = usage := by
  rcases asks with rfl | rfl <;> rfl

theorem exitCode_run_noFiles (files : Files) (name : String) : (run files [name]).exitCode = 2 := by
  rw [run]
  split <;> rfl

variable {args : List String}

theorem exitCode_of_unnoticed (unnoticed : Unnoticed files args) : (run files args).exitCode = 1 := by
  cases args with
  | nil => cases unnoticed
  | cons name paths =>
    obtain ⟨noH, noHelp, nonempty, -, unread⟩ := unnoticed
    rw [run_of_files name ⟨noH, noHelp⟩ nonempty]
    exact exitCode_runFiles_of_unread name nonempty unread

theorem exitCode_of_noticed (isMisuse : IsMisuse args) (noticed : ¬ Unnoticed files args) :
    (run files args).exitCode = 2 := by
  cases isMisuse with
  | noCommand => rfl
  | help asks => rw [run_help asks, usage]
  | noFiles name => exact exitCode_run_noFiles files name
  | @unknown name unknown paths =>
    by_cases help : name = "-h" ∨ name = "--help"
    · rw [run_help help, usage]
    by_cases empty : paths = []
    · rw [empty]
      exact exitCode_run_noFiles files name
    rw [not_or] at help
    by_cases read : ∃ path ∈ paths, ∃ t, files path = .ok t
    · obtain ⟨path, member, t, readable⟩ := read
      rw [run_of_files name help empty]
      exact exitCode_runFiles_of_read unknown member readable
    · refine absurd ⟨help.1, help.2, empty, unknown, fun path member => ?_⟩ noticed
      cases content : files path with
      | error error => exact ⟨error, rfl⟩
      | ok t => exact absurd ⟨path, member, t, content⟩ read

theorem exitCode_of_not_isMisuse (proper : ¬ IsMisuse args) : (run files args).exitCode ≠ 2 := by
  cases args with
  | nil => exact absurd .noCommand proper
  | cons name paths =>
    have noHelp : name ≠ "-h" ∧ name ≠ "--help" :=
      not_or.mp fun asks => proper (.help asks paths)
    have nonempty : paths ≠ [] := fun empty => proper (empty ▸ .noFiles name)
    rw [run_of_files name noHelp nonempty]
    cases known : Command.ofName? name with
    | none => exact absurd (.unknown known paths) proper
    | some command =>
      rw [Command.eq_name_of_ofName? known]
      exact exitCode_runFiles_ne_two files command paths

/-- The exit code is 2 just if the command line is at fault and the fault is noticed. It is not if
the command is unknown and no file can be read; the exit code is 1 then, as with files that fail. -/
theorem exitCode_run_eq_two_iff (files : Files) (args : List String) :
    ((run files args).exitCode = 2 ↔ IsMisuse args ∧ ¬ Unnoticed files args) ∧
      (Unnoticed files args → (run files args).exitCode = 1) := by
  refine ⟨⟨fun code => ⟨?_, fun unnoticed => ?_⟩, fun both => exitCode_of_noticed both.1 both.2⟩,
    exitCode_of_unnoticed⟩
  · exact Classical.not_not.mp fun proper => exitCode_of_not_isMisuse proper code
  · rw [exitCode_of_unnoticed unnoticed] at code
    cases code

theorem exitCode_run_eq_two_iff_laterFile :
    (run mixedFiles ["bogus", "missing.tf", "main.tf"]).exitCode = 2 ∧
    Unnoticed mixedFiles ["bogus", "missing.tf"] ∧
    (run mixedFiles ["bogus", "missing.tf"]).exitCode = 1 := by
  have noticed : ¬ Unnoticed mixedFiles ["bogus", "missing.tf", "main.tf"] := by
    rintro ⟨-, -, -, -, unread⟩
    obtain ⟨error, read⟩ := unread "main.tf" (by decide)
    cases read
  have unnoticed : Unnoticed mixedFiles ["bogus", "missing.tf"] := by
    refine ⟨by decide, by decide, by decide, rfl, fun path member => ⟨.notFound, ?_⟩⟩
    rw [List.mem_singleton.mp member]
    rfl
  exact ⟨(exitCode_run_eq_two_iff _ _).1.mpr ⟨.unknown rfl _, noticed⟩, unnoticed,
    (exitCode_run_eq_two_iff _ _).2 unnoticed⟩

/-- An unknown command is misuse, and the exit code does not tell where no file can be read. -/
theorem exitCode_ne_two_of_unreadFiles :
    IsMisuse ["bogus", "missing.tf"] ∧ (run mixedFiles ["bogus", "missing.tf"]).exitCode ≠ 2 :=
  ⟨.unknown rfl _, by decide⟩

end CommandLine

end HclLexis
