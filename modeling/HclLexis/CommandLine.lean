import HclLexis.Diagnostics
import HclLexis.Files
import HclLexis.Listing

/-! The command line. A command is applied to each file in turn, and a file that cannot be read
does not keep the others from being treated. The exit code is 0, or 1 if a file failed, or 2 if
the command line itself is at fault. -/

namespace HclLexis.CommandLine

inductive Command where
  | tokens
  | check
deriving DecidableEq

def Command.ofName? (name : String) : Option Command :=
  if name = "tokens" then some tokens
  else if name = "check" then some check
  else none

structure Outcome where
  stdout : String := ""
  stderr : String := ""
  exitCode : Nat := 0
deriving DecidableEq

structure Report where
  stdout : String := ""
  stderr : String := ""
  failed : Bool := false
deriving DecidableEq

def Report.before (report : Report) (outcome : Outcome) : Outcome where
  stdout := report.stdout ++ outcome.stdout
  stderr := report.stderr ++ outcome.stderr
  exitCode := if report.failed && outcome.exitCode = 0 then 1 else outcome.exitCode

def lines (items : List String) : String := String.join (items.map (· ++ "\n"))

def Command.report (command : Command) (path : String) (t : Text) : Report :=
  let tokens := tokenize t
  match command with
  | .tokens => { stdout := Listing.file path tokens }
  | .check => match LexError.ofTokens tokens with
    | [] => { stderr := lines [path ++ ": ok (" ++ toString tokens.length ++ " token(s))"] }
    | errors => {
      stderr := lines (errors.map fun error => path ++ ": " ++ error.message)
      failed := true }

def unreadable (path : String) (error : ReadError) : Report :=
  { stderr := lines [path ++ ": " ++ error.message], failed := true }

def unknownCommand (name : String) : Outcome :=
  { stderr := lines ["Unknown command: " ++ name], exitCode := 2 }

/-- Treats files in turn. Whether the command is known only matters once there is a text to apply
it to; an unknown one ends the run there. -/
def runFiles (files : Files) (name : String) : List String → Outcome
  | [] => {}
  | path :: paths => match files path with
    | .error error => (unreadable path error).before (runFiles files name paths)
    | .ok t => match Command.ofName? name with
      | none => unknownCommand name
      | some command => (command.report path t).before (runFiles files name paths)

def usage : Outcome where
  stderr := lines [
    "Usage: hcl-lex <command> [files...]",
    "",
    "Commands:",
    "  tokens  Print the tokens of each file",
    "  check   Report lexical errors in each file",
    "",
    "Examples:",
    "  hcl-lex tokens main.tf",
    "  hcl-lex check main.tf variables.tf",
    "",
    "Set RUST_LOG=hcl_lexer=trace to trace mode changes."]
  exitCode := 2

def noFiles : Outcome := { stderr := lines ["Error: no files specified"], exitCode := 2 }

def run (files : Files) : List String → Outcome
  | [] => usage
  | name :: paths =>
    if name = "--help" || name = "-h" then usage
    else if paths.isEmpty then noFiles
    else runFiles files name paths

end HclLexis.CommandLine
