import HclLexis.CommandLine

/-! The program: it reads the files named on the command line, runs the command, and writes what
that has to say. -/

namespace HclLexis

/-- Why the operating system does not give out a file. The number of an error may come negated. -/
def ReadError.ofSystem : IO.Error → ReadError
  | .noFileOrDirectory .. => notFound
  | .inappropriateType _ code _ => if code = 21 || code = -21 then isDirectory else notADirectory
  | .invalidArgument _ code details =>
    if code = 36 || code = -36 then nameTooLong else other details
  | .permissionDenied .. => permissionDenied
  | error => other (toString error)

def readText (path : String) : IO (Except ReadError Text) := do
  try return decodeFile (← IO.FS.readBinFile path)
  catch error => return .error (.ofSystem error)

end HclLexis

open HclLexis

def main (args : List String) : IO UInt32 := do
  let texts ← (args.drop 1).mapM fun path => return (path, ← readText path)
  let outcome := CommandLine.run (fun path => (texts.lookup path).getD (.error .notFound)) args
  IO.print outcome.stdout
  IO.eprint outcome.stderr
  return outcome.exitCode.toUInt32
