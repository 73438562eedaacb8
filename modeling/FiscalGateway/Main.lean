import FiscalGateway.Server.Start

/-!
# The program

The outer layer: it reads the files that a start needs, starts, and prints what came of it. It has
no connection to the network, so a start that gets as far as listening ends there.
-/

namespace FiscalGateway.Server

/-- The number and the wording of an error of the system. -/
def systemErrorOf (e : IO.Error) : SystemError :=
  match e with
  | .noFileOrDirectory _ code details | .permissionDenied _ code details
  | .inappropriateType _ code details | .invalidArgument _ code details =>
    ⟨code.toNat, details⟩
  | e => ⟨5, toString e⟩

/-- Reads files. -/
def readFiles (paths : List String) : IO (List (String × Except SystemError Octets)) :=
  paths.mapM fun (path : String) => do
    match ← (IO.FS.readBinFile path).toBaseIO with
    | .ok content => return (path, .ok content.toList)
    | .error e => return (path, .error (systemErrorOf e))

/-- Reading among the files that were read before. -/
def readAmong (files : List (String × Except SystemError Octets)) : ReadFile := fun path =>
  (files.lookup path).getD (.error .notFound)

/-- The report of causes: the first one, and what stands behind it. -/
def report : List String → List String
  | [] => []
  | [cause] => ["Error: " ++ cause]
  | [cause, source] => ["Error: " ++ cause, "", "Caused by:", "    " ++ source]
  | cause :: sources =>
    ["Error: " ++ cause, "", "Caused by:"] ++
      sources.zipIdx.map fun (source, i) => "    " ++ toString i ++ ": " ++ source

/-- A record for people. -/
def LogRecord.line (r : LogRecord) : String :=
  " ".intercalate (LogRecord.level :: r.message ::
    r.fields.map fun (name, value) => name ++ "=" ++ String.ofList value.write)

/-- Starts with these arguments and prints what came of it. -/
def run (arguments : Arguments) (format : LogFormat) : IO UInt32 := do
  let stderr ← IO.getStderr
  let settingsFiles ← readFiles [arguments.settingsFile]
  let rootFiles := match Settings.load (readAmong settingsFiles) arguments.settingsFile with
    | .ok s => s.trust.merchantRoots s.environment ++ s.trust.authorityRoots
    | .error _ => []
  let files := settingsFiles ++ (← readFiles rootFiles)
  let (ending, records) := start (readAmong files) (fun address => .error address.refusal) arguments
  for record in records do
    stderr.putStrLn (match format with
      | .json => String.ofList record.toJson.write
      | .pretty => record.line)
  for line in report ending.causes do stderr.putStrLn line
  return UInt32.ofNat ending.exitCode

end FiscalGateway.Server

open FiscalGateway.Server in
/-- Does what the command line asks for. -/
def main (words : List String) : IO UInt32 := do
  match Invocation.read words with
  | .help =>
    IO.println usage
    return 0
  | .version =>
    IO.println versionLine
    return 0
  | .misuse =>
    (← IO.getStderr).putStrLn usage
    return 2
  | .start arguments => run arguments (LogFormat.ofText ((← IO.getEnv "LOG_FORMAT").getD ""))
