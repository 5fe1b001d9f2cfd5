import MathLint.CommandLine.Arguments
import MathLint.CommandLine.Directory
import MathLint.Lint
import MathLint.Report.Text
import MathLint.Text.Line

/-!
# The command line

`CommandLine.run` gives what the program prints and how it exits, for given arguments. The settings,
how files are read, and the text at the standard input are parameters.
-/

namespace MathLint.CommandLine

/-- What the program prints, and its exit status. -/
structure Outcome where
  exit : UInt32
  stdout : String
  stderr : String
  deriving DecidableEq, Repr

/-- How the program is used, in short. -/
def usage : String :=
  "usage: lint_cli.py [-h] [--profile PROFILE] [--strict-renderer-attributes]\n" ++
  "                   [--json]\n" ++
  "                   path\n"

/-- How the program is used. -/
def help : String := usage ++
  "\nLint MathML against a versioned schema profile.\n" ++
  "\npositional arguments:\n" ++
  "  path                  MathML file to lint, or - for stdin\n" ++
  "\noptions:\n" ++
  "  -h, --help            show this help message and exit\n" ++
  "  --profile PROFILE     lint profile (authoring-guidance, strict-core,\n" ++
  "                        presentation-mathml3, core-mathml3, presentation-\n" ++
  "                        mathml4, core-mathml4)\n" ++
  "  --strict-renderer-attributes\n" ++
  "                        report renderer metadata attributes (data-mjx-*) as\n" ++
  "                        unknown\n" ++
  "  --json                print the result as JSON\n"

/-- The outcome of arguments that give no job. -/
def stopped : Arguments.Stop → Outcome
  | .help => ⟨0, help, ""⟩
  | .refused message => ⟨2, "", s!"{usage}lint_cli.py: error: {message}\n"⟩

/-- The outcome of a file that cannot be read. -/
def unread (path : String) (e : ReadError) : Outcome :=
  ⟨2, "", s!"Cannot read {path}: {e.message (Text.quoted (Path.normalize path))}\n"⟩

/-- The outcome of a report. -/
def reported (json : Bool) (r : Report) : Outcome :=
  ⟨if r.hasErrors then 1 else 0, (if json then r.toValue.pretty else r.text) ++ "\n", ""⟩

/-- The options of a job. -/
def optionsOf (settings : Settings) (job : Arguments.Job) : Options :=
  { Options.ofSettings settings with
    profile := .named (.str job.profile)
    ignoreMetadata := !job.strict }

/-- The outcome of a job on a source. -/
def lintSource (settings : Settings) (read : XmlReader) (job : Arguments.Job) (source : String) :
    Except Fault Outcome := do
  return reported job.json (← lint read (optionsOf settings job) Check.all source)

/-- The text of a file: UTF-8, with line feeds as line ends. -/
def decode (octets : List UInt8) : Except Fault String :=
  match Text.Utf8.decode octets with
  | .ok text => .ok (String.ofList (Text.unifyLines text.toList))
  | .error f => .error (.utf8 f)

/-- The outcome of arguments. A job on `-` reads the standard input. -/
def run (settings : Settings) (read : XmlReader)
    (readFile : String → Except ReadError (List UInt8)) (stdin : String)
    (arguments : List String) : Except Fault Outcome :=
  match Arguments.read settings arguments with
  | .error stop => .ok (stopped stop)
  | .ok job =>
    if job.path == "-" then lintSource settings read job stdin
    else if job.path.toList.contains '\x00' then .error .nulInPath
    else
      match readFile job.path with
      | .error e => .ok (unread job.path e)
      | .ok octets => do
        lintSource settings read job (← decode octets)

end MathLint.CommandLine
