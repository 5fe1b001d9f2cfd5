import MathLint.Fault
import MathLint.Path
import MathLint.Text.Lowercase

/-!
# Settings

`Settings.ofEnvironment` reads the settings of the program from environment variables. Where none is
set, they are `Settings.usual`.
-/

namespace MathLint

/-- Environment variables with their values. -/
abbrev Environment := List (String × String)

/-- The settings of the program: where the service listens, where and how much it logs, and what a
caller gets who chooses nothing. -/
structure Settings where
  host : String
  port : Int
  logLevel : String
  defaultProfile : String
  ignoreMetadata : Bool
  metadataPrefixes : List String
  logFile : String
  deriving DecidableEq, Repr

namespace Settings

/-- The value of a variable, or a default. -/
def get (env : Environment) (name otherwise : String) : String := (env.lookup name).getD otherwise

/-- Whether a value switches something on. -/
def isOn (value : String) : Bool :=
  ["1", "true", "yes", "on"].contains (Text.lower (Text.trim value))

/-- What stands between the commas of `cs`, the first of it continuing `entry`, which is held
backwards. -/
def entriesFrom (entry : List Char) : List Char → List (List Char)
  | [] => [entry.reverse]
  | ',' :: cs => entry.reverse :: entriesFrom [] cs
  | c :: cs => entriesFrom (c :: entry) cs

/-- The entries of a list that commas separate: trimmed, in lower case, and none of them empty. -/
def entries (value : String) : List String :=
  (((entriesFrom [] value.toList).map fun entry => Text.trim (String.ofList entry)).filter
    (! ·.isEmpty)).map Text.lower

/-- The name of the log file. -/
def logName : String := "mathml_lint.log"

/-- The home directory, without slashes at its end. -/
def home (env : Environment) : String :=
  let path := String.ofList ((get env "HOME" "/root").toList.reverse.dropWhile (· == '/')).reverse
  if path.isEmpty then "/" else path

/-- The settings where no environment variable is set. -/
def usual : Settings where
  host := "127.0.0.1"
  port := 8000
  logLevel := "INFO"
  defaultProfile := "authoring-guidance"
  ignoreMetadata := true
  metadataPrefixes := ["data-mjx-"]
  logFile := logName

/-- The directory for the log file of a bundled program on a platform. -/
def logDirectory (env : Environment) (platform : String) : String :=
  if platform == "win32" then Path.inside (get env "APPDATA" (home env)) "MathMLLint"
  else Path.inside (home env) ".mathml_lint"

/-- The log file: its name, or its path for a bundled program on a platform. -/
def logPath (env : Environment) : (bundled : Option String) → String
  | none => logName
  | some platform => Path.inside (logDirectory env platform) logName

/-- The variables that settings come from, but for the place of a bundled program's log file. -/
def variableNames : List String := [
  "MATHML_LINT_HOST", "MATHML_LINT_PORT", "MATHML_LINT_LOG_LEVEL", "MATHML_LINT_PROFILE",
  "MATHML_LINT_IGNORE_DATA_MJX", "MATHML_LINT_FOREIGN_PREFIXES"]

/-- The settings that environment variables give, for a program that may be bundled for a
platform. -/
def ofEnvironment (env : Environment) (bundled : Option String) : Except Fault Settings := do
  let port ← match Text.Integer.read (get env "MATHML_LINT_PORT" "8000") with
    | .ok n => .ok n
    | .error e => .error (Fault.integer e)
  return {
    host := get env "MATHML_LINT_HOST" "127.0.0.1"
    port
    logLevel := get env "MATHML_LINT_LOG_LEVEL" "INFO"
    defaultProfile := get env "MATHML_LINT_PROFILE" "authoring-guidance"
    ignoreMetadata := isOn (get env "MATHML_LINT_IGNORE_DATA_MJX" "true")
    metadataPrefixes := entries (get env "MATHML_LINT_FOREIGN_PREFIXES" "data-mjx-")
    logFile := logPath env bundled }

end Settings

end MathLint
